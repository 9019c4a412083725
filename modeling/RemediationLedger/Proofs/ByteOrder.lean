/-
The order of texts by their bytes.

A store sorts its rows by the bytes of their keys in UTF-8, and a text begins to
differ from another where its characters do. `Precedes` is the case that matters
for keys that are put together from parts: two lists that differ before either
ends are in one order whatever is appended to them. UTF-8 was made to keep it
(`precedes_utf8EncodeChar`): more bytes begin with a greater first one, and
equally many are the digits of the character's number. A text that goes on
behind another one has more bytes as well, so all texts have the order of their
bytes (`utf8_lt_iff`).

The module is about lists and codes, and it knows nothing of rows. Two other
modules rest on it. Tables list their rows by slots, whose characters decide,
and a store sorts by bytes (`Proofs.Listings`); stamps are compared as texts,
and the order of moments has to be that of the stamps' bytes
(`Proofs.StampOrder`).

* `Precedes.append` and `Precedes.append_left` are what keys made of parts need:
  what follows the difference makes no difference, and what comes before it is
  the same.
* `Precedes.flatMap` lifts an order of members to one of coded lists. It asks
  that the code of a smaller member precede that of a greater one, which for
  UTF-8 is a matter of comparing first bytes and then digits to the base 64.
* `utf8_order` transfers any order that shows in the characters before either
  text ends.
-/
import Mathlib.Data.List.Lex
import Mathlib.Order.Lattice

namespace RemediationLedger

/-- The lists differ before either of them ends, and where they first differ the first one is
smaller. -/
inductive Precedes {α : Type} [LT α] : List α → List α → Prop
  | head {a b : α} {l l' : List α} (lt : a < b) : Precedes (a :: l) (b :: l')
  | tail {a : α} {l l' : List α} (later : Precedes l l') : Precedes (a :: l) (a :: l')

namespace Precedes

variable {α β : Type} [LT α] [LT β] {l l' : List α}

theorem lt (h : Precedes l l') : l < l' := by
  induction h with
  | head lt => exact .rel lt
  | tail _ ih => exact .cons ih

/-- What follows the difference does not matter. -/
theorem append (h : Precedes l l') (x y : List α) : Precedes (l ++ x) (l' ++ y) := by
  induction h with
  | head lt => exact .head lt
  | tail _ ih => exact .tail ih

theorem append_left (h : Precedes l l') (front : List α) :
    Precedes (front ++ l) (front ++ l') := by
  induction front with
  | nil => exact h
  | cons a front ih => exact .tail ih

/-- A code keeps the order of lists if it keeps that of their members in this sense. -/
theorem flatMap {code : α → List β} (keeps : ∀ {a b}, a < b → Precedes (code a) (code b))
    (h : Precedes l l') : Precedes (l.flatMap code) (l'.flatMap code) := by
  induction h with
  | head lt =>
    rw [List.flatMap_cons, List.flatMap_cons]
    exact (keeps lt).append _ _
  | tail _ ih =>
    rw [List.flatMap_cons, List.flatMap_cons]
    exact ih.append_left _

end Precedes

/-- Of two lists in order the first one ends, unless they differ before that. -/
theorem precedes_or_extends {α : Type} [LT α] {l l' : List α} (h : l < l') :
    Precedes l l' ∨ ∃ a rest, l' = l ++ a :: rest := by
  induction h with
  | nil => exact .inr ⟨_, _, rfl⟩
  | rel lt => exact .inl (.head lt)
  | cons _ ih =>
    rcases ih with later | ⟨b, rest, rfl⟩
    · exact .inl (.tail later)
    · exact .inr ⟨b, rest, rfl⟩

/-! ## UTF-8 -/

theorem byte_lt {a b : Nat} (lt : a < b) (small : b < 256) : UInt8.ofNat a < UInt8.ofNat b := by
  rw [UInt8.lt_iff_toNat_lt, UInt8.toNat_ofNat_of_lt' (lt.trans small),
    UInt8.toNat_ofNat_of_lt' small]
  exact lt

/-- Bytes decide by their numbers, and those that follow if the numbers are equal. -/
theorem precedes_byte {a b : Nat} {l l' : List UInt8} (le : a ≤ b) (small : b < 256)
    (rest : a = b → Precedes l l') : Precedes (UInt8.ofNat a :: l) (UInt8.ofNat b :: l') := by
  rcases le.lt_or_eq with lt | rfl
  · exact .head (byte_lt lt small)
  · exact .tail (rest rfl)

/-- A smaller character has a code that comes first. -/
theorem precedes_utf8EncodeChar {c d : Char} (lt : c < d) :
    Precedes (String.utf8EncodeChar c) (String.utf8EncodeChar d) := by
  have numbers : c.val.toNat < d.val.toNat := lt
  have last : d.val.toNat ≤ 0x10ffff := by
    have valid := d.valid
    rcases valid with low | high
    · omega
    · omega
  unfold String.utf8EncodeChar
  dsimp only
  generalize c.val.toNat = m, d.val.toNat = n at numbers last
  -- by the length of the first code: the second one has as many bytes or more
  by_cases one : m ≤ 0x7f
  · rw [if_pos one]
    split
    · exact .head (byte_lt numbers (by omega))
    split
    · exact .head (byte_lt (by omega) (by omega))
    split
    · exact .head (byte_lt (by omega) (by omega))
    · exact .head (byte_lt (by omega) (by omega))
  rw [if_neg one, if_neg (show ¬n ≤ 0x7f by omega)]
  by_cases two : m ≤ 0x7ff
  · rw [if_pos two]
    split
    · exact precedes_byte (by omega) (by omega) fun _ => .head (byte_lt (by omega) (by omega))
    split
    · exact .head (byte_lt (by omega) (by omega))
    · exact .head (byte_lt (by omega) (by omega))
  rw [if_neg two, if_neg (show ¬n ≤ 0x7ff by omega)]
  by_cases three : m ≤ 0xffff
  · rw [if_pos three]
    split
    · exact precedes_byte (by omega) (by omega) fun _ =>
        precedes_byte (by omega) (by omega) fun _ => .head (byte_lt (by omega) (by omega))
    · exact .head (byte_lt (by omega) (by omega))
  · rw [if_neg three, if_neg (show ¬n ≤ 0xffff by omega)]
    exact precedes_byte (by omega) (by omega) fun _ =>
      precedes_byte (by omega) (by omega) fun _ =>
        precedes_byte (by omega) (by omega) fun _ => .head (byte_lt (by omega) (by omega))

def utf8 (s : String) : List UInt8 := s.toUTF8.data.toList

theorem utf8_eq_flatMap (s : String) : utf8 s = s.toList.flatMap String.utf8EncodeChar := by
  unfold utf8
  rw [String.toUTF8_eq_toByteArray, ← String.utf8Encode_toList, List.utf8Encode,
    List.toList_data_toByteArray]

/-- Texts that differ before either ends are sorted by their bytes as by their characters. -/
theorem utf8_lt_of_precedes {s t : String} (h : Precedes s.toList t.toList) :
    utf8 s < utf8 t := by
  rw [utf8_eq_flatMap, utf8_eq_flatMap]
  exact (h.flatMap precedes_utf8EncodeChar).lt

theorem utf8_ne_of_precedes {s t : String} (h : Precedes s.toList t.toList) :
    utf8 s ≠ utf8 t := by
  intro same
  have first := utf8_lt_of_precedes h
  rw [same] at first
  exact List.lt_irrefl _ first

theorem utf8_lt_of_lt {s t : String} (h : s < t) : utf8 s < utf8 t := by
  rcases precedes_or_extends (String.lt_iff.mp h) with differ | ⟨c, rest, longer⟩
  · exact utf8_lt_of_precedes differ
  · -- no character is without bytes
    have more : [] < (c :: rest).flatMap String.utf8EncodeChar := by
      obtain ⟨b, bs, bytes⟩ := List.exists_cons_of_ne_nil (String.utf8EncodeChar_ne_nil (c := c))
      rw [List.flatMap_cons, bytes, List.cons_append]
      exact List.nil_lt_cons b _
    rw [utf8_eq_flatMap, utf8_eq_flatMap, longer, List.flatMap_append]
    simpa using List.append_left_lt more

/-- Texts are sorted by their bytes as they are by their characters. -/
theorem utf8_lt_iff {s t : String} : utf8 s < utf8 t ↔ s < t := by
  rcases Std.lt_trichotomy s t with lt | rfl | gt
  · exact iff_of_true (utf8_lt_of_lt lt) lt
  · exact iff_of_false (List.lt_irrefl _) (String.lt_irrefl s)
  · exact iff_of_false (List.lt_asymm (utf8_lt_of_lt gt)) (String.lt_asymm gt)

/-- Texts that are ordered by something else, and differ before they end where that differs, are
ordered in the same way by their bytes. -/
theorem utf8_order {α : Type} [LinearOrder α] {x y : α} {s t : String}
    (before : x < y → Precedes s.toList t.toList) (same : x = y → s = t)
    (after : y < x → Precedes t.toList s.toList) :
    (utf8 s < utf8 t ↔ x < y) ∧ (utf8 s = utf8 t ↔ x = y) ∧ (utf8 t < utf8 s ↔ y < x) := by
  rcases lt_trichotomy x y with lt | rfl | gt
  · have first := utf8_lt_of_precedes (before lt)
    exact ⟨iff_of_true first lt, iff_of_false (utf8_ne_of_precedes (before lt)) lt.ne,
      iff_of_false (List.lt_asymm first) lt.asymm⟩
  · rw [same rfl]
    simp only [List.lt_irrefl, lt_irrefl, and_self]
  · have first := utf8_lt_of_precedes (after gt)
    exact ⟨iff_of_false (List.lt_asymm first) gt.asymm,
      iff_of_false (utf8_ne_of_precedes (after gt)).symm gt.ne', iff_of_true first gt⟩

end RemediationLedger

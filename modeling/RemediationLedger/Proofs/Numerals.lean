/-
Numerals, and the numbers that they stand for.

A numeral grows at its end: one more digit behind it makes its number ten times
as much and that digit (`Numeral`). The value of a run of digits is computed
from the left, one digit after the other, and grows in the same way
(`digitsValue_concat`), so what is read from a text is what the numeral in it
stands for (`readDigits?_eq_some_iff`). Zeros in front make no difference to
either.

Whether a number fits into 64 bits is asked at the end, of the number. So the
ends of the range, which are not the same on both sides, need no case of their
own (`readWord?_eq_some_iff`), and a number that was written out is read back
because it is written as a numeral of itself (`signedNumeral_toString`).

## How the proof goes

Reading goes from the left and numerals grow on the right, so the two meet in an
induction from the end of a list (`numeral_digitsValue`). After that the reader
and the numeral are one notion, and the rest is about what may stand around
digits: a sign in front, which is no digit itself (`Numeral.head_ne`), and
nothing behind.

`integers_come_back` has two halves. Every integer of signed 64 bits that is
made a number value is read back as itself. And of an arbitrary number value,
whose text may come from anywhere, it says which integer is read: the one that
the text spells, if it spells one and it fits. A text with a point, with an
exponent, with blanks or with digits beyond ASCII spells none, and nothing is
read from it. Zeros in front and a plus sign are no obstacle.
-/
import Mathlib.Data.List.Induction
import RemediationLedger.Item

namespace RemediationLedger

/-- One or more ASCII digits and the number that they stand for. -/
inductive Numeral : List Char → Nat → Prop where
  | digit {d : Nat} (small : d < 10) : Numeral [d.digitChar] d
  | more {digits : List Char} {n d : Nat} (front : Numeral digits n) (small : d < 10) :
    Numeral (digits ++ [d.digitChar]) (10 * n + d)

/-- A numeral behind at most one sign, and the integer that it stands for. -/
inductive SignedNumeral : List Char → Int → Prop where
  | unsigned {digits : List Char} {n : Nat} (numeral : Numeral digits n) : SignedNumeral digits n
  | plus {digits : List Char} {n : Nat} (numeral : Numeral digits n) :
    SignedNumeral ('+' :: digits) n
  | minus {digits : List Char} {n : Nat} (numeral : Numeral digits n) :
    SignedNumeral ('-' :: digits) (-n)

structure SpellsWord (text : List Char) (i : Int) : Prop where
  numeral : SignedNumeral text i
  lower : -0x8000000000000000 ≤ i
  upper : i < 0x8000000000000000

/-! ## Digits -/

section Digits

variable {digits : List Char} {n : Nat}

/-- A digit is the character of its value. -/
theorem digitChar_of_isDigit {c : Char} (digit : c.isDigit) :
    c.toNat - '0'.toNat < 10 ∧ (c.toNat - '0'.toNat).digitChar = c := by
  obtain ⟨low, high⟩ : 48 ≤ c.toNat ∧ c.toNat ≤ 57 := by
    simpa [Char.isDigit, UInt32.le_iff_toNat_le] using digit
  have small : c.toNat - '0'.toNat < 10 := by
    show c.toNat - 48 < 10
    omega
  refine ⟨small, ?_⟩
  apply Char.toNat_inj.mp
  rw [Nat.toNat_digitChar_of_lt_ten small]
  show 48 + (c.toNat - 48) = c.toNat
  omega

/-- The value of a digit is what it shows. -/
theorem value_digitChar {d : Nat} (small : d < 10) : d.digitChar.toNat - '0'.toNat = d := by
  rw [Nat.toNat_digitChar_of_lt_ten small]
  show 48 + d - 48 = d
  omega

theorem digitsValue_concat (digits : List Char) (c : Char) :
    digitsValue (digits ++ [c]) = 10 * digitsValue digits + (c.toNat - '0'.toNat) := by
  simp [digitsValue]

theorem Numeral.ne_nil (h : Numeral digits n) : digits ≠ [] := by
  cases h with
  | digit => simp
  | more => simp

theorem Numeral.isDigit (h : Numeral digits n) : ∀ c ∈ digits, c.isDigit := by
  induction h with
  | digit small => simpa using small
  | more front small ih =>
    intro c member
    rcases List.mem_append.mp member with member | member
    · exact ih c member
    · simp only [List.mem_singleton] at member
      simpa [member] using small

theorem Numeral.digitsValue_eq (h : Numeral digits n) : digitsValue digits = n := by
  induction h with
  | digit small => simpa [digitsValue] using value_digitChar small
  | more front small ih => rw [digitsValue_concat, ih, value_digitChar small]

/-- Digits are a numeral of their value. The induction is from the end, as numerals grow. -/
theorem numeral_digitsValue (given : digits ≠ []) (all : ∀ c ∈ digits, c.isDigit) :
    Numeral digits (digitsValue digits) := by
  induction digits using List.reverseRecOn with
  | nil => exact absurd rfl given
  | append_singleton front c ih =>
    obtain ⟨small, char⟩ := digitChar_of_isDigit (all c (by simp))
    rw [digitsValue_concat]
    by_cases first : front = []
    · subst first
      have last : Numeral [(c.toNat - '0'.toNat).digitChar] (c.toNat - '0'.toNat) := .digit small
      rw [char] at last
      simpa [digitsValue] using last
    · have before := ih first fun c' member => all c' (by simp [member])
      have last := Numeral.more before small
      rwa [char] at last

theorem readDigits?_eq_some_iff : readDigits? digits = some n ↔ Numeral digits n := by
  constructor
  · intro read
    unfold readDigits? at read
    split at read
    · rename_i given
      simp only [Bool.and_eq_true, Bool.not_eq_true', List.isEmpty_eq_false_iff,
        List.all_eq_true] at given
      cases read
      exact numeral_digitsValue given.1 given.2
    · cases read
  · intro numeral
    have given : (!digits.isEmpty && digits.all Char.isDigit) = true := by
      simpa using ⟨numeral.ne_nil, numeral.isDigit⟩
    rw [readDigits?, if_pos given, numeral.digitsValue_eq]

end Digits

/-! ## Signs -/

section Signs

variable {text : List Char} {i : Int}

/-- A sign is no digit, so a numeral has none. -/
theorem Numeral.head_ne {c sign : Char} {cs : List Char} {n : Nat} (h : Numeral (c :: cs) n)
    (other : sign.isDigit = false) : c ≠ sign := by
  rintro rfl
  have digit := h.isDigit c (by simp)
  rw [other] at digit
  cases digit

theorem readSigned?_eq_some_iff : readSigned? text = some i ↔ SignedNumeral text i := by
  constructor
  · intro read
    cases text with
    | nil => cases read
    | cons c cs =>
      rw [readSigned?] at read
      split at read
      · rename_i plus
        obtain ⟨n, digits, rfl⟩ := Option.map_eq_some_iff.mp read
        exact plus ▸ .plus (readDigits?_eq_some_iff.mp digits)
      · split at read
        · rename_i minus
          obtain ⟨n, digits, rfl⟩ := Option.map_eq_some_iff.mp read
          exact minus ▸ .minus (readDigits?_eq_some_iff.mp digits)
        · obtain ⟨n, digits, rfl⟩ := Option.map_eq_some_iff.mp read
          exact .unsigned (readDigits?_eq_some_iff.mp digits)
  · intro numeral
    cases numeral with
    | plus digits =>
      rw [readSigned?, if_pos rfl, readDigits?_eq_some_iff.mpr digits]
      rfl
    | minus digits =>
      rw [readSigned?, if_neg (by decide), if_pos rfl, readDigits?_eq_some_iff.mpr digits]
      rfl
    | unsigned digits =>
      cases text with
      | nil => exact absurd rfl digits.ne_nil
      | cons c cs =>
        rw [readSigned?, if_neg (digits.head_ne rfl), if_neg (digits.head_ne rfl),
          readDigits?_eq_some_iff.mpr digits]
        rfl

/-- What is read as a signed 64-bit integer, and from which texts. -/
theorem readWord?_eq_some_iff : readWord? text = some i ↔ SpellsWord text i := by
  unfold readWord?
  rw [Option.filter_eq_some_iff, readSigned?_eq_some_iff, decide_eq_true_iff]
  constructor
  · rintro ⟨numeral, lower, upper⟩
    exact ⟨numeral, lower, upper⟩
  · rintro ⟨numeral, lower, upper⟩
    exact ⟨numeral, lower, upper⟩

end Signs

/-! ## Numbers written out -/

/-- The decimal digits of a number are a numeral of it. -/
theorem numeral_toDigits (n : Nat) : Numeral (Nat.toDigits 10 n) n := by
  induction n using Nat.strongRecOn with
  | ind n ih =>
    rw [Nat.toDigits_eq_if (by decide)]
    split
    · rename_i small
      exact .digit small
    · have front := ih (n / 10) (by omega)
      have whole := Numeral.more front (Nat.mod_lt n (by decide))
      rwa [Nat.div_add_mod] at whole

theorem signedNumeral_toString (i : Int) : SignedNumeral (toString i).toList i := by
  cases i with
  | ofNat n =>
    show SignedNumeral n.repr.toList n
    rw [Nat.toList_repr]
    exact .unsigned (numeral_toDigits n)
  | negSucc n =>
    show SignedNumeral ("-" ++ (n + 1).repr).toList (-((n + 1 : Nat) : Int))
    rw [String.toList_append, Nat.toList_repr]
    exact .minus (numeral_toDigits (n + 1))

namespace Value

/-- **Numbers come back from their values.** A signed 64-bit integer is read back from the value
that is made of it. Of any number value, an integer is read if and only if the text is one or more
digits behind at most one sign and stands for that integer, which must lie within 64 bits; any other
number value has none. -/
theorem integers_come_back :
    (∀ v : Int64, (ofInt v.toInt).asInt? = some v.toInt) ∧
      ∀ decimal : String,
        (∀ v : Int, (number decimal).asInt? = some v ↔
          SignedNumeral decimal.toList v ∧ -0x8000000000000000 ≤ v ∧ v < 0x8000000000000000) ∧
        ((number decimal).asInt? = none ↔ ∀ v : Int, ¬(SignedNumeral decimal.toList v ∧
          -0x8000000000000000 ≤ v ∧ v < 0x8000000000000000)) := by
  have reads : ∀ (decimal : String) (v : Int), (number decimal).asInt? = some v ↔
      SignedNumeral decimal.toList v ∧ -0x8000000000000000 ≤ v ∧ v < 0x8000000000000000 := by
    intro decimal v
    show readWord? decimal.toList = some v ↔ _
    rw [readWord?_eq_some_iff]
    exact ⟨fun h => ⟨h.numeral, h.lower, h.upper⟩, fun h => ⟨h.1, h.2.1, h.2.2⟩⟩
  refine ⟨?_, fun decimal => ⟨reads decimal, ?_⟩⟩
  · intro v
    exact (reads _ _).mpr ⟨signedNumeral_toString _, v.le_toInt, v.toInt_lt⟩
  · rw [Option.eq_none_iff_forall_ne_some]
    exact forall_congr' fun v => not_congr (reads decimal v)

example : asInt? (number "-009223372036854775808") = some (-9223372036854775808) ∧
    asInt? (number "9223372036854775808") = none ∧ asInt? (number "+-1") = none := by decide

end Value

end RemediationLedger

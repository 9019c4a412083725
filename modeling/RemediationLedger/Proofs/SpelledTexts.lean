/-
What the inside of a string spells, and what is read where a value stands.

A reader of strings undoes the escapes as it goes, and carries the first half of
a surrogate pair along until the second one has come. Said without the reader,
the inside of a string spells a text (`Spells`), and a pair is one step of that.
The reader finds this text and leaves over what follows the closing quote
(`unquote_eq_ok_iff`).

Some insides of strings spell nothing, since half a pair stands in them. So what
comes of reading depends on the value that is there, but never on what follows
it (`readText_value`, `readOptionalText_value`).

* `Spells` has constructors for a plain character, for the two kinds of escapes
  and for a pair. What is spelled is unique (`Spells.unique`), although most
  texts have several spellings.
* The reader's state, a first half that waits for its second one, occurs in
  `exists_of_lead` alone. Behind it the next thing must be an escape with the
  other half, and the two are then one step of the spelling.
* `readText_value` and `readOptionalText_value` are about a value of any kind
  where a text is asked for: there is a text exactly if the value is a string
  that spells one, and `null` is no text but the absence of one where that is
  allowed.

The last point is what the layout of requests rests on. A field finds the end of
its value, whichever value it is, and what is behind the value plays no part
(`Proofs.ObjectLayout`).
-/
import RemediationLedger.Proofs.JsonGrammar

namespace RemediationLedger.Json

variable {body cs rest : List Char} {s : List Char}

/-! ## Spelling -/

/-- The inside of a string spells a text. -/
inductive Spells : List Char → List Char → Prop where
  | nil : Spells [] []
  | plain {c : Char} {body s : List Char} (noQuote : c ≠ '"') (noBackslash : c ≠ '\\')
    (noControl : ¬ c.toNat < 0x20) (later : Spells body s) : Spells (c :: body) (c :: s)
  | short {letter c : Char} {body s : List Char} (escape : shortEscape? letter = some c)
    (later : Spells body s) : Spells ('\\' :: letter :: body) (c :: s)
  | unit {a b c d : Char} {n : Nat} {body s : List Char} (value : unitValue? a b c d = some n)
    (noTrailing : isTrailing n = false) (noLeading : isLeading n = false) (later : Spells body s) :
    Spells ('\\' :: 'u' :: a :: b :: c :: d :: body) (Char.ofNat n :: s)
  | pair {a b c d a' b' c' d' : Char} {high low : Nat} {body s : List Char}
    (first : unitValue? a b c d = some high) (noTrailing : isTrailing high = false)
    (isLeading : isLeading high)
    (second : unitValue? a' b' c' d' = some low) (isTrailing : isTrailing low)
    (later : Spells body s) :
    Spells ('\\' :: 'u' :: a :: b :: c :: d :: '\\' :: 'u' :: a' :: b' :: c' :: d' :: body)
      (Char.ofNat (0x10000 + (high - 0xD800) * 0x400 + (low - 0xDC00)) :: s)

theorem Spells.isBody (h : Spells body s) : IsBody body := by
  induction h with
  | nil => exact .nil
  | plain noQuote noBackslash noControl later ih => exact .plain noQuote noBackslash noControl ih
  | short escape later ih => exact .short escape ih
  | unit value noTrailing noLeading later ih => exact .unit value ih
  | pair first noTrailing isLeading second isTrailing later ih =>
    exact .unit first (.unit second ih)

/-- The first quote outside an escape ends the inside of a string. -/
theorem IsBody.eq_of_append_quote {body' rest' : List Char} (inside : IsBody body)
    (inside' : IsBody body') (same : body ++ '"' :: rest = body' ++ '"' :: rest') :
    body = body' ∧ rest = rest' := by
  -- the skipping machine stops at one place only
  have stops : ∀ {b r : List Char}, IsBody b →
      skipFrom [] (.text false) (b ++ '"' :: r) = .ok r := by
    intro b r inside
    rw [skipFrom_body inside]
    rfl
  have sameRest : rest = rest' :=
    Except.ok.inj ((stops inside).symm.trans (same ▸ stops inside'))
  subst sameRest
  exact ⟨List.append_cancel_right same, rfl⟩

/-! ## Reading strings -/

theorem unquote_of_spells (h : Spells body s) (rest : List Char) :
    unquote (body ++ '"' :: rest) = .ok (s, rest) := by
  unfold unquote
  induction h with
  | nil => rw [List.nil_append, unquoteAfter]; rfl
  | plain noQuote noBackslash noControl later ih =>
    rw [List.cons_append, unquoteAfter, if_neg noBackslash, Option.isSome_none,
      if_neg Bool.false_ne_true, if_neg noQuote, if_neg noControl, ih]
    rfl
  | @short letter c body s escape later ih =>
    have other : letter ≠ 'u' := by rintro rfl; cases escape
    rw [List.cons_append, List.cons_append, unquoteAfter, if_pos rfl, unescape, if_neg other,
      Option.isSome_none, if_neg Bool.false_ne_true, escape]
    simp only [ih, prepend]
  | unit value noTrailing noLeading later ih =>
    simp only [List.cons_append]
    rw [unquoteAfter, if_pos rfl, unescape, if_pos rfl, unescapeUnit, value]
    simp [noTrailing, noLeading, ih, prepend]
  | pair first noTrailing isLeading second isTrailing later ih =>
    -- the reader goes round twice, with the first half in hand the second time
    simp only [List.cons_append]
    rw [unquoteAfter, if_pos rfl, unescape, if_pos rfl, unescapeUnit, first]
    simp only [noTrailing, isLeading, Bool.false_eq_true, if_false, if_true]
    rw [unquoteAfter, if_pos rfl, unescape, if_pos rfl, unescapeUnit, second]
    simp only [isTrailing, if_true, ih, prepend]

theorem exists_of_unescapeUnit {lead : Option Nat} {r : List Char × List Char}
    (h : unescapeUnit lead cs = .ok r) :
    ∃ a b c d n cs', cs = a :: b :: c :: d :: cs' ∧ unitValue? a b c d = some n := by
  rcases cs with _ | ⟨a, _ | ⟨b, _ | ⟨c, _ | ⟨d, cs⟩⟩⟩⟩
  case cons.cons.cons.cons =>
    cases value : unitValue? a b c d with
    | some n => exact ⟨a, b, c, d, n, cs, rfl, value⟩
    | none =>
      rw [unescapeUnit, value] at h
      cases h
  all_goals
    simp only [unescapeUnit] at h
    split at h <;> cases h

/-- Behind the first half of a pair comes the second one. -/
theorem exists_of_lead {high : Nat} (h : unquoteAfter (some high) cs = .ok (s, rest)) :
    ∃ a b c d low cs' s', cs = '\\' :: 'u' :: a :: b :: c :: d :: cs' ∧
      unitValue? a b c d = some low ∧ isTrailing low ∧ unquote cs' = .ok (s', rest) ∧
      s = Char.ofNat (0x10000 + (high - 0xD800) * 0x400 + (low - 0xDC00)) :: s' := by
  cases cs with
  | nil => rw [unquoteAfter] at h; cases h
  | cons c cs =>
    rw [unquoteAfter] at h
    split at h
    · rename_i isBackslash
      subst isBackslash
      cases cs with
      | nil => rw [unescape] at h; cases h
      | cons letter cs =>
        rw [unescape] at h
        split at h
        · rename_i isUnit
          subst isUnit
          obtain ⟨a, b, c, d, low, cs, rfl, value⟩ := exists_of_unescapeUnit h
          rw [unescapeUnit, value] at h
          simp only at h
          split at h
          · rename_i isTrailing
            obtain ⟨s', read, rfl⟩ := prepend_eq_ok h
            exact ⟨a, b, c, d, low, cs, s', rfl, value, isTrailing, read, rfl⟩
          · cases h
        · cases h
    · cases h

/-- The inside of a string spells one text. -/
theorem Spells.unique {s' : List Char} (h : Spells body s) (h' : Spells body s') : s = s' := by
  have same := (unquote_of_spells h []).symm.trans (unquote_of_spells h' [])
  cases same
  rfl

/-- Behind a backslash comes an escape, or two that make a pair. -/
theorem exists_of_unescape (h : unescape none cs = .ok (s, rest)) :
    ∃ escape cs' s', cs = escape ++ cs' ∧ unquote cs' = .ok (s', rest) ∧
      ∀ body, Spells body s' → Spells ('\\' :: (escape ++ body)) s := by
  cases cs with
  | nil => rw [unescape] at h; cases h
  | cons letter cs =>
    rw [unescape] at h
    split at h
    · rename_i isUnit
      subst isUnit
      obtain ⟨a, b, c, d, n, cs, rfl, value⟩ := exists_of_unescapeUnit h
      rw [unescapeUnit, value] at h
      simp only at h
      split at h
      · cases h
      · rename_i noTrailing
        rw [Bool.not_eq_true] at noTrailing
        split at h
        · rename_i isLeading
          obtain ⟨a', b', c', d', low, cs, s, rfl, value', isTrailing, read, rfl⟩ :=
            exists_of_lead h
          exact ⟨['u', a, b, c, d, '\\', 'u', a', b', c', d'], cs, s, rfl, read,
            fun body => .pair value noTrailing isLeading value' isTrailing⟩
        · rename_i noLeading
          rw [Bool.not_eq_true] at noLeading
          obtain ⟨s, read, rfl⟩ := prepend_eq_ok h
          exact ⟨['u', a, b, c, d], cs, s, rfl, read, fun body => .unit value noTrailing noLeading⟩
    · split at h
      · cases h
      · split at h
        · cases h
        · rename_i escape
          obtain ⟨s, read, rfl⟩ := prepend_eq_ok h
          exact ⟨[letter], cs, s, rfl, read, fun body => .short escape⟩

theorem exists_of_unquote (h : unquote cs = .ok (s, rest)) :
    ∃ body, cs = body ++ '"' :: rest ∧ Spells body s := by
  induction left : cs.length using Nat.strongRecOn generalizing cs s with
  | ind n ih =>
    cases cs with
    | nil => rw [unquote, unquoteAfter] at h; cases h
    | cons c cs =>
      rw [unquote, unquoteAfter] at h
      rw [List.length_cons] at left
      split at h
      · rename_i isBackslash
        obtain ⟨escape, cs, s', rfl, read, spelled⟩ := exists_of_unescape h
        rw [List.length_append] at left
        obtain ⟨body, rfl, spells⟩ := ih _ (by omega) read rfl
        exact ⟨'\\' :: (escape ++ body), by simp [isBackslash], spelled body spells⟩
      · rename_i noBackslash
        split at h
        · cases h
        · split at h
          · rename_i isQuote
            cases h
            exact ⟨[], by rw [isQuote]; rfl, .nil⟩
          · rename_i noQuote
            split at h
            · cases h
            · rename_i noControl
              obtain ⟨s', read, rfl⟩ := prepend_eq_ok h
              obtain ⟨body, rfl, spells⟩ := ih _ (by omega) read rfl
              exact ⟨c :: body, rfl, .plain noQuote noBackslash noControl spells⟩

/-- The reader of a string finds what the inside of it spells, if anything. -/
theorem unquote_eq_ok_iff {after : List Char} (inside : IsBody body) :
    unquote (body ++ '"' :: rest) = .ok (s, after) ↔ Spells body s ∧ after = rest := by
  constructor
  · intro h
    obtain ⟨body', same, spells⟩ := exists_of_unquote h
    obtain ⟨rfl, rfl⟩ := inside.eq_of_append_quote spells.isBody same
    exact ⟨spells, rfl⟩
  · rintro ⟨spells, rfl⟩
    exact unquote_of_spells spells _

/-! ## Reading values -/

theorem dropGaps_gap {gap : List Char} (blank : IsGapText gap) (cs : List Char) :
    dropGaps (gap ++ cs) = dropGaps cs :=
  List.dropWhile_append_of_pos blank

theorem dropGaps_cons {c : Char} (noGap : isGap c = false) (cs : List Char) :
    dropGaps (c :: cs) = c :: cs :=
  List.dropWhile_cons_of_neg (by simp [noGap])

theorem readKey_body {key : List Char} {name : String} {after : List Char} (inside : IsBody key) :
    readKey ('"' :: (key ++ '"' :: rest)) = .ok (name, after) ↔
      Spells key name.toList ∧ after = rest := by
  rw [readKey, if_pos rfl, ← unquote_eq_ok_iff inside]
  cases unquote (key ++ '"' :: rest) with
  | error e => simp
  | ok r =>
    obtain ⟨s, after⟩ := r
    simp [← String.toList_inj]

def IsText (v : List Char) (s : String) : Prop :=
  ∃ body, v = '"' :: (body ++ ['"']) ∧ Spells body s.toList

/-- What is read of a string is what its inside spells. -/
theorem readText_body {gap : List Char} {s : String} {after : List Char} (blank : IsGapText gap)
    (inside : IsBody body) :
    readText (gap ++ '"' :: (body ++ '"' :: rest)) = .ok (s, after) ↔
      Spells body s.toList ∧ after = rest := by
  rw [readText, dropGaps_gap blank, dropGaps_cons rfl, ← unquote_eq_ok_iff inside]
  simp only [if_true]
  cases unquote (body ++ '"' :: rest) with
  | error e => simp
  | ok r =>
    obtain ⟨s, after⟩ := r
    simp [← String.toList_inj]

/-- What does not start like a string is not read as one. -/
theorem readText_other {gap : List Char} {c : Char} (blank : IsGapText gap)
    (noGap : isGap c = false) (noQuote : c ≠ '"') (r : String × List Char) :
    readText (gap ++ c :: cs) ≠ .ok r := by
  rw [readText, dropGaps_gap blank, dropGaps_cons noGap]
  simp [noQuote]

def null : List Char := ['n', 'u', 'l', 'l']

theorem isValue_null : IsValue null := .word (by simp [words, null])

/-- A value is a string, or `null`, or starts like neither of them. -/
theorem IsValue.string_or_null_or_other {v : List Char} (value : IsValue v) :
    (∃ body, v = '"' :: (body ++ ['"']) ∧ IsBody body) ∨ v = null ∨
      ∃ c cs, v = c :: cs ∧ isGap c = false ∧ c ≠ '"' ∧ c ≠ 'n' := by
  cases value with
  | word listed =>
    simp only [words, List.mem_cons, List.not_mem_nil, or_false] at listed
    rcases listed with rfl | rfl | rfl
    · exact .inr (.inl rfl)
    · exact .inr (.inr ⟨_, _, rfl, rfl, by decide, by decide⟩)
    · exact .inr (.inr ⟨_, _, rfl, rfl, by decide, by decide⟩)
  | number number =>
    obtain ⟨c, cs, rfl, start⟩ := number.starts
    obtain ⟨_, _, same, noGap, -⟩ := (IsValue.number number).starts
    cases same
    refine .inr (.inr ⟨c, cs, rfl, noGap, ?_, ?_⟩)
    · rintro rfl; simp at start
    · rintro rfl; simp at start
  | text inside => exact .inl ⟨_, rfl, inside⟩
  | list => exact .inr (.inr ⟨_, _, rfl, rfl, by decide, by decide⟩)
  | object => exact .inr (.inr ⟨_, _, rfl, rfl, by decide, by decide⟩)

theorem isText_string {s : String} : IsText ('"' :: (body ++ ['"'])) s ↔ Spells body s.toList := by
  constructor
  · rintro ⟨body', same, spells⟩
    rwa [List.append_cancel_right (List.cons.inj same).2]
  · exact fun spells => ⟨body, rfl, spells⟩

theorem IsText.unique {v : List Char} {s s' : String} (h : IsText v s) (h' : IsText v s') :
    s = s' := by
  obtain ⟨body, rfl, spells⟩ := h
  exact String.toList_inj.mp (spells.unique (isText_string.mp h'))

theorem not_isText {c : Char} (noQuote : c ≠ '"') (cs : List Char) (s : String) :
    ¬ IsText (c :: cs) s := by
  rintro ⟨body, same, -⟩
  exact noQuote (List.cons.inj same).1

/-- What does not start like `null` is read as a string or not at all. -/
theorem readOptionalText_other {gap : List Char} {c : Char} (blank : IsGapText gap)
    (noGap : isGap c = false) (noN : c ≠ 'n') {x : Option String} {after : List Char} :
    readOptionalText (gap ++ c :: cs) = .ok (x, after) ↔
      ∃ s, x = some s ∧ readText (c :: cs) = .ok (s, after) := by
  rw [readOptionalText, dropGaps_gap blank, dropGaps_cons noGap]
  simp only [if_neg noN]
  cases readText (c :: cs) with
  | error e => simp
  | ok r =>
    obtain ⟨s, after⟩ := r
    constructor
    · rintro ⟨⟩
      exact ⟨s, rfl, rfl⟩
    · rintro ⟨s, rfl, ⟨⟩⟩
      rfl

section Values

variable {gap v after : List Char}

theorem readText_value {s : String} (blank : IsGapText gap) (value : IsValue v) :
    readText (gap ++ (v ++ rest)) = .ok (s, after) ↔ IsText v s ∧ after = rest := by
  have other {c : Char} {cs : List Char} (noGap : isGap c = false) (noQuote : c ≠ '"') :
      readText (gap ++ (c :: cs ++ rest)) = .ok (s, after) ↔ IsText (c :: cs) s ∧ after = rest :=
    iff_of_false (readText_other blank noGap noQuote _) fun h => not_isText noQuote cs s h.1
  rcases value.string_or_null_or_other with ⟨body, rfl, inside⟩ | rfl |
    ⟨c, cs, rfl, noGap, noQuote, -⟩
  · rw [isText_string, ← readText_body blank inside]
    simp
  · exact other rfl (by decide)
  · exact other noGap noQuote

theorem readOptionalText_value {x : Option String} (blank : IsGapText gap) (value : IsValue v) :
    readOptionalText (gap ++ (v ++ rest)) = .ok (x, after) ↔
      ((v = null ∧ x = none) ∨ ∃ s, x = some s ∧ IsText v s) ∧ after = rest := by
  by_cases isNull : v = null
  · subst isNull
    have noText (s : String) : ¬ IsText ['n', 'u', 'l', 'l'] s := not_isText (by decide) _ s
    rw [readOptionalText, dropGaps_gap blank, null, List.cons_append, dropGaps_cons rfl]
    simp [readWord, noText, eq_comm]
  · have other {c : Char} {cs : List Char} (same : v = c :: cs) (noGap : isGap c = false)
        (noN : c ≠ 'n') : readOptionalText (gap ++ (v ++ rest)) = .ok (x, after) ↔
          ((v = null ∧ x = none) ∨ ∃ s, x = some s ∧ IsText v s) ∧ after = rest := by
      have read (s : String) : readText ([] ++ (v ++ rest)) = .ok (s, after) ↔
          IsText v s ∧ after = rest :=
        readText_value isGapText_nil value
      rw [List.nil_append, same, List.cons_append] at read
      rw [same, List.cons_append, readOptionalText_other blank noGap noN]
      simp only [read, ← same, isNull, false_and, false_or]
      constructor
      · rintro ⟨s, known, text, rest⟩
        exact ⟨⟨s, known, text⟩, rest⟩
      · rintro ⟨⟨s, known, text⟩, rest⟩
        exact ⟨s, known, text, rest⟩
    rcases value.string_or_null_or_other with ⟨body, rfl, inside⟩ | isNull' |
      ⟨c, cs, rfl, noGap, -, noN⟩
    · exact other rfl rfl (by decide)
    · exact absurd isNull' isNull
    · exact other rfl noGap noN

end Values

end RemediationLedger.Json

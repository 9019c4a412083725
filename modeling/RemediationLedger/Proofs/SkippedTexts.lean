/-
What the skipping machine passes over is a value.

The machine says no more about a text than where it stops. So the value is found
by cutting the text up: a run of gaps or digits at its front is a matter of the
text alone (`exists_run`), and what the machine accepts behind such a run says
which token must come next. Inside a list or an object the cut leaves a shorter
text to which the same statement applies, and this is what the induction is on
(`startsWithValue`): the length of the text, not the stack.

Together with the way back this makes the machine a recogniser of JSON texts
(`isJson_iff`).

## How the proof goes

Each lemma named `exists_…` takes a run of the machine from some state on and
finds the text that it has passed over, up to where it stands then. They come in
the order of the grammar: the rest of an escape and of a string, the parts of a
number from the exponent to the whole, the words, and then lists and objects,
whose items are found under the hypothesis of the induction (`FindsValues`).

The hypothesis is about texts below a bound, because a list is cut into several
pieces and each of them has to be shorter than the whole. A cut at an item needs
to know that the item is followed by a comma or by the end (`exists_separator`),
and this again is read off what the machine accepts.

`exists_of_skipValue` is the result that other modules use. `isJson_iff` is the
same for a whole text, with gaps at its end.
-/
import Mathlib.Data.List.TakeWhile
import RemediationLedger.Proofs.JsonGrammar

namespace RemediationLedger.Json

variable {stack : List Frame} {expect next : Expect} {c : Char} {cs rest : List Char}

/-! ## Runs -/

/-- Any text begins with a run of the characters that are asked for, be it empty. -/
theorem exists_run (p : Char → Bool) (cs : List Char) :
    ∃ run cs', cs = run ++ cs' ∧ (∀ c ∈ run, p c) ∧ ∀ c ∈ cs'.head?, p c = false := by
  refine ⟨cs.takeWhile p, cs.dropWhile p, List.takeWhile_append_dropWhile.symm,
    fun c => List.mem_takeWhile_imp, fun c first => ?_⟩
  have stop := List.head?_dropWhile_not p cs
  rwa [Option.mem_def.mp first] at stop

/-- A machine that must go on to accept a text does not accept its end. -/
theorem exists_cons (refuses : ∀ after, atEnd stack expect ≠ .ok after)
    (h : skipFrom stack expect cs = .ok rest) :
    ∃ c cs', cs = c :: cs' ∧ ∀ e, move stack c cs' expect ≠ .fail e := by
  cases cs with
  | nil => exact absurd h (refuses rest)
  | cons c cs =>
    refine ⟨c, cs, rfl, fun e failed => ?_⟩
    rw [skipFrom, failed] at h
    cases h

/-- Where a digit must stand, an accepted text has digits. -/
theorem exists_isDigits (refuses : ∀ after, atEnd stack expect ≠ .ok after)
    (starts : ∀ d cs, d.isDigit → move stack d cs expect = .go stack next)
    (fails : ∀ c cs, c.isDigit = false → move stack c cs expect = .fail .malformed)
    (passes : ∀ d cs, d.isDigit → move stack d cs next = .go stack next)
    (h : skipFrom stack expect cs = .ok rest) :
    ∃ ds cs', cs = ds ++ cs' ∧ IsDigits ds ∧ (∀ c ∈ cs'.head?, c.isDigit = false) ∧
      skipFrom stack next cs' = .ok rest := by
  obtain ⟨d, cs, rfl, accepted⟩ := exists_cons refuses h
  cases digit : d.isDigit with
  | false => exact absurd (fails d cs digit) (accepted _)
  | true =>
    obtain ⟨ds, cs, rfl, digits, ends⟩ := exists_run Char.isDigit cs
    rw [skipFrom_go (starts d _ digit), skipFrom_digits passes digits] at h
    exact ⟨d :: ds, cs, rfl, .cons digit digits, ends, h⟩

/-! ## Strings -/

def behindDigit (isKey : Bool) : (more : Nat) → Expect
  | 0 => .text isKey
  | more + 1 => .unit isKey more

theorem exists_hex {isKey : Bool} {more : Nat}
    (h : skipFrom stack (.unit isKey more) cs = .ok rest) :
    ∃ p cs', cs = p :: cs' ∧ (hexValue? p).isSome ∧
      skipFrom stack (behindDigit isKey more) cs' = .ok rest := by
  obtain ⟨p, cs, rfl, accepted⟩ := exists_cons (by simp [atEnd]) h
  cases value : hexValue? p with
  | none => exact absurd (by simp [move, value]) (accepted .malformed)
  | some n =>
    have moved : move stack p cs (.unit isKey more) = .go stack (behindDigit isKey more) := by
      cases more <;> simp [move, value, behindDigit]
    exact ⟨p, cs, rfl, by simp [value], by rwa [skipFrom_go moved] at h⟩

theorem exists_unit {isKey : Bool} (h : skipFrom stack (.unit isKey 3) cs = .ok rest) :
    ∃ p q r s n cs', cs = p :: q :: r :: s :: cs' ∧ unitValue? p q r s = some n ∧
      skipFrom stack (.text isKey) cs' = .ok rest := by
  obtain ⟨p, cs, rfl, hp, h⟩ := exists_hex h
  obtain ⟨q, cs, rfl, hq, h⟩ := exists_hex h
  obtain ⟨r, cs, rfl, hr, h⟩ := exists_hex h
  obtain ⟨s, cs, rfl, hs, h⟩ := exists_hex h
  obtain ⟨n, value⟩ := Option.isSome_iff_exists.mp (unitValue?_isSome.mpr ⟨hp, hq, hr, hs⟩)
  exact ⟨p, q, r, s, n, cs, rfl, value, h⟩

/-- The rest of an escape. What it leaves over goes on with the string. -/
theorem exists_escape {isKey : Bool} (h : skipFrom stack (.escape isKey) cs = .ok rest) :
    ∃ escape cs', cs = escape ++ cs' ∧ (∀ body, IsBody body → IsBody ('\\' :: (escape ++ body))) ∧
      skipFrom stack (.text isKey) cs' = .ok rest := by
  obtain ⟨letter, cs, rfl, accepted⟩ := exists_cons (by simp [atEnd]) h
  by_cases isUnit : letter = 'u'
  · subst isUnit
    cases long : hasBytes 4 cs with
    | false => exact absurd (by simp [move, long]) (accepted .truncated)
    | true =>
      rw [skipFrom_go (by simp only [move, long, if_true]; rfl)] at h
      obtain ⟨p, q, r, s, n, cs, rfl, value, h⟩ := exists_unit h
      exact ⟨['u', p, q, r, s], cs, rfl, fun body => .unit value, h⟩
  · cases short : shortEscape? letter with
    | none => exact absurd (by simp [move, isUnit, short]) (accepted .malformed)
    | some c =>
      have moved : move stack letter cs (.escape isKey) = .go stack (.text isKey) := by
        simp [move, isUnit, short]
      rw [skipFrom_go moved] at h
      exact ⟨[letter], cs, rfl, fun body => .short short, h⟩

/-- In a string the machine comes to a quote, with the inside of a string in front of it. -/
theorem exists_body {isKey : Bool} (h : skipFrom stack (.text isKey) cs = .ok rest) :
    ∃ body cs', cs = body ++ '"' :: cs' ∧ IsBody body ∧
      skipFrom stack (.text isKey) ('"' :: cs') = .ok rest := by
  induction left : cs.length using Nat.strongRecOn generalizing cs with
  | ind n ih =>
    obtain ⟨c, cs, rfl, accepted⟩ := exists_cons (by simp [atEnd]) h
    rw [List.length_cons] at left
    by_cases isQuote : c = '"'
    · subst isQuote
      exact ⟨[], cs, rfl, .nil, h⟩
    by_cases isBackslash : c = '\\'
    · subst isBackslash
      rw [skipFrom_go rfl] at h
      obtain ⟨escape, cs, rfl, goesOn, h⟩ := exists_escape h
      rw [List.length_append] at left
      obtain ⟨body, cs, rfl, inside, h⟩ := ih _ (by omega) h rfl
      exact ⟨'\\' :: (escape ++ body), cs, by simp, goesOn body inside, h⟩
    by_cases isControl : c.toNat < 0x20
    · exact absurd (by simp [move, isQuote, isBackslash, isControl]) (accepted .malformed)
    have moved : move stack c cs (.text isKey) = .go stack (.text isKey) := by
      simp only [move, if_neg isQuote, if_neg isBackslash, if_neg isControl]
    rw [skipFrom_go moved] at h
    obtain ⟨body, cs, rfl, inside, h⟩ := ih _ (by omega) h rfl
    exact ⟨c :: body, cs, rfl, .plain isQuote isBackslash isControl inside, h⟩

/-! ## Numbers -/

theorem exists_exponentDigits (noDigit : ∀ c ∈ cs.head?, c.isDigit = false)
    (h : skipFrom stack .exponentDigits cs = .ok rest) : after stack cs = .ok rest := by
  rwa [skipFrom_endNumber .exponentDigits fun c member => by simp [move, noDigit c member]] at h

/-- What is accepted behind the letter of an exponent. -/
theorem exists_power (h : skipFrom stack .exponent cs = .ok rest) {letter : Char}
    (isLetter : letter = 'e' ∨ letter = 'E') :
    ∃ e cs', cs = e ++ cs' ∧ IsExponent (letter :: e) ∧ after stack cs' = .ok rest := by
  obtain ⟨c, tail, cons, accepted⟩ := exists_cons (by simp [atEnd]) h
  by_cases signed : c = '+' ∨ c = '-'
  · have moved : move stack c tail .exponent = .go stack .exponentDigit := by
      simp only [move, if_pos signed]
    rw [cons, skipFrom_go moved] at h
    obtain ⟨ds, cs, rfl, digits, ends, h⟩ := exists_isDigits (by simp [atEnd])
      (fun d cs digit => by simp only [move, if_pos digit])
      (fun c cs other => by simp [move, other]) (fun d cs => move_exponentDigits) h
    exact ⟨c :: ds, cs, cons, .signed isLetter signed digits, exists_exponentDigits ends h⟩
  · cases digit : c.isDigit with
    | false => exact absurd (by simp [move, signed, digit]) (accepted .malformed)
    | true =>
      have moved : move stack c tail .exponent = .go stack .exponentDigits := by
        simp only [move, if_neg signed, if_pos digit]
      obtain ⟨ds, cs, rfl, digits, ends⟩ := exists_run Char.isDigit tail
      rw [cons, skipFrom_go moved, skipFrom_digits (fun d cs => move_exponentDigits) digits] at h
      exact ⟨c :: ds, cs, cons, .unsigned isLetter (.cons digit digits),
        exists_exponentDigits ends h⟩

theorem exists_exponent (ends : expect.MayEnd) (early : expect ≠ .exponentDigits)
    (noDigit : ∀ c ∈ cs.head?, c.isDigit = false)
    (noPoint : expect = .fractionDigits ∨ '.' ∉ cs.head?)
    (h : skipFrom stack expect cs = .ok rest) :
    ∃ e cs', cs = e ++ cs' ∧ IsExponent e ∧ after stack cs' = .ok rest := by
  by_cases letter : ∃ e ∈ cs.head?, e = 'e' ∨ e = 'E'
  · obtain ⟨e, member, isLetter⟩ := letter
    obtain ⟨tail, rfl⟩ := List.head?_eq_some_iff.mp member
    have moved : move stack e tail expect = .go stack .exponent := by
      rcases isLetter with rfl | rfl <;> cases ends <;> first | rfl | exact absurd rfl early
    rw [skipFrom_go moved] at h
    obtain ⟨e', cs, rfl, exponent, h⟩ := exists_power h isLetter
    exact ⟨e :: e', cs, rfl, exponent, h⟩
  · refine ⟨[], cs, rfl, .none, ?_⟩
    rwa [skipFrom_endNumber ends fun c member => ?_] at h
    have other : c ≠ 'e' ∧ c ≠ 'E' := by
      constructor <;> (rintro rfl; exact letter ⟨_, member, by simp⟩)
    have noDigit := noDigit c member
    rcases noPoint with rfl | noPoint
    · simp [move, noDigit, other]
    · have noPoint : c ≠ '.' := by rintro rfl; exact noPoint member
      cases ends <;> simp [move, noDigit, noPoint, other]

theorem exists_fraction (ends : expect.MayEnd) (early : expect ≠ .exponentDigits)
    (first : expect ≠ .fractionDigits) (noDigit : ∀ c ∈ cs.head?, c.isDigit = false)
    (h : skipFrom stack expect cs = .ok rest) :
    ∃ f e cs', cs = f ++ (e ++ cs') ∧ IsFraction f ∧ IsExponent e ∧ after stack cs' = .ok rest := by
  by_cases point : '.' ∈ cs.head?
  · obtain ⟨tail, rfl⟩ := List.head?_eq_some_iff.mp point
    have moved : move stack '.' tail expect = .go stack .fraction := by
      cases ends <;> first | rfl | contradiction
    rw [skipFrom_go moved] at h
    obtain ⟨ds, cs, rfl, digits, noDigit, h⟩ := exists_isDigits (by simp [atEnd])
      (fun d cs => move_fraction) (fun c cs other => by simp [move, other])
      (fun d cs => move_fractionDigits) h
    obtain ⟨e, cs, rfl, exponent, h⟩ :=
      exists_exponent .fractionDigits (by simp) noDigit (.inl rfl) h
    exact ⟨'.' :: ds, e, cs, rfl, .point digits, exponent, h⟩
  · obtain ⟨e, cs, rfl, exponent, h⟩ := exists_exponent ends early noDigit (.inr point) h
    exact ⟨[], e, cs, rfl, .none, exponent, h⟩

/-- A digit where a number without its sign may start is the first of such a number. -/
theorem exists_magnitude
    (zero : ∀ cs, move stack '0' cs expect = .go stack .afterZero)
    (digits : ∀ d cs, d ≠ '0' → d.isDigit → move stack d cs expect = .go stack .wholeDigits)
    (digit : c.isDigit) (h : skipFrom stack expect (c :: cs) = .ok rest) :
    ∃ w f e cs', c :: cs = w ++ f ++ e ++ cs' ∧ IsMagnitude w f e ∧ after stack cs' = .ok rest := by
  by_cases isZero : c = '0'
  · subst isZero
    rw [skipFrom_go (zero cs)] at h
    have noDigit : ∀ d ∈ cs.head?, d.isDigit = false := by
      intro d member
      obtain ⟨tail, rfl⟩ := List.head?_eq_some_iff.mp member
      rw [Bool.eq_false_iff]
      intro digit
      rw [skipFrom] at h
      simp [move, digit] at h
    obtain ⟨f, e, cs, rfl, fraction, exponent, h⟩ :=
      exists_fraction .afterZero (by simp) (by simp) noDigit h
    exact ⟨['0'], f, e, cs, by simp, ⟨.zero, fraction, exponent⟩, h⟩
  · obtain ⟨ds, cs, rfl, more, noDigit⟩ := exists_run Char.isDigit cs
    rw [skipFrom_go (digits c _ isZero digit),
      skipFrom_digits (fun d cs digit => by simp [move, digit]) more] at h
    obtain ⟨f, e, cs, rfl, fraction, exponent, h⟩ :=
      exists_fraction .wholeDigits (by simp) (by simp) noDigit h
    exact ⟨c :: ds, f, e, cs, by simp, ⟨.digits isZero digit more, fraction, exponent⟩, h⟩

/-! ## Values -/

theorem exists_word {letters : List Char} (nonempty : letters ≠ [])
    (h : skipFrom stack (.word letters) cs = .ok rest) :
    ∃ cs', cs = letters ++ cs' ∧ after stack cs' = .ok rest := by
  induction letters generalizing cs with
  | nil => exact absurd rfl nonempty
  | cons letter letters ih =>
    obtain ⟨c, cs, rfl, accepted⟩ := exists_cons (by simp [atEnd]) h
    by_cases same : c = letter
    · subst same
      cases letters with
      | nil =>
        have moved : move stack c cs (.word [c]) = .complete stack := by simp [move]
        exact ⟨cs, rfl, by rwa [skipFrom_complete moved] at h⟩
      | cons next letters =>
        have moved : move stack c cs (.word (c :: next :: letters)) =
            .go stack (.word (next :: letters)) := by
          simp [move]
        rw [skipFrom_go moved] at h
        obtain ⟨cs, rfl, left⟩ := ih (by simp) h
        exact ⟨cs, rfl, left⟩
    · exact absurd (by simp [move, same]) (accepted .malformed)

/-- A text that begins with a value, behind which the machine accepts the rest. -/
def StartsWithValue (stack : List Frame) (cs rest : List Char) : Prop :=
  ∃ gap v cs', cs = gap ++ (v ++ cs') ∧ IsGapText gap ∧ IsValue v ∧ after stack cs' = .ok rest

section Commas

variable {frame : Frame}

/-- Inside a list or an object, there is a comma or its end behind each value. -/
theorem exists_separator (h : skipFrom (frame :: stack) .separator cs = .ok rest) :
    ∃ trail c cs', cs = trail ++ c :: cs' ∧ IsGapText trail ∧ isGap c = false ∧
      skipFrom (frame :: stack) .separator (c :: cs') = .ok rest := by
  obtain ⟨trail, cs, rfl, blank, noGap⟩ := exists_run isGap cs
  rw [skipFrom_gap (fun g cs => separate_gap) blank] at h
  obtain ⟨c, cs, rfl, -⟩ := exists_cons (by simp [atEnd]) h
  exact ⟨trail, c, cs, rfl, blank, noGap c rfl, h⟩

/-- If every item of a list or an object can be found, with a comma or the end behind it, then all
of them are found up to the end. -/
theorem exists_commas {α : Type} {text : α → List Char} {Good : α → Prop} {n : Nat}
    (closer : Char) (item : ∀ ds, ds.length ≤ n → skipFrom (frame :: stack) expect ds = .ok rest →
      ∃ a c ds', ds = text a ++ c :: ds' ∧ Good a ∧ isGap c = false ∧
        skipFrom (frame :: stack) .separator (c :: ds') = .ok rest)
    (comma : ∀ ds, move (frame :: stack) ',' ds .separator = .go (frame :: stack) expect)
    (close : ∀ ds, move (frame :: stack) closer ds .separator = .complete stack)
    (fails : ∀ c ds, isGap c = false → c ≠ ',' → c ≠ closer →
      move (frame :: stack) c ds .separator = .fail .malformed)
    (short : cs.length ≤ n) (h : skipFrom (frame :: stack) expect cs = .ok rest) :
    ∃ as cs', cs = commas (as.map text) ++ closer :: cs' ∧ as ≠ [] ∧ (∀ a ∈ as, Good a) ∧
      after stack cs' = .ok rest := by
  induction left : cs.length using Nat.strongRecOn generalizing cs with
  | ind m ih =>
    obtain ⟨a, c, cs, rfl, good, noGap, h⟩ := item cs short h
    rw [List.length_append, List.length_cons] at short left
    by_cases isComma : c = ','
    · subst isComma
      rw [skipFrom_go (comma cs)] at h
      obtain ⟨as, cs, rfl, nonempty, goods, ended⟩ := ih _ (by omega) (by omega) h rfl
      refine ⟨a :: as, cs, ?_, by simp, List.forall_mem_cons.mpr ⟨good, goods⟩, ended⟩
      cases as with
      | nil => exact absurd rfl nonempty
      | cons b bs => simp [commas]
    by_cases isClose : c = closer
    · subst isClose
      rw [skipFrom_complete (close cs)] at h
      exact ⟨[a], cs, by simp [commas], by simp, by simpa using good, h⟩
    · rw [skipFrom, fails c cs noGap isComma isClose] at h
      cases h

end Commas

/-- Below a bound on the length of the text, what is accepted as a value starts with one. -/
def FindsValues (n : Nat) : Prop :=
  ∀ {stack : List Frame} {cs rest : List Char}, cs.length ≤ n →
    skipFrom stack .value cs = .ok rest → StartsWithValue stack cs rest

section Nested

variable {n : Nat} (finds : FindsValues n) (short : cs.length ≤ n)

include finds short

/-- A slot of a list, up to what stands behind it. -/
theorem exists_slot (h : skipFrom (.list :: stack) .value cs = .ok rest) :
    ∃ (s : Slot) (c : Char) (cs' : List Char), cs = s.text ++ c :: cs' ∧
      (s.WellSpaced ∧ IsValue s.value) ∧ isGap c = false ∧
      skipFrom (.list :: stack) .separator (c :: cs') = .ok rest := by
  obtain ⟨lead, v, cs, rfl, blank, value, h⟩ := finds short h
  obtain ⟨trail, c, cs, rfl, blank', noGap, h⟩ := exists_separator h
  exact ⟨⟨lead, v, trail⟩, c, cs, by simp [Slot.text], ⟨⟨blank, blank'⟩, value⟩, noGap, h⟩

theorem exists_list (h : skipFrom (.list :: stack) .firstElement cs = .ok rest) :
    ∃ v cs', '[' :: cs = v ++ cs' ∧ IsValue v ∧ after stack cs' = .ok rest := by
  obtain ⟨gap, tail, rfl, blank, noGap⟩ := exists_run isGap cs
  rw [skipFrom_gap (fun g cs => move_firstElement_gap) blank] at h
  obtain ⟨c, tail, rfl, -⟩ := exists_cons (by simp [atEnd]) h
  by_cases close : c = ']'
  · subst close
    rw [skipFrom_complete rfl] at h
    exact ⟨listText gap [], tail, by simp [listText, commas], .list blank (by simp) (by simp), h⟩
  rw [skipFrom_firstElement (noGap c rfl) close] at h
  rw [List.length_append] at short
  obtain ⟨slots, cs, text, -, good, h⟩ :=
    exists_commas ']' (fun ds => exists_slot finds) (fun _ => rfl) (fun _ => rfl)
      (fun c ds noGap noComma noClose => by simp [move, separate, noGap, noComma, noClose])
      (by omega) h
  exact ⟨listText gap slots, cs, by simp [listText, text],
    .list blank (fun s member => (good s member).1) (fun s member => (good s member).2), h⟩

/-- What stands behind a key: a colon and a value. -/
theorem exists_colon (h : skipFrom (.object :: stack) .colon cs = .ok rest) :
    ∃ afterKey beforeValue v cs', cs = afterKey ++ ':' :: (beforeValue ++ (v ++ cs')) ∧
      IsGapText afterKey ∧ IsGapText beforeValue ∧ IsValue v ∧
      skipFrom (.object :: stack) .separator cs' = .ok rest := by
  obtain ⟨afterKey, cs, rfl, blankAfter, noGap⟩ := exists_run isGap cs
  rw [skipFrom_gap (fun g cs blank => by simp only [move, if_pos blank]) blankAfter] at h
  obtain ⟨c, cs, rfl, -⟩ := exists_cons (by simp [atEnd]) h
  by_cases colon : c = ':'
  · subst colon
    rw [skipFrom_go rfl] at h
    rw [List.length_append, List.length_cons] at short
    obtain ⟨beforeValue, v, cs, rfl, blankBefore, value, h⟩ := finds (by omega) h
    exact ⟨afterKey, beforeValue, v, cs, rfl, blankAfter, blankBefore, value, h⟩
  · rw [skipFrom] at h
    simp [move, noGap c rfl, colon] at h

/-- A member of an object, up to what stands behind it. -/
theorem exists_member (h : skipFrom (.object :: stack) .key cs = .ok rest) :
    ∃ (m : Member) (c : Char) (cs' : List Char), cs = m.text ++ c :: cs' ∧
      (m.WellSpaced ∧ IsValue m.value) ∧ isGap c = false ∧
      skipFrom (.object :: stack) .separator (c :: cs') = .ok rest := by
  obtain ⟨lead, cs, rfl, blank, noGap⟩ := exists_run isGap cs
  rw [skipFrom_gap (fun g cs => startKey_gap) blank] at h
  obtain ⟨c, cs, rfl, -⟩ := exists_cons (by simp [atEnd]) h
  by_cases quote : c = '"'
  · subst quote
    rw [skipFrom_go rfl] at h
    obtain ⟨key, cs, rfl, inside, h⟩ := exists_body h
    rw [skipFrom_go rfl] at h
    simp only [List.length_append, List.length_cons] at short
    obtain ⟨afterKey, beforeValue, v, cs, rfl, blankAfter, blankBefore, value, h⟩ :=
      exists_colon finds (by omega) h
    obtain ⟨trail, c, cs, rfl, blankTrail, noGap, h⟩ := exists_separator h
    exact ⟨⟨⟨key, v⟩, lead, afterKey, beforeValue, trail⟩, c, cs,
      by simp [Member.text, Member.keyed],
      ⟨⟨inside, blank, blankAfter, blankBefore, blankTrail⟩, value⟩, noGap, h⟩
  · rw [skipFrom] at h
    simp [move, startKey, noGap c rfl, quote] at h

theorem exists_object (h : skipFrom (.object :: stack) .firstKey cs = .ok rest) :
    ∃ gap members cs', '{' :: cs = objectText gap members ++ cs' ∧ IsGapText gap ∧
      (∀ m ∈ members, m.WellSpaced ∧ IsValue m.value) ∧ after stack cs' = .ok rest := by
  obtain ⟨gap, tail, rfl, blank, noGap⟩ := exists_run isGap cs
  rw [skipFrom_gap (fun g cs => move_firstKey_gap) blank] at h
  obtain ⟨c, tail, rfl, -⟩ := exists_cons (by simp [atEnd]) h
  by_cases close : c = '}'
  · subst close
    rw [skipFrom_complete rfl] at h
    exact ⟨gap, [], tail, by simp [objectText, commas], blank, by simp, h⟩
  rw [skipFrom_firstKey (noGap c rfl) close] at h
  rw [List.length_append] at short
  obtain ⟨members, cs, text, -, good, h⟩ :=
    exists_commas '}' (fun ds => exists_member finds) (fun _ => rfl) (fun _ => rfl)
      (fun c ds noGap noComma noClose => by simp [move, separate, noGap, noComma, noClose])
      (by omega) h
  exact ⟨gap, members, cs, by simp [objectText, text], blank, good, h⟩

end Nested

/-- A text that does not begin with a gap and starts with a value begins with it. -/
theorem StartsWithValue.of_eq {v cs' : List Char} (text : cs = v ++ cs') (value : IsValue v)
    (h : after stack cs' = .ok rest) : StartsWithValue stack cs rest :=
  ⟨[], v, cs', text, isGapText_nil, value, h⟩

theorem startsWithWord {letters : List Char} (nonempty : letters ≠ [])
    (listed : c :: letters ∈ words) (h : skipFrom stack (.word letters) cs = .ok rest) :
    StartsWithValue stack (c :: cs) rest := by
  obtain ⟨cs, rfl, behind⟩ := exists_word nonempty h
  exact .of_eq rfl (.word listed) behind

/-- What the machine accepts as a value starts with one. -/
theorem startsWithValue (n : Nat) : FindsValues n := by
  induction n using Nat.strongRecOn with
  | ind n ih =>
    intro stack cs rest short h
    obtain ⟨gap, cs, rfl, blank, noGap⟩ := exists_run isGap cs
    rw [skipFrom_gap (fun g cs => startValue_gap) blank] at h
    -- the gap is off the text, and goes in front of what the value brings along
    suffices found : StartsWithValue stack cs rest by
      obtain ⟨gap', v, cs, rfl, blank', value, h⟩ := found
      refine ⟨gap ++ gap', v, cs, by simp, fun c member => ?_, value, h⟩
      exact (List.mem_append.mp member).elim (blank c) (blank' c)
    obtain ⟨c, cs, rfl, -⟩ := exists_cons (by simp [atEnd]) h
    rw [List.length_append, List.length_cons] at short
    have noGap := noGap c rfl
    have finds : FindsValues cs.length := ih _ (by omega)
    by_cases isQuote : c = '"'
    · subst isQuote
      rw [skipFrom_go rfl] at h
      obtain ⟨body, cs, rfl, inside, h⟩ := exists_body h
      rw [skipFrom_complete rfl] at h
      exact .of_eq (by simp) (.text inside) h
    by_cases isBracket : c = '['
    · subst isBracket
      rw [skipFrom_go rfl] at h
      obtain ⟨v, cs, text, value, h⟩ := exists_list finds (Nat.le_refl _) h
      exact .of_eq text value h
    by_cases isBrace : c = '{'
    · subst isBrace
      rw [skipFrom_go rfl] at h
      obtain ⟨gap, members, cs, text, blank, good, h⟩ := exists_object finds (Nat.le_refl _) h
      exact .of_eq text (.object blank (fun m member => (good m member).1)
        (fun m member => (good m member).2)) h
    by_cases isN : c = 'n'
    · subst isN
      exact startsWithWord (by simp) (by simp [words]) h
    by_cases isT : c = 't'
    · subst isT
      exact startsWithWord (by simp) (by simp [words]) h
    by_cases isF : c = 'f'
    · subst isF
      exact startsWithWord (by simp) (by simp [words]) h
    by_cases isMinus : c = '-'
    · subst isMinus
      rw [skipFrom_go rfl] at h
      obtain ⟨d, cs, rfl, accepted⟩ := exists_cons (by simp [atEnd]) h
      cases digit : d.isDigit with
      | true =>
        obtain ⟨w, f, e, cs', text, magnitude, h⟩ := exists_magnitude (fun _ => rfl)
          (fun d cs nonzero digit => by simp only [move, if_neg nonzero, if_pos digit]) digit h
        exact .of_eq (by rw [text]; rfl) (.number (.negative magnitude)) h
      | false =>
        have noZero : d ≠ '0' := by rintro rfl; cases digit
        exact absurd (by simp [move, noZero, digit]) (accepted .malformed)
    cases digit : c.isDigit with
    | true =>
      obtain ⟨w, f, e, cs', text, magnitude, h⟩ :=
        exists_magnitude (fun _ => rfl) (fun _ _ => startValue_digit) digit h
      exact .of_eq text (.number (.positive magnitude)) h
    | false =>
      have noZero : c ≠ '0' := by rintro rfl; cases digit
      rw [skipFrom] at h
      simp [move, startValue, noGap, isQuote, isBracket, isBrace, isN, isT, isF, isMinus, digit,
        noZero] at h

/-- **Nothing but values is skipped.** What is passed over is a gap and a value, whatever follows
it. -/
theorem exists_of_skipValue (h : skipValue cs = .ok rest) :
    ∃ gap v, cs = gap ++ (v ++ rest) ∧ IsGapText gap ∧ IsValue v := by
  obtain ⟨gap, v, cs, rfl, blank, value, h⟩ := startsWithValue cs.length (Nat.le_refl _) h
  cases h
  exact ⟨gap, v, rfl, blank, value⟩

/-- The machine recognises JSON texts: those that hold a value and gaps around it. -/
theorem isJson_iff : (∃ rest, skipValue cs = .ok rest ∧ IsGapText rest) ↔
    ∃ gap v trail, cs = gap ++ (v ++ trail) ∧ IsGapText gap ∧ IsValue v ∧ IsGapText trail := by
  constructor
  · rintro ⟨rest, h, blank⟩
    obtain ⟨gap, v, rfl, before, value⟩ := exists_of_skipValue h
    exact ⟨gap, v, rest, rfl, before, value, blank⟩
  · rintro ⟨gap, v, trail, rfl, before, value, blank⟩
    refine ⟨trail, skipValue_value before value ?_, blank⟩
    simpa using bounded_nil.of_gap blank

end RemediationLedger.Json

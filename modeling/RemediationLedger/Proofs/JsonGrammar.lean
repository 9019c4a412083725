/-
JSON values as texts, and how far the skipping machine goes over one.

The grammar is that of RFC 8259, with lists and objects as runs of slots and
members that keep the gaps around their tokens (`IsValue`). It does not ask that
the halves of a surrogate pair come together: what is only passed over is not
unescaped.

The machine has no recursion to follow the grammar with, only a stack. What
carries the proof is therefore a statement about any stack: behind a value the
machine stands as if it had just completed one (`after`), whatever is open
around it. In this form the values inside a list or an object are instances of
the statement for the value around them (`skipFrom_value`). Only a number needs
to know what follows it, since nothing but the next character ends it
(`Bounded`).

## How the proof goes

The cases of a value follow the grammar: a word, a string, a number, a list, an
object. For each of them a lemma says from which state to which the machine goes
(`PassesOver`), and the lemma about values is an induction on the derivation of
`IsValue`, in which the slots and members of a list or an object are passed over
by hypothesis.

* Strings go character by character and escape by escape (`skipFrom_body`).
* The states inside a number differ in what may come next, and the digits of one
  part are passed over alike in each of them. Where a number may end, the next
  character ends it or the text does (`skipFrom_endNumber`).
* A list or an object is a first member and then a comma and a member, again and
  again (`skipFrom_commas`); the first one differs in that the closing bracket
  may stand in its place.

The converse, that the machine passes over nothing but values, is proved in
`Proofs.SkippedTexts`.
-/
import RemediationLedger.Json.Record

namespace RemediationLedger.Json

/-! ## The grammar -/

def IsGapText (cs : List Char) : Prop := ∀ c ∈ cs, isGap c

theorem isGapText_nil : IsGapText [] := by simp [IsGapText]

inductive IsDigits : List Char → Prop where
  | cons {d : Char} {ds : List Char} (digit : d.isDigit) (more : ∀ c ∈ ds, c.isDigit) :
    IsDigits (d :: ds)

/-- What stands between the quotes of a string: characters and escapes. -/
inductive IsBody : List Char → Prop where
  | nil : IsBody []
  | plain {c : Char} {body : List Char} (noQuote : c ≠ '"') (noBackslash : c ≠ '\\')
    (noControl : ¬ c.toNat < 0x20) (later : IsBody body) : IsBody (c :: body)
  | short {letter c : Char} {body : List Char} (escape : shortEscape? letter = some c)
    (later : IsBody body) : IsBody ('\\' :: letter :: body)
  | unit {p q r s : Char} {n : Nat} {body : List Char} (value : unitValue? p q r s = some n)
    (later : IsBody body) : IsBody ('\\' :: 'u' :: p :: q :: r :: s :: body)

inductive IsWhole : List Char → Prop where
  | zero : IsWhole ['0']
  | digits {d : Char} {ds : List Char} (nonzero : d ≠ '0') (digit : d.isDigit)
    (more : ∀ c ∈ ds, c.isDigit) : IsWhole (d :: ds)

inductive IsFraction : List Char → Prop where
  | none : IsFraction []
  | point {ds : List Char} (digits : IsDigits ds) : IsFraction ('.' :: ds)

inductive IsExponent : List Char → Prop where
  | none : IsExponent []
  | unsigned {e : Char} {ds : List Char} (letter : e = 'e' ∨ e = 'E') (digits : IsDigits ds) :
    IsExponent (e :: ds)
  | signed {e sign : Char} {ds : List Char} (letter : e = 'e' ∨ e = 'E')
    (signed : sign = '+' ∨ sign = '-') (digits : IsDigits ds) : IsExponent (e :: sign :: ds)

structure IsMagnitude (whole fraction exponent : List Char) : Prop where
  whole : IsWhole whole
  fraction : IsFraction fraction
  exponent : IsExponent exponent

inductive IsNumber : List Char → Prop where
  | positive {w f e : List Char} (magnitude : IsMagnitude w f e) : IsNumber (w ++ f ++ e)
  | negative {w f e : List Char} (magnitude : IsMagnitude w f e) : IsNumber ('-' :: (w ++ f ++ e))

def words : List (List Char) :=
  [['n', 'u', 'l', 'l'], ['t', 'r', 'u', 'e'], ['f', 'a', 'l', 's', 'e']]

structure Slot where
  lead : List Char
  value : List Char
  trail : List Char

/-- A key as it stands between its quotes, and a value. -/
structure Pair where
  key : List Char
  value : List Char

structure Member extends Pair where
  lead : List Char
  afterKey : List Char
  beforeValue : List Char
  trail : List Char

def commas : List (List Char) → List Char
  | [] => []
  | t :: ts => t ++ ts.flatMap (',' :: ·)

namespace Slot

def text (s : Slot) : List Char := s.lead ++ (s.value ++ s.trail)

/-- There is nothing but gaps around the value. -/
structure WellSpaced (s : Slot) : Prop where
  lead : IsGapText s.lead
  trail : IsGapText s.trail

end Slot

namespace Member

def keyed (m : Member) : List Char :=
  '"' :: (m.key ++ '"' :: (m.afterKey ++ ':' :: (m.beforeValue ++ (m.value ++ m.trail))))

def text (m : Member) : List Char := m.lead ++ m.keyed

/-- The key is the inside of a string, and there is nothing but gaps around the tokens. -/
structure WellSpaced (m : Member) : Prop where
  key : IsBody m.key
  lead : IsGapText m.lead
  afterKey : IsGapText m.afterKey
  beforeValue : IsGapText m.beforeValue
  trail : IsGapText m.trail

end Member

/-- A list of slots. The gap inside is all there is in a list without slots. -/
def listText (gap : List Char) (slots : List Slot) : List Char :=
  '[' :: (gap ++ (commas (slots.map Slot.text) ++ [']']))

def objectText (gap : List Char) (members : List Member) : List Char :=
  '{' :: (gap ++ (commas (members.map Member.text) ++ ['}']))

/-- A well-formed value, without gaps around it. -/
inductive IsValue : List Char → Prop where
  | word {w : List Char} (listed : w ∈ words) : IsValue w
  | number {v : List Char} (number : IsNumber v) : IsValue v
  | text {body : List Char} (inside : IsBody body) : IsValue ('"' :: (body ++ ['"']))
  | list {gap : List Char} {slots : List Slot} (blank : IsGapText gap)
    (spaced : ∀ s ∈ slots, s.WellSpaced) (values : ∀ s ∈ slots, IsValue s.value) :
    IsValue (listText gap slots)
  | object {gap : List Char} {members : List Member} (blank : IsGapText gap)
    (spaced : ∀ m ∈ members, m.WellSpaced) (values : ∀ m ∈ members, IsValue m.value) :
    IsValue (objectText gap members)

/-! ## What follows a value -/

/-- The text does not go on with a number that may stand in front of it. -/
def Bounded (cs : List Char) : Prop :=
  ∀ c ∈ cs.head?, c.isDigit = false ∧ c ≠ '.' ∧ c ≠ 'e' ∧ c ≠ 'E'

theorem bounded_nil : Bounded [] := by
  intro c member
  cases member

theorem Bounded.of_gap {gap cs : List Char} (spaced : IsGapText gap) (bounded : Bounded cs) :
    Bounded (gap ++ cs) := by
  cases gap with
  | nil => exact bounded
  | cons g gap =>
    intro c member
    cases member
    have blank := spaced g List.mem_cons_self
    simp only [isGap, Bool.or_eq_true, beq_iff_eq] at blank
    rcases blank with ((rfl | rfl) | rfl) | rfl
    all_goals decide

theorem bounded_cons {c : Char} (stops : c.isDigit = false ∧ c ≠ '.' ∧ c ≠ 'e' ∧ c ≠ 'E')
    (cs : List Char) : Bounded (c :: cs) := by
  intro d member
  cases member
  exact stops

/-! ## Steps of the machine -/

variable {stack stack' : List Frame} {expect next : Expect} {c : Char} {cs rest : List Char}

/-- What the machine does behind a value: with nothing open, it is done. -/
def after (stack : List Frame) (cs : List Char) : Except Fault (List Char) :=
  match stack with
  | [] => .ok cs
  | _ :: _ => skipFrom stack .separator cs

theorem skipFrom_go (moved : move stack c rest expect = .go stack' next) :
    skipFrom stack expect (c :: rest) = skipFrom stack' next rest := by
  rw [skipFrom, moved]

theorem skipFrom_complete (moved : move stack c rest expect = .complete stack') :
    skipFrom stack expect (c :: rest) = after stack' rest := by
  rw [skipFrom, moved]
  cases stack' with
  | nil => rfl
  | cons => rfl

/-- Where gaps may stand, the machine passes over them. -/
theorem skipFrom_gap (passes : ∀ g rest, isGap g → move stack g rest expect = .go stack expect)
    {gap : List Char} (spaced : IsGapText gap) (cs : List Char) :
    skipFrom stack expect (gap ++ cs) = skipFrom stack expect cs := by
  induction gap with
  | nil => rfl
  | cons g gap ih =>
    obtain ⟨blank, spaced⟩ := List.forall_mem_cons.mp spaced
    rw [List.cons_append, skipFrom_go (passes g _ blank)]
    exact ih spaced

/-- Where digits may stand, it passes over them. -/
theorem skipFrom_digits
    (passes : ∀ d rest, d.isDigit → move stack d rest expect = .go stack expect)
    {ds : List Char} (digits : ∀ c ∈ ds, c.isDigit) (cs : List Char) :
    skipFrom stack expect (ds ++ cs) = skipFrom stack expect cs := by
  induction ds with
  | nil => rfl
  | cons d ds ih =>
    obtain ⟨digit, digits⟩ := List.forall_mem_cons.mp digits
    rw [List.cons_append, skipFrom_go (passes d _ digit)]
    exact ih digits

/-- Where a digit must stand, it passes over one and over those behind it. -/
theorem skipFrom_isDigits
    (starts : ∀ d rest, d.isDigit → move stack d rest expect = .go stack next)
    (passes : ∀ d rest, d.isDigit → move stack d rest next = .go stack next)
    {ds : List Char} (digits : IsDigits ds) (cs : List Char) :
    skipFrom stack expect (ds ++ cs) = skipFrom stack next cs := by
  obtain ⟨digit, more⟩ := digits
  rw [List.cons_append, skipFrom_go (starts _ _ digit), skipFrom_digits passes more]

/-! ## Strings -/

theorem unitValue?_isSome {p q r s : Char} : (unitValue? p q r s).isSome ↔
    (hexValue? p).isSome ∧ (hexValue? q).isSome ∧ (hexValue? r).isSome ∧ (hexValue? s).isSome := by
  unfold unitValue?
  cases hexValue? p <;> cases hexValue? q <;> cases hexValue? r <;> cases hexValue? s <;> simp

/-- A text has at least as many bytes as characters. -/
theorem hasBytes_of_le {n : Nat} (short : n ≤ cs.length) : hasBytes n cs = true := by
  induction cs generalizing n with
  | nil =>
    obtain rfl := Nat.le_zero.mp short
    rw [hasBytes]
  | cons c cs ih =>
    cases n with
    | zero => rw [hasBytes]
    | succ n =>
      have size := c.utf8Size_pos
      rw [hasBytes]
      apply ih
      simp only [List.length_cons] at short
      omega

/-- The machine passes over four hexadecimal digits one by one. -/
theorem skipFrom_unit {p q r s : Char} {n : Nat} (value : unitValue? p q r s = some n)
    (isKey : Bool) (cs : List Char) :
    skipFrom stack (.unit isKey 3) (p :: q :: r :: s :: cs) = skipFrom stack (.text isKey) cs := by
  have digits := unitValue?_isSome.mp (Option.isSome_of_eq_some value)
  simp only [← Option.isNone_eq_false_iff] at digits
  obtain ⟨hp, hq, hr, hs⟩ := digits
  simp [skipFrom, move, hp, hq, hr, hs]

/-- It passes over what stands between quotes up to the closing one. -/
theorem skipFrom_body {body : List Char} (inside : IsBody body) (isKey : Bool) (cs : List Char) :
    skipFrom stack (.text isKey) (body ++ '"' :: cs) =
      skipFrom stack (.text isKey) ('"' :: cs) := by
  induction inside with
  | nil => rfl
  | plain noQuote noBackslash noControl later ih =>
    rw [List.cons_append, skipFrom_go, ih]
    simp only [move, if_neg noQuote, if_neg noBackslash, if_neg noControl]
  | @short letter c body escape later ih =>
    have other : letter ≠ 'u' := by rintro rfl; cases escape
    rw [List.cons_append, List.cons_append, skipFrom_go rfl, skipFrom_go, ih]
    simp [move, other, escape]
  | unit value later ih =>
    simp only [List.cons_append]
    rw [skipFrom_go rfl, skipFrom_go, skipFrom_unit value, ih]
    simp [move, hasBytes_of_le]

theorem skipFrom_key {key : List Char} (inside : IsBody key) (cs : List Char) :
    skipFrom stack (.text true) (key ++ '"' :: cs) = skipFrom stack .colon cs := by
  rw [skipFrom_body inside, skipFrom_go rfl]

theorem skipFrom_text {body : List Char} (inside : IsBody body) (cs : List Char) :
    skipFrom stack .value ('"' :: (body ++ '"' :: cs)) = after stack cs := by
  rw [skipFrom_go rfl, skipFrom_body inside, skipFrom_complete rfl]

/-! ## Numbers -/

inductive Expect.MayEnd : Expect → Prop where
  | afterZero : MayEnd .afterZero
  | wholeDigits : MayEnd .wholeDigits
  | fractionDigits : MayEnd .fractionDigits
  | exponentDigits : MayEnd .exponentDigits

/-- Such a state ends the number at a character that cannot go on with it, or with the text. -/
theorem skipFrom_endNumber (ends : expect.MayEnd)
    (ended : ∀ c ∈ rest.head?, move stack c rest.tail expect = endNumber stack c) :
    skipFrom stack expect rest = after stack rest := by
  cases rest with
  | nil => cases ends <;> cases stack <;> rfl
  | cons c rest =>
    have moved : move stack c rest expect = endNumber stack c := ended c rfl
    cases stack with
    | nil => rw [skipFrom, moved]; rfl
    | cons => rw [after, skipFrom, skipFrom, moved]; rfl

/-- What bounds a number ends it. -/
theorem skipFrom_end (ends : expect.MayEnd) (bounded : Bounded rest) :
    skipFrom stack expect rest = after stack rest := by
  refine skipFrom_endNumber ends fun c member => ?_
  obtain ⟨noDigit, noPoint, noLower, noUpper⟩ := bounded c member
  cases ends <;> simp [move, noDigit, noPoint, noLower, noUpper]

theorem move_exponentDigits {d : Char} (digit : d.isDigit) :
    move stack d rest .exponentDigits = .go stack .exponentDigits := by
  simp [move, digit]

theorem move_fractionDigits {d : Char} (digit : d.isDigit) :
    move stack d rest .fractionDigits = .go stack .fractionDigits := by
  simp [move, digit]

theorem move_fraction {d : Char} (digit : d.isDigit) :
    move stack d rest .fraction = .go stack .fractionDigits := by
  simp only [move, if_pos digit]

/-- The states behind the last digit in front of an exponent go on alike. -/
theorem skipFrom_exponent (ends : expect.MayEnd) (early : expect ≠ .exponentDigits)
    {e : List Char} (exponent : IsExponent e) (bounded : Bounded rest) :
    skipFrom stack expect (e ++ rest) = after stack rest := by
  have go {letter : Char} (isLetter : letter = 'e' ∨ letter = 'E') (cs : List Char) :
      skipFrom stack expect (letter :: cs) = skipFrom stack .exponent cs := by
    apply skipFrom_go
    rcases isLetter with rfl | rfl <;> cases ends <;> first | rfl | exact absurd rfl early
  cases exponent with
  | none => exact skipFrom_end ends bounded
  | unsigned isLetter digits =>
    rw [List.cons_append, go isLetter, skipFrom_isDigits (fun d cs digit => ?_)
      (fun d cs => move_exponentDigits) digits]
    · exact skipFrom_end .exponentDigits bounded
    · have noSign : ¬ (d = '+' ∨ d = '-') := by rintro (rfl | rfl) <;> cases digit
      simp only [move, if_neg noSign, if_pos digit]
  | @signed letter sign ds isLetter signed digits =>
    have toSign : move stack sign (ds ++ rest) .exponent = .go stack .exponentDigit := by
      simp only [move, if_pos signed]
    rw [List.cons_append, List.cons_append, go isLetter, skipFrom_go toSign,
      skipFrom_isDigits (fun d cs digit => ?_) (fun d cs => move_exponentDigits) digits]
    · exact skipFrom_end .exponentDigits bounded
    · simp only [move, if_pos digit]

theorem skipFrom_fraction (ends : expect.MayEnd) (early : expect ≠ .exponentDigits)
    (first : expect ≠ .fractionDigits) {f e : List Char} (fraction : IsFraction f)
    (exponent : IsExponent e) (bounded : Bounded rest) :
    skipFrom stack expect (f ++ (e ++ rest)) = after stack rest := by
  cases fraction with
  | none => exact skipFrom_exponent ends early exponent bounded
  | @point ds digits =>
    have toPoint : move stack '.' (ds ++ (e ++ rest)) expect = .go stack .fraction := by
      cases ends <;> first | rfl | contradiction
    rw [List.cons_append, skipFrom_go toPoint,
      skipFrom_isDigits (fun d cs => move_fraction) (fun d cs => move_fractionDigits) digits]
    exact skipFrom_exponent .fractionDigits (by simp) exponent bounded

/-- The machine passes over a number without its sign, which may stand behind a sign or not. -/
theorem skipFrom_magnitude
    (zero : ∀ rest, move stack '0' rest expect = .go stack .afterZero)
    (digits : ∀ d rest, d ≠ '0' → d.isDigit → move stack d rest expect = .go stack .wholeDigits)
    {w f e : List Char} (magnitude : IsMagnitude w f e) (bounded : Bounded rest) :
    skipFrom stack expect (w ++ f ++ e ++ rest) = after stack rest := by
  obtain ⟨whole, fraction, exponent⟩ := magnitude
  simp only [List.append_assoc]
  cases whole with
  | zero =>
    rw [List.cons_append, skipFrom_go (zero _), List.nil_append]
    exact skipFrom_fraction .afterZero (by simp) (by simp) fraction exponent bounded
  | digits nonzero digit others =>
    rw [List.cons_append, skipFrom_go (digits _ _ nonzero digit),
      skipFrom_digits (fun d cs digit => by simp [move, digit]) others]
    exact skipFrom_fraction .wholeDigits (by simp) (by simp) fraction exponent bounded

/-- A digit is none of the other characters that a value may start with, and no gap. -/
theorem startValue_digit {d : Char} (nonzero : d ≠ '0') (digit : d.isDigit) :
    startValue stack d = .go stack .wholeDigits := by
  have other {c : Char} (noDigit : c.isDigit = false) : d ≠ c := by
    rintro rfl
    cases digit.symm.trans noDigit
  have noGap : isGap d = false := by
    simp [isGap, other]
  simp [startValue, noGap, other, nonzero, digit]

theorem skipFrom_number {v : List Char} (number : IsNumber v) (bounded : Bounded rest) :
    skipFrom stack .value (v ++ rest) = after stack rest := by
  cases number with
  | positive magnitude =>
    exact skipFrom_magnitude (fun _ => rfl) (fun _ _ => startValue_digit) magnitude bounded
  | negative magnitude =>
    rw [List.cons_append, skipFrom_go rfl]
    refine skipFrom_magnitude (fun _ => rfl) (fun d cs nonzero digit => ?_) magnitude bounded
    simp only [move, if_neg nonzero, if_pos digit]

/-! ## Values -/

theorem skipFrom_word {w : List Char} (listed : w ∈ words) (rest : List Char) :
    skipFrom stack .value (w ++ rest) = after stack rest := by
  simp only [words, List.mem_cons, List.not_mem_nil, or_false] at listed
  rcases listed with rfl | rfl | rfl
  all_goals
    simp only [List.cons_append, List.nil_append]
    repeat rw [skipFrom_go rfl]
    exact skipFrom_complete rfl

/-- From the given state on the machine passes over a text and then expects what follows a value.
For a text that ends with a number this takes a text behind it that ends the number. -/
def PassesOver (stack : List Frame) (expect : Expect) (t : List Char) : Prop :=
  ∀ rest, Bounded rest → skipFrom stack expect (t ++ rest) = after stack rest

theorem startValue_gap {g : Char} (blank : isGap g) : startValue stack g = .go stack .value := by
  simp only [startValue, if_pos blank]

theorem startKey_gap {g : Char} (blank : isGap g) : startKey stack g = .go stack .key := by
  simp only [startKey, if_pos blank]

theorem separate_gap {g : Char} (blank : isGap g) : separate stack g = .go stack .separator := by
  simp only [separate, if_pos blank]

section Commas

variable {frame : Frame} {closer : Char} {ts : List (List Char)}

theorem bounded_flatMap_comma (bounded : Bounded cs) : Bounded (ts.flatMap (',' :: ·) ++ cs) := by
  cases ts with
  | nil => exact bounded
  | cons t ts => exact bounded_cons (by decide) _

/-- Behind the first of several texts the machine goes on from comma to comma up to the end. -/
theorem skipFrom_flatMap_comma
    (comma : ∀ cs, move (frame :: stack) ',' cs .separator = .go (frame :: stack) expect)
    (close : move (frame :: stack) closer rest .separator = .complete stack)
    (bounded : Bounded (closer :: rest)) (passes : ∀ t ∈ ts, PassesOver (frame :: stack) expect t) :
    skipFrom (frame :: stack) .separator (ts.flatMap (',' :: ·) ++ closer :: rest) =
      after stack rest := by
  induction ts with
  | nil => exact skipFrom_complete close
  | cons t ts ih =>
    obtain ⟨here, passes⟩ := List.forall_mem_cons.mp passes
    rw [List.flatMap_cons, List.append_assoc, List.cons_append, skipFrom_go (comma _),
      here _ (bounded_flatMap_comma bounded), after, ih passes]

theorem skipFrom_commas {t : List Char}
    (comma : ∀ cs, move (frame :: stack) ',' cs .separator = .go (frame :: stack) expect)
    (close : move (frame :: stack) closer rest .separator = .complete stack)
    (bounded : Bounded (closer :: rest))
    (passes : ∀ s ∈ t :: ts, PassesOver (frame :: stack) expect s) :
    skipFrom (frame :: stack) expect (commas (t :: ts) ++ closer :: rest) = after stack rest := by
  obtain ⟨here, passes⟩ := List.forall_mem_cons.mp passes
  rw [commas, List.append_assoc, here _ (bounded_flatMap_comma bounded), after,
    skipFrom_flatMap_comma comma close bounded passes]

end Commas

theorem Slot.WellSpaced.passesOver {s : Slot} {frame : Frame} (spaced : s.WellSpaced)
    (passes : PassesOver (frame :: stack) .value s.value) :
    PassesOver (frame :: stack) .value s.text := by
  intro rest bounded
  rw [text, List.append_assoc, List.append_assoc,
    skipFrom_gap (fun g cs => startValue_gap) spaced.lead, passes _ (bounded.of_gap spaced.trail),
    after, skipFrom_gap (fun g cs => separate_gap) spaced.trail, after]

theorem Member.WellSpaced.passesOver {m : Member} {frame : Frame} (spaced : m.WellSpaced)
    (passes : PassesOver (frame :: stack) .value m.value) :
    PassesOver (frame :: stack) .key m.text := by
  intro rest bounded
  have gap (g : Char) (cs : List Char) (blank : isGap g) :
      move (frame :: stack) g cs .colon = .go (frame :: stack) .colon := by
    simp only [move, if_pos blank]
  simp only [text, keyed, List.append_assoc, List.cons_append]
  rw [skipFrom_gap (fun g cs => startKey_gap) spaced.lead, skipFrom_go rfl,
    skipFrom_key spaced.key, skipFrom_gap gap spaced.afterKey, skipFrom_go rfl,
    skipFrom_gap (fun g cs => startValue_gap) spaced.beforeValue,
    passes _ (bounded.of_gap spaced.trail), after,
    skipFrom_gap (fun g cs => separate_gap) spaced.trail, after]

theorem IsNumber.starts {v : List Char} (number : IsNumber v) :
    ∃ c cs, v = c :: cs ∧ (c = '-' ∨ c.isDigit) := by
  cases number with
  | positive magnitude =>
    obtain ⟨whole, -, -⟩ := magnitude
    cases whole with
    | zero => exact ⟨'0', _, rfl, .inr rfl⟩
    | digits nonzero digit more => exact ⟨_, _, rfl, .inr digit⟩
  | negative magnitude => exact ⟨'-', _, rfl, .inl rfl⟩

/-- A value starts with a character that is no gap and ends nothing. -/
theorem IsValue.starts {v : List Char} (value : IsValue v) :
    ∃ c cs, v = c :: cs ∧ isGap c = false ∧ c ≠ ']' := by
  cases value with
  | word listed =>
    simp only [words, List.mem_cons, List.not_mem_nil, or_false] at listed
    rcases listed with rfl | rfl | rfl
    all_goals exact ⟨_, _, rfl, rfl, by decide⟩
  | number number =>
    obtain ⟨c, cs, rfl, start⟩ := number.starts
    have other {g : Char} (noSign : g ≠ '-') (noDigit : g.isDigit = false) : c ≠ g := by
      rintro rfl
      rcases start with rfl | digit
      · exact noSign rfl
      · cases digit.symm.trans noDigit
    exact ⟨c, cs, rfl, by simp [isGap, other], other (by decide) rfl⟩
  | text => exact ⟨_, _, rfl, rfl, by decide⟩
  | list => exact ⟨_, _, rfl, rfl, by decide⟩
  | object => exact ⟨_, _, rfl, rfl, by decide⟩

theorem move_firstElement_gap {g : Char} (blank : isGap g) :
    move stack g rest .firstElement = .go stack .firstElement := by
  simp only [move, if_pos blank]

theorem move_firstKey_gap {g : Char} (blank : isGap g) :
    move stack g rest .firstKey = .go stack .firstKey := by
  simp only [move, if_pos blank]

/-- A list that does not end at once goes on with a value. -/
theorem skipFrom_firstElement (noGap : isGap c = false) (noClose : c ≠ ']') :
    skipFrom stack .firstElement (c :: cs) = skipFrom stack .value (c :: cs) := by
  simp [skipFrom, move, noGap, noClose]

/-- An object that does not end at once goes on with a key. -/
theorem skipFrom_firstKey (noGap : isGap c = false) (noClose : c ≠ '}') :
    skipFrom stack .firstKey (c :: cs) = skipFrom stack .key (c :: cs) := by
  simp [skipFrom, move, noGap, noClose]

theorem Slot.WellSpaced.skipFrom_firstElement {s : Slot} (spaced : s.WellSpaced)
    (value : IsValue s.value) (cs : List Char) :
    skipFrom stack .firstElement (s.text ++ cs) = skipFrom stack .value (s.text ++ cs) := by
  obtain ⟨c, v, start, noGap, noClose⟩ := value.starts
  rw [text, start, List.append_assoc, skipFrom_gap (fun g cs => move_firstElement_gap) spaced.lead,
    skipFrom_gap (fun g cs => startValue_gap) spaced.lead]
  exact Json.skipFrom_firstElement noGap noClose

theorem Member.WellSpaced.skipFrom_firstKey {m : Member} (spaced : m.WellSpaced) (cs : List Char) :
    skipFrom stack .firstKey (m.text ++ cs) = skipFrom stack .key (m.text ++ cs) := by
  rw [text, List.append_assoc, skipFrom_gap (fun g cs => move_firstKey_gap) spaced.lead,
    skipFrom_gap (fun g cs => startKey_gap) spaced.lead]
  exact Json.skipFrom_firstKey rfl (by decide)

theorem skipFrom_value {v : List Char} (value : IsValue v) (stack : List Frame) :
    PassesOver stack .value v := by
  induction value generalizing stack with
  | word listed => exact fun rest _ => skipFrom_word listed rest
  | number number => exact fun rest => skipFrom_number number
  | text inside =>
    intro rest _
    simpa using skipFrom_text inside rest
  | @list gap slots blank spaced values ih =>
    intro rest _
    simp only [listText, List.append_assoc, List.cons_append, List.nil_append]
    rw [skipFrom_go rfl, skipFrom_gap (fun g cs => move_firstElement_gap) blank]
    cases slots with
    | nil => exact skipFrom_complete rfl
    | cons s slots =>
      -- the statement for any stack is used with the list on top of it
      have passes : ∀ t ∈ (s :: slots).map Slot.text, PassesOver (.list :: stack) .value t := by
        rw [List.forall_mem_map]
        exact fun s member => (spaced s member).passesOver (ih s member _)
      rw [List.map_cons, commas, List.append_assoc,
        (spaced s List.mem_cons_self).skipFrom_firstElement (values s List.mem_cons_self),
        ← List.append_assoc, ← commas]
      exact skipFrom_commas (fun _ => rfl) rfl (bounded_cons (by decide) rest) passes
  | @object gap members blank spaced values ih =>
    intro rest _
    simp only [objectText, List.append_assoc, List.cons_append, List.nil_append]
    rw [skipFrom_go rfl, skipFrom_gap (fun g cs => move_firstKey_gap) blank]
    cases members with
    | nil => exact skipFrom_complete rfl
    | cons m members =>
      have passes : ∀ t ∈ (m :: members).map Member.text, PassesOver (.object :: stack) .key t := by
        rw [List.forall_mem_map]
        exact fun m member => (spaced m member).passesOver (ih m member _)
      rw [List.map_cons, commas, List.append_assoc,
        (spaced m List.mem_cons_self).skipFrom_firstKey, ← List.append_assoc, ← commas]
      exact skipFrom_commas (fun _ => rfl) rfl (bounded_cons (by decide) rest) passes

/-- **Values are skipped exactly.** However deeply a value nests, passing over it leaves over what
follows it and nothing else. -/
theorem skipValue_value {gap v rest : List Char} (spaced : IsGapText gap) (value : IsValue v)
    (bounded : Bounded rest) : skipValue (gap ++ (v ++ rest)) = .ok rest := by
  rw [skipValue, skipFrom_gap (fun g cs => startValue_gap) spaced, skipFrom_value value [] rest
    bounded, after]

end RemediationLedger.Json

/-
Words for states, whatever the case of their letters.

Two words are the same word if they agree letter by letter up to the case of
ASCII letters (`SameWord`), and that is so if and only if they have the same
upper case (`asciiUpper_eq_iff`): nothing beyond ASCII has a case here. Both
ways to read a state ask about upper case only, so each is a table of words.
Parsing has one name for each state (`Status.parse?_eq_some_iff`). A mapper has
a vocabulary of six words for three of the states (`vocabulary`), and every
other word is a failure (`stateOf`). The two tables agree because each name is
classified as its own state (`stateOf_name`): three of the names are in the
vocabulary with their states, and the name of failure is not in it.

The rules of a mapper are asked one after the other, and `classify_some` is the
one place where they are gone through. It says that a mapper looks the word up
in the vocabulary and logs what `eventOf` tells. The failure codes that a mapper
expects occur in `eventOf` alone: they choose between two events, and have no
say in the state (`classify_fst`). What is said about all words follows from
there, one lemma for each part of `words_without_case`.
-/
import Mathlib.Data.List.Forall2
import RemediationLedger.Status.Mapper

namespace RemediationLedger

/-! ## The same word -/

def IsCapitalOf (capital small : Char) : Prop :=
  'A' ≤ capital ∧ capital ≤ 'Z' ∧ small.toNat = capital.toNat + 32

def SameLetter (c d : Char) : Prop := c = d ∨ IsCapitalOf c d ∨ IsCapitalOf d c

/-- Two words are the same up to the case of ASCII letters. -/
def SameWord (word word' : String) : Prop := List.Forall₂ SameLetter word.toList word'.toList

theorem toNat_toUpper (c : Char) :
    c.toUpper.toNat = if 97 ≤ c.toNat ∧ c.toNat ≤ 122 then c.toNat - 32 else c.toNat := by
  have small : ('a'.val ≤ c.val ∧ c.val ≤ 'z'.val) ↔ 97 ≤ c.toNat ∧ c.toNat ≤ 122 := by
    simp [UInt32.le_iff_toNat_le]
  unfold Char.toUpper
  by_cases here : 97 ≤ c.toNat ∧ c.toNat ≤ 122
  · rw [dif_pos (small.mpr here), if_pos here]
    show (c.val + ('A'.val - 'a'.val)).toNat = c.toNat - 32
    rw [UInt32.toNat_add]
    show (c.toNat + 4294967264) % 4294967296 = c.toNat - 32
    omega
  · rw [dif_neg (small.not.mpr here), if_neg here]

theorem toUpper_eq_iff {c d : Char} : c.toUpper = d.toUpper ↔ SameLetter c d := by
  have low : ∀ x : Char, 'A' ≤ x ↔ 65 ≤ x.toNat := fun x => by
    simp [Char.le_def, UInt32.le_iff_toNat_le]
  have high : ∀ x : Char, x ≤ 'Z' ↔ x.toNat ≤ 90 := fun x => by
    simp [Char.le_def, UInt32.le_iff_toNat_le]
  unfold SameLetter IsCapitalOf
  rw [← Char.toNat_inj, ← Char.toNat_inj, toNat_toUpper, toNat_toUpper, low, high, low, high]
  split <;> split <;> omega

theorem asciiUpper_eq_iff {word word' : String} :
    asciiUpper word = asciiUpper word' ↔ SameWord word word' := by
  have letters : List.Forall₂ SameLetter word.toList word'.toList ↔
      List.Forall₂ (fun c d : Char => c.toUpper = d.toUpper) word.toList word'.toList := by
    simp only [toUpper_eq_iff]
  unfold SameWord asciiUpper
  rw [letters, String.ofList_inj, ← List.forall₂_eq_eq_eq, List.forall₂_map_left_iff,
    List.forall₂_map_right_iff]

/-- What is in upper case already is compared with the upper case of a word. -/
theorem upper_iff {word : String} (upper : String) (isUpper : asciiUpper upper = upper) :
    asciiUpper word = upper ↔ SameWord word upper := by
  rw [← asciiUpper_eq_iff, isUpper]

theorem asciiUpper_eq_empty_iff {word : String} : asciiUpper word = "" ↔ word = "" := by
  rw [← String.toList_inj, ← String.toList_inj]
  simp [asciiUpper]

/-! ## Two tables -/

namespace Status

theorem asciiUpper_name (s : Status) : asciiUpper s.name = s.name := by
  cases s <;> rfl

/-- A text is parsed as the state whose name it is. -/
theorem parse?_eq_some_iff {word : String} {s : Status} :
    parse? word = some s ↔ SameWord word s.name := by
  rw [← upper_iff s.name s.asciiUpper_name]
  constructor
  · intro found
    have here := List.find?_some found
    exact (beq_iff_eq.mp here).symm
  · intro upper
    unfold parse?
    rw [upper]
    cases s <;> rfl

end Status

namespace StatusMapper

open Status

variable {m : StatusMapper} {raw : Option String} {word upper : String} {s : Status}

/-- The words that a mapper knows, in upper case, with their states. -/
def vocabulary : List (String × Status) :=
  [("", notStarted), ("NOT_STARTED", notStarted), ("QUEUED", inProgress), ("RUNNING", inProgress),
    ("IN_PROGRESS", inProgress), ("SUCCESS", success)]

/-- The state of a word in upper case: a word that is not in the vocabulary means failure. -/
def stateOf (upper : String) : Status := (vocabulary.lookup upper).getD failed

theorem stateOf_of_mem (known : (upper, s) ∈ vocabulary) : stateOf upper = s := by
  have each : ∀ entry ∈ vocabulary, stateOf entry.1 = entry.2 := by decide
  exact each _ known

theorem stateOf_of_notMem (unknown : ∀ s, (upper, s) ∉ vocabulary) : stateOf upper = failed := by
  have missing : vocabulary.lookup upper = none := by
    rw [List.lookup_eq_none_iff]
    rintro ⟨known, s⟩ member
    exact bne_iff_ne.mpr fun same => unknown s (same ▸ member)
  rw [stateOf, missing]
  rfl

theorem stateOf_eq_iff : stateOf upper = s ↔
    (upper, s) ∈ vocabulary ∨ s = failed ∧ ∀ s', (upper, s') ∉ vocabulary := by
  constructor
  · rintro rfl
    by_cases known : ∃ s, (upper, s) ∈ vocabulary
    · obtain ⟨s, known⟩ := known
      exact .inl (stateOf_of_mem known ▸ known)
    · rw [not_exists] at known
      exact .inr ⟨stateOf_of_notMem known, known⟩
  · rintro (known | ⟨rfl, unknown⟩)
    · exact stateOf_of_mem known
    · exact stateOf_of_notMem unknown

/-- What is logged about a word: only a failure is, and how depends on whether its code is one that
the mapper expects. -/
def eventOf (m : StatusMapper) (word : String) : Option Event :=
  if stateOf (asciiUpper word) = failed then
    some (if asciiUpper word ∈ m.failureReasons then .failureReasonMapped (asciiUpper word)
      else .unknownStatus word)
  else none

/-- The rules of a mapper are a look-up in the vocabulary. The codes that it expects are asked for
only once the state is known. -/
theorem classify_some (m : StatusMapper) (word : String) :
    m.classify (some word) = (stateOf (asciiUpper word), m.eventOf word) := by
  have blank : word.isEmpty = true ↔ asciiUpper word = "" :=
    String.isEmpty_iff.trans asciiUpper_eq_empty_iff.symm
  simp only [classify, eventOf, blank]
  generalize asciiUpper word = upper
  by_cases known : ∃ s, (upper, s) ∈ vocabulary
  · obtain ⟨s, known⟩ := known
    -- each rule in its turn
    simp only [vocabulary, List.mem_cons, Prod.mk.injEq, List.not_mem_nil, or_false] at known
    rcases known with ⟨rfl, rfl⟩ | ⟨rfl, rfl⟩ | ⟨rfl, rfl⟩ | ⟨rfl, rfl⟩ | ⟨rfl, rfl⟩ | ⟨rfl, rfl⟩
    all_goals rfl
  · rw [not_exists] at known
    have other : ∀ entry ∈ vocabulary, upper ≠ entry.1 := by
      rintro ⟨word, s⟩ member rfl
      exact known s member
    simp only [vocabulary, List.forall_mem_cons] at other
    obtain ⟨noBlank, noStart, noQueued, noRunning, noProgress, noSuccess, -⟩ := other
    rw [stateOf_of_notMem known, if_neg noBlank, if_neg noSuccess, if_neg noStart,
      if_neg (by simp [noQueued, noRunning, noProgress]), if_pos rfl]
    split
    · rfl
    · rfl

theorem level_eventOf (m : StatusMapper) (word : String) :
    (m.eventOf word).map Event.level =
      if stateOf (asciiUpper word) = failed then
        some (if asciiUpper word ∈ m.failureReasons then .debug else .warn)
      else none := by
  unfold eventOf
  split
  · split
    · rfl
    · rfl
  · rfl

theorem upper_mem_ofReasons {reasons : List String} :
    asciiUpper word ∈ (ofReasons reasons).failureReasons ↔
      ∃ reason ∈ reasons, SameWord word reason := by
  simp only [ofReasons, List.mem_map, ← asciiUpper_eq_iff, eq_comm]

/-- The name of a state is a word for it. -/
theorem stateOf_name (s : Status) : stateOf s.name = s := by
  cases s <;> rfl

/-! ## What a classification depends on -/

/-- Only the upper case of a word counts, for its state and for how loudly it is logged. -/
theorem classify_alike (m : StatusMapper) {raw raw' : Option String}
    (same : raw.map asciiUpper = raw'.map asciiUpper) :
    (m.classify raw).1 = (m.classify raw').1 ∧
      (m.classify raw).2.map Event.level = (m.classify raw').2.map Event.level := by
  cases raw with
  | none =>
    cases raw' with
    | none => exact ⟨rfl, rfl⟩
    | some word' => cases same
  | some word =>
    cases raw' with
    | none => cases same
    | some word' =>
      have upper : asciiUpper word = asciiUpper word' := Option.some.inj same
      rw [classify_some, classify_some, level_eventOf, level_eventOf, upper]
      exact ⟨rfl, rfl⟩

/-- Every mapper comes to the same state, whichever codes it expects. -/
theorem classify_fst (m m' : StatusMapper) (raw : Option String) :
    (m.classify raw).1 = (m'.classify raw).1 := by
  cases raw with
  | none => rfl
  | some word => rw [classify_some, classify_some]

/-! ## What is logged -/

theorem quiet_of_ne_failed (other : (m.classify raw).1 ≠ failed) : (m.classify raw).2 = none := by
  cases raw with
  | none => rfl
  | some word =>
    rw [classify_some] at other ⊢
    exact if_neg other

/-- A failure has a word, and is logged as loudly as its code is unexpected. -/
theorem logged_of_failed {reasons : List String}
    (failure : ((ofReasons reasons).classify raw).1 = failed) :
    ∃ word event, raw = some word ∧ ((ofReasons reasons).classify raw).2 = some event ∧
      ((∃ reason ∈ reasons, SameWord word reason) → event.level = .debug) ∧
      ((¬∃ reason ∈ reasons, SameWord word reason) → event.level = .warn) := by
  cases raw with
  | none => cases failure
  | some word =>
    rw [classify_some] at failure ⊢
    refine ⟨word, _, rfl, if_pos failure, ?_, ?_⟩
    · intro expected
      rw [if_pos (upper_mem_ofReasons.mpr expected)]
      rfl
    · intro unexpected
      rw [if_neg (mt upper_mem_ofReasons.mp unexpected)]
      rfl

/-! ## Agreement with parsing -/

/-- A text that is parsed is classified as what it is parsed as. -/
theorem classify_of_parsed (m : StatusMapper) (parsed : parse? word = some s) :
    (m.classify (some word)).1 = s := by
  rw [classify_some, (upper_iff s.name s.asciiUpper_name).mpr (parse?_eq_some_iff.mp parsed),
    stateOf_name]

/-- What a word was classified as has a name of its own, which is classified as that. -/
theorem classify_name (m : StatusMapper) (s : Status) : (m.classify (some s.name)).1 = s := by
  rw [classify_some, asciiUpper_name, stateOf_name]

def IsMissing (raw : Option String) : Prop := raw = none ∨ raw = some ""

def IsUnderWay (raw : Option String) : Prop :=
  ∃ word, raw = some word ∧ (SameWord word "queued" ∨ SameWord word "running")

/-- What is not parsed is classified by the words of the vocabulary that are no names. -/
theorem classify_of_unparsed (m : StatusMapper) (unparsed : raw.bind parse? = none) :
    ((m.classify raw).1 = notStarted ↔ IsMissing raw) ∧
      ((m.classify raw).1 = inProgress ↔ IsUnderWay raw) ∧ (m.classify raw).1 ≠ success := by
  cases raw with
  | none => simp [classify, IsMissing, IsUnderWay]
  | some word =>
    have noName (s : Status) : asciiUpper word ≠ s.name := by
      intro same
      have parsed := parse?_eq_some_iff.mpr ((upper_iff s.name s.asciiUpper_name).mp same)
      cases unparsed.symm.trans parsed
    have noStart := noName notStarted
    have noProgress := noName inProgress
    have noSuccess := noName success
    have queued : SameWord word "queued" ↔ asciiUpper word = "QUEUED" := asciiUpper_eq_iff.symm
    have running : SameWord word "running" ↔ asciiUpper word = "RUNNING" := asciiUpper_eq_iff.symm
    simp only [name] at noStart noProgress noSuccess
    have blank : word = "" ↔ asciiUpper word = "" := asciiUpper_eq_empty_iff.symm
    simp only [classify_some, ne_eq, stateOf_eq_iff, IsMissing, IsUnderWay, Option.some.injEq,
      exists_eq_left', queued, running, blank]
    simp [vocabulary, noStart, noProgress, noSuccess]

theorem failed_iff_of_unparsed (m : StatusMapper) (unparsed : raw.bind parse? = none) :
    (m.classify raw).1 = failed ↔ ¬IsMissing raw ∧ ¬IsUnderWay raw := by
  obtain ⟨missing, underWay, noSuccess⟩ := classify_of_unparsed m unparsed
  rw [← missing, ← underWay]
  cases h : (m.classify raw).1 with
  | success => exact absurd h noSuccess
  | notStarted | inProgress | failed => simp

/-- **Words are classified whatever their case, and as they are parsed.** Words with the same upper
case, and that is up to the case of ASCII letters only, are classified alike and logged equally
loudly. The expected codes have no say in the state. Nothing is logged unless the state is a
failure, and then one event, at the level that says whether the code is an expected one. A text
that is parsed as a state is classified as that state. One that is not has not started only if it is
missing, is under way only if it says so in two other words, is never a success and has failed
otherwise. The name of a state that a word was classified as is classified as that state. -/
theorem words_without_case (reasons : List String) :
    let m := ofReasons reasons
    (∀ word word' : String, asciiUpper word = asciiUpper word' ↔ SameWord word word') ∧
    (∀ raw raw' : Option String, raw.map asciiUpper = raw'.map asciiUpper →
      (m.classify raw).1 = (m.classify raw').1 ∧
        (m.classify raw).2.map Event.level = (m.classify raw').2.map Event.level) ∧
    (∀ (reasons' : List String) (raw : Option String),
      (m.classify raw).1 = ((ofReasons reasons').classify raw).1) ∧
    (∀ raw : Option String, (m.classify raw).1 ≠ failed → (m.classify raw).2 = none) ∧
    (∀ raw : Option String, (m.classify raw).1 = failed →
      ∃ word event, raw = some word ∧ (m.classify raw).2 = some event ∧
        ((∃ reason ∈ reasons, SameWord word reason) → event.level = .debug) ∧
        ((¬∃ reason ∈ reasons, SameWord word reason) → event.level = .warn)) ∧
    (∀ (word : String) (s : Status), parse? word = some s → (m.classify (some word)).1 = s) ∧
    (∀ raw : Option String, raw.bind parse? = none →
      ((m.classify raw).1 = notStarted ↔ IsMissing raw) ∧
      ((m.classify raw).1 = inProgress ↔ IsUnderWay raw) ∧
      (m.classify raw).1 ≠ success ∧
      ((m.classify raw).1 = failed ↔ ¬IsMissing raw ∧ ¬IsUnderWay raw)) ∧
    ∀ raw : Option String,
      (m.classify (some (m.classify raw).1.name)).1 = (m.classify raw).1 := by
  intro m
  refine ⟨fun _ _ => asciiUpper_eq_iff, fun _ _ => classify_alike m, fun _ => classify_fst m _,
    fun _ => quiet_of_ne_failed, fun _ => logged_of_failed, fun _ _ => classify_of_parsed m,
    fun raw unparsed => ?_, fun raw => classify_name m _⟩
  obtain ⟨missing, underWay, noSuccess⟩ := classify_of_unparsed m unparsed
  exact ⟨missing, underWay, noSuccess, failed_iff_of_unparsed m unparsed⟩

/-- A code that is also a word of the vocabulary, one in mixed case, and a letter without case. -/
theorem words_without_case_of_codes :
    let m := ofReasons ["queued", "TimedOut"]
    ((some "rUNNing").map asciiUpper = (some "Running").map asciiUpper ∧
      (m.classify (some "rUNNing")).1 = (m.classify (some "Running")).1) ∧
    ((m.classify (some "Queued")).1 ≠ failed ∧ (m.classify (some "Queued")).2 = none) ∧
    ((m.classify (some "TIMEDout")).1 = failed ∧
      ∃ event, (m.classify (some "TIMEDout")).2 = some event ∧ event.level = .debug) ∧
    (parse? "In_Progress" = some inProgress ∧
      (m.classify (some "In_Progress")).1 = inProgress) ∧
    (some "\u017fuccess").bind parse? = none ∧
      (m.classify (some "\u017fuccess")).1 ≠ success := by
  intro m
  obtain ⟨same, alike, -, quiet, told, parsed, unparsed, -⟩ :=
    words_without_case ["queued", "TimedOut"]
  have upper : (some "rUNNing").map asciiUpper = (some "Running").map asciiUpper := by decide
  have underWay : (m.classify (some "Queued")).1 ≠ failed := by decide
  have failure : (m.classify (some "TIMEDout")).1 = failed := by decide
  have name : parse? "In_Progress" = some inProgress := by decide
  have noName : (some "\u017fuccess").bind parse? = none := by decide
  have expected : SameWord "TIMEDout" "TimedOut" := (same _ _).mp (by decide)
  obtain ⟨word, event, given, logged, debug, -⟩ := told _ failure
  cases given
  exact ⟨⟨upper, (alike _ _ upper).1⟩, ⟨underWay, quiet _ underWay⟩,
    ⟨failure, event, logged, debug ⟨"TimedOut", by simp, expected⟩⟩,
    ⟨name, parsed _ _ name⟩, noName, (unparsed _ noName).2.2.1⟩

end StatusMapper

end RemediationLedger

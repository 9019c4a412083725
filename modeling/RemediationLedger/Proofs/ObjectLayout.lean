/-
Reading an object member by member, whatever its layout.

What a member adds to a record can be said of the member alone: an entry under
one of the fields, or nothing if its name is unknown (`RecordShape.entryOf?`).
The reader goes over the members one after the other with the fields seen so far
in hand (`RecordShape.Gathers`), and in the end this comes to a statement about
all members together: each can be read, and no field comes twice
(`gathers_iff`).

That the reader gets from one member to the next is the one thing for which the
text counts (`readMembers_member`). Behind a member that it knows, it stands
where the value ends because the record finds the end of every value
(`Delimits`). Behind one that it does not know, it stands there because the
skipping machine does.

* `readMembers_eq` is one step of the reader with its recursion opened, and
  `readMembers_member` says what the step means for a member with arbitrary gaps
  around its tokens. The two cases, the first member and one behind a comma, are
  the cases of `findNext`.
* `readRecord_object` is the result: an object is read as its members are
  gathered, so nothing of its layout is left in what a record gets to see.
* `isObject_iff` describes the texts of objects in two ways, by the skipping
  machine and by the grammar.

All of this is for an arbitrary shape of records whose fields find the end of
their values. Requests are an instance (`Proofs.RequestLayout`), and settings
could be one. The last section writes objects without gaps, which is how the
ledger writes them; a text that was written is one of those that are read.
-/
import RemediationLedger.Proofs.SkippedTexts
import RemediationLedger.Proofs.SpelledTexts
import RemediationLedger.Proofs.WrittenJson

namespace RemediationLedger.Json

/-! ## Members and their entries -/

/-- The name that a key spells, if it spells one. -/
def Pair.name? (p : Pair) : Option String :=
  match readKey ('"' :: (p.key ++ ['"'])) with
  | .ok (name, []) => some name
  | _ => none

theorem Pair.name?_eq_some_iff {p : Pair} (inside : IsBody p.key) {name : String} :
    p.name? = some name ↔ Spells p.key name.toList := by
  have read (name : String) (after : List Char) :
      readKey ('"' :: (p.key ++ ['"'])) = .ok (name, after) ↔
        Spells p.key name.toList ∧ after = [] :=
    readKey_body inside
  constructor
  · intro h
    unfold name? at h
    split at h
    · rename_i found
      cases h
      exact ((read _ _).mp found).1
    · cases h
  · intro spells
    rw [name?, (read name []).mpr ⟨spells, rfl⟩]

section

variable {φ ν : Type} [DecidableEq φ] {shape : RecordShape φ ν}

def RecordShape.value? (shape : RecordShape φ ν) (f : φ) (v : List Char) : Option ν :=
  match shape.read f v with
  | .ok (x, []) => some x
  | _ => none

/-- A record finds the end of every value: what is read of it does not depend on what follows. -/
def Delimits (shape : RecordShape φ ν) : Prop :=
  ∀ {f : φ} {gap v rest after : List Char} {x : ν}, IsGapText gap → IsValue v → Bounded rest →
    (shape.read f (gap ++ (v ++ rest)) = .ok (x, after) ↔
      shape.value? f v = some x ∧ after = rest)

/-- What a member adds to a record: an entry, or nothing if its name is unknown. A member that has
no name, or a value that its field does not take, cannot be read. -/
def RecordShape.entryOf? (shape : RecordShape φ ν) (p : Pair) : Option (Option (φ × ν)) :=
  match p.name? with
  | none => none
  | some name =>
    match shape.field? name with
    | none => some none
    | some f => (shape.value? f p.value).map fun x => some (f, x)

def RecordShape.entries (shape : RecordShape φ ν) (ps : List Pair) : List (φ × ν) :=
  ps.filterMap fun p => (shape.entryOf? p).join

/-- Members are read one after the other; a field that was seen must not come again. -/
inductive RecordShape.Gathers (shape : RecordShape φ ν) :
    List φ → List Pair → List (φ × ν) → Prop where
  | nil {seen : List φ} : Gathers shape seen [] []
  | unknown {seen : List φ} {p : Pair} {ps : List Pair} {es : List (φ × ν)}
    (entry : shape.entryOf? p = some none) (others : Gathers shape seen ps es) :
    Gathers shape seen (p :: ps) es
  | known {seen : List φ} {p : Pair} {ps : List Pair} {f : φ} {x : ν} {es : List (φ × ν)}
    (entry : shape.entryOf? p = some (some (f, x))) (fresh : f ∉ seen)
    (others : Gathers shape (f :: seen) ps es) : Gathers shape seen (p :: ps) ((f, x) :: es)

omit [DecidableEq φ] in
/-- In the end it comes to this: all members can be read, and no field comes twice. -/
theorem gathers_iff {seen : List φ} {ps : List Pair} {es : List (φ × ν)} :
    shape.Gathers seen ps es ↔ (∀ p ∈ ps, (shape.entryOf? p).isSome) ∧ es = shape.entries ps ∧
      (es.map Prod.fst).Nodup ∧ ∀ e ∈ es, e.1 ∉ seen := by
  constructor
  · intro h
    induction h with
    | nil => simp [RecordShape.entries]
    | unknown entry others ih =>
      obtain ⟨readable, rfl, apart, fresh⟩ := ih
      exact ⟨List.forall_mem_cons.mpr ⟨by simp [entry], readable⟩,
        by simp [RecordShape.entries, entry], apart, fresh⟩
    | @known seen p ps f x es entry new others ih =>
      obtain ⟨readable, rfl, apart, fresh⟩ := ih
      refine ⟨List.forall_mem_cons.mpr ⟨by simp [entry], readable⟩,
        by simp [RecordShape.entries, entry], ?_, List.forall_mem_cons.mpr ⟨new, ?_⟩⟩
      · refine List.nodup_cons.mpr ⟨fun member => ?_, apart⟩
        obtain ⟨e, member, same⟩ := List.mem_map.mp member
        exact fresh e member (by simp [same])
      · exact fun e member old => fresh e member (List.mem_cons_of_mem f old)
  · rintro ⟨readable, rfl, apart, fresh⟩
    induction ps generalizing seen with
    | nil => exact .nil
    | cons p ps ih =>
      obtain ⟨here, readable⟩ := List.forall_mem_cons.mp readable
      obtain ⟨entry, found⟩ := Option.isSome_iff_exists.mp here
      cases entry with
      | none =>
        have same : shape.entries (p :: ps) = shape.entries ps := by
          simp [RecordShape.entries, found]
        rw [same] at apart fresh ⊢
        exact .unknown found (ih readable apart fresh)
      | some e =>
        obtain ⟨f, x⟩ := e
        have same : shape.entries (p :: ps) = (f, x) :: shape.entries ps := by
          simp [RecordShape.entries, found]
        rw [same] at apart fresh ⊢
        obtain ⟨once, apart⟩ := List.nodup_cons.mp apart
        obtain ⟨new, fresh⟩ := List.forall_mem_cons.mp fresh
        refine .known found new (ih readable apart fun e member => ?_)
        rw [List.mem_cons, not_or]
        exact ⟨fun same => once (List.mem_map.mpr ⟨e, member, same⟩), fresh e member⟩

/-! ## Reading members -/

variable {seen : List φ} {cs start rest after : List Char} {m : Member} {e : Option (φ × ν)}
  {es : List (φ × ν)}

theorem findColon_gap {gap : List Char} (blank : IsGapText gap) (cs : List Char) :
    findColon (gap ++ ':' :: cs) = .ok cs := by
  rw [findColon, dropGaps_gap blank, dropGaps_cons rfl]
  rfl

theorem readMember_keyed (delimits : Delimits shape) (spaced : m.WellSpaced)
    (value : IsValue m.value) (bounded : Bounded rest) :
    readMember shape seen (m.keyed ++ rest) = .ok (e, after) ↔
      shape.entryOf? m.toPair = some e ∧ (∀ a ∈ e, a.1 ∉ seen) ∧ after = m.trail ++ rest := by
  have bounded := bounded.of_gap spaced.trail
  simp only [Member.keyed, List.cons_append, List.append_assoc, readMember, RecordShape.entryOf?,
    bind, Except.bind, pure, Except.pure]
  cases named : m.name? with
  | none =>
    refine iff_of_false (fun h => ?_) (by simp)
    split at h
    · cases h
    · rename_i read
      have spells := ((readKey_body spaced.key).mp read).1
      rw [← Pair.name?_eq_some_iff spaced.key, named] at spells
      cases spells
  | some name =>
    have spells := (Pair.name?_eq_some_iff spaced.key).mp named
    rw [(readKey_body spaced.key).mpr ⟨spells, rfl⟩]
    simp only [findColon_gap spaced.afterKey]
    cases shape.field? name with
    | none =>
      simp only [skipValue_value spaced.beforeValue value bounded]
      constructor
      · rintro ⟨⟩
        simp
      · rintro ⟨⟨⟩, -, rfl⟩
        rfl
    | some f =>
      have read {x : ν} {after : List Char} :
          shape.read f (m.beforeValue ++ (m.value ++ (m.trail ++ rest))) = .ok (x, after) ↔
            shape.value? f m.value = some x ∧ after = m.trail ++ rest :=
        delimits spaced.beforeValue value bounded
      by_cases old : f ∈ seen
      · simp only [old, if_true]
        refine iff_of_false (by simp) ?_
        rintro ⟨found, fresh, -⟩
        obtain ⟨x, -, rfl⟩ := Option.map_eq_some_iff.mp found
        exact fresh (f, x) rfl old
      · simp only [old, if_false]
        constructor
        · intro h
          split at h
          · cases h
          · rename_i found
            obtain ⟨value, same⟩ := read.mp found
            cases h
            simp [value, old, same]
        · rintro ⟨found, -, rfl⟩
          obtain ⟨x, known, rfl⟩ := Option.map_eq_some_iff.mp found
          rw [read.mpr ⟨known, rfl⟩]

theorem findNext_close_gap {gap : List Char} (blank : IsGapText gap) (isFirst : Bool) :
    findNext '}' isFirst (gap ++ '}' :: rest) = .ok (.close rest) := by
  rw [findNext, dropGaps_gap blank]
  rfl

/-- The first member stands behind nothing but a gap. -/
theorem findNext_first {gap : List Char} (blank : IsGapText gap) (spaced : m.WellSpaced) :
    findNext '}' true (gap ++ (m.text ++ rest)) = .ok (.element (m.keyed ++ rest)) := by
  rw [findNext, dropGaps_gap blank, Member.text, List.append_assoc, dropGaps_gap spaced.lead]
  rfl

/-- Every other one stands behind a comma. -/
theorem findNext_other {gap : List Char} (blank : IsGapText gap) (spaced : m.WellSpaced) :
    findNext '}' false (gap ++ ',' :: (m.text ++ rest)) = .ok (.element (m.keyed ++ rest)) := by
  have lead : dropGaps (m.text ++ rest) = m.keyed ++ rest := by
    rw [Member.text, List.append_assoc, dropGaps_gap spaced.lead]
    rfl
  rw [findNext, dropGaps_gap blank, dropGaps_cons rfl]
  simp only [Bool.false_eq_true, if_false, if_true, lead]
  rfl

/-- One step through an object. -/
theorem readMembers_eq {isFirst : Bool} (found : findNext '}' isFirst cs = .ok (.element start)) :
    readMembers shape seen isFirst cs =
      match readMember shape seen start with
      | .error e => .error e
      | .ok (none, after) => readMembers shape seen false after
      | .ok (some (f, x), after) =>
        match readMembers shape (f :: seen) false after with
        | .error e => .error e
        | .ok (more, rest) => .ok ((f, x) :: more, rest) := by
  rw [readMembers]
  split
  · rename_i element
    cases found.symm.trans element
  · rename_i element
    cases found.symm.trans element
  · rename_i element
    cases found.symm.trans element
    split
    · rename_i failed
      rw [failed]
    · rename_i unknown
      rw [unknown]
    · rename_i f x left known
      cases others : readMembers shape (f :: seen) false left <;> simp only [known, others]

/-- If the members behind one are read as they are gathered, so are they together with it. -/
theorem readMembers_member (delimits : Delimits shape) (spaced : m.WellSpaced)
    (value : IsValue m.value) (bounded : Bounded start) {isFirst : Bool}
    (found : findNext '}' isFirst cs = .ok (.element (m.keyed ++ start))) {ps : List Pair}
    (others : ∀ {seen es}, readMembers shape seen false (m.trail ++ start) = .ok (es, after) ↔
      shape.Gathers seen ps es ∧ after = rest) :
    readMembers shape seen isFirst cs = .ok (es, after) ↔
      shape.Gathers seen (m.toPair :: ps) es ∧ after = rest := by
  have read {e : Option (φ × ν)} {left : List Char} :
      readMember shape seen (m.keyed ++ start) = .ok (e, left) ↔
        shape.entryOf? m.toPair = some e ∧ (∀ a ∈ e, a.1 ∉ seen) ∧ left = m.trail ++ start :=
    readMember_keyed delimits spaced value bounded
  rw [readMembers_eq found]
  constructor
  · intro h
    split at h
    · cases h
    · rename_i known
      obtain ⟨entry, -, rfl⟩ := read.mp known
      obtain ⟨gathers, rfl⟩ := others.mp h
      exact ⟨.unknown entry gathers, rfl⟩
    · rename_i known
      obtain ⟨entry, fresh, rfl⟩ := read.mp known
      split at h
      · cases h
      · rename_i more
        cases h
        obtain ⟨gathers, rfl⟩ := others.mp more
        exact ⟨.known entry (fresh _ rfl) gathers, rfl⟩
  · rintro ⟨gathers, rfl⟩
    cases gathers with
    | unknown entry gathers =>
      rw [read.mpr ⟨entry, by simp, rfl⟩]
      exact others.mpr ⟨gathers, rfl⟩
    | known entry fresh gathers =>
      rw [read.mpr ⟨entry, by simpa using fresh, rfl⟩]
      simp only [others.mpr ⟨gathers, rfl⟩]

/-- The members behind the first one are read as they are gathered, and to their end. -/
theorem readMembers_others (delimits : Delimits shape) {ms : List Member}
    (spaced : ∀ m ∈ ms, m.WellSpaced) (values : ∀ m ∈ ms, IsValue m.value) {gap : List Char}
    (blank : IsGapText gap) :
    readMembers shape seen false (gap ++ ((ms.map Member.text).flatMap (',' :: ·) ++ '}' :: rest)) =
        .ok (es, after) ↔
      shape.Gathers seen (ms.map Member.toPair) es ∧ after = rest := by
  induction ms generalizing seen gap es with
  | nil =>
    rw [List.map_nil, List.flatMap_nil, List.nil_append,
      readMembers_of_close (findNext_close_gap blank false)]
    constructor
    · rintro ⟨⟩
      exact ⟨.nil, rfl⟩
    · rintro ⟨⟨⟩, rfl⟩
      rfl
  | cons m ms ih =>
    obtain ⟨spacedHere, spaced⟩ := List.forall_mem_cons.mp spaced
    obtain ⟨valueHere, values⟩ := List.forall_mem_cons.mp values
    simp only [List.map_cons, List.flatMap_cons, List.cons_append, List.append_assoc]
    exact readMembers_member delimits spacedHere valueHere
      (bounded_flatMap_comma (bounded_cons (by decide) rest)) (findNext_other blank spacedHere)
      (ih spaced values spacedHere.trail)

/-- An object is read as its members are gathered. -/
theorem readRecord_object (delimits : Delimits shape) {ms : List Member}
    (spaced : ∀ m ∈ ms, m.WellSpaced) (values : ∀ m ∈ ms, IsValue m.value) {lead gap : List Char}
    (blankLead : IsGapText lead) (blank : IsGapText gap) {entries : Entries φ ν} :
    readRecord shape (lead ++ (objectText gap ms ++ rest)) = .ok (entries, after) ↔
      ∃ es, entries = .named es ∧ shape.Gathers [] (ms.map Member.toPair) es ∧ after = rest := by
  have members {es : List (φ × ν)} {after : List Char} :
      readMembers shape [] true (gap ++ (commas (ms.map Member.text) ++ '}' :: rest)) =
        .ok (es, after) ↔ shape.Gathers [] (ms.map Member.toPair) es ∧ after = rest := by
    cases ms with
    | nil =>
      rw [List.map_nil, commas, List.nil_append,
        readMembers_of_close (findNext_close_gap blank true)]
      constructor
      · rintro ⟨⟩
        exact ⟨.nil, rfl⟩
      · rintro ⟨⟨⟩, rfl⟩
        rfl
    | cons m ms =>
      obtain ⟨spacedHere, spaced⟩ := List.forall_mem_cons.mp spaced
      obtain ⟨valueHere, values⟩ := List.forall_mem_cons.mp values
      rw [List.map_cons, commas, List.append_assoc]
      exact readMembers_member delimits spacedHere valueHere
        (bounded_flatMap_comma (bounded_cons (by decide) rest)) (findNext_first blank spacedHere)
        (readMembers_others delimits spaced values spacedHere.trail)
  have text : objectText gap ms ++ rest =
      '{' :: (gap ++ (commas (ms.map Member.text) ++ '}' :: rest)) := by
    simp [objectText]
  rw [readRecord, dropGaps_gap blankLead, text, dropGaps_cons rfl]
  simp only [if_true, bind, Except.bind, pure, Except.pure]
  cases read : readMembers shape [] true (gap ++ (commas (ms.map Member.text) ++ '}' :: rest)) with
  | error e =>
    refine iff_of_false (by simp) ?_
    rintro ⟨es, -, gathers⟩
    cases read.symm.trans (members.mpr gathers)
  | ok r =>
    obtain ⟨es, left⟩ := r
    obtain ⟨gathers, rfl⟩ := members.mp read
    constructor
    · rintro ⟨⟩
      exact ⟨es, rfl, gathers, rfl⟩
    · rintro ⟨es', rfl, gathers', rfl⟩
      cases read.symm.trans (members.mpr ⟨gathers', rfl⟩)
      rfl

end

/-! ## Object texts -/

/-- The text of an object: members, with gaps around all tokens. -/
structure ObjectText where
  lead : List Char
  gap : List Char
  members : List Member
  trail : List Char
  blankLead : IsGapText lead
  blank : IsGapText gap
  spaced : ∀ m ∈ members, m.WellSpaced
  values : ∀ m ∈ members, IsValue m.value
  blankTrail : IsGapText trail

namespace ObjectText

def chars (o : ObjectText) : List Char := o.lead ++ (objectText o.gap o.members ++ o.trail)

def text (o : ObjectText) : String := String.ofList o.chars

/-- The members without the gaps around them. -/
def pairs (o : ObjectText) : List Pair := o.members.map Member.toPair

theorem isValue_of_mem {p : Pair} (o : ObjectText) (member : p ∈ o.pairs) : IsValue p.value := by
  obtain ⟨m, inObject, rfl⟩ := List.mem_map.mp member
  exact o.values m inObject

end ObjectText

/-- A text holds an object and nothing else, as far as the skipping machine can tell. -/
def IsObject (text : String) : Prop :=
  (dropGaps text.toList).head? = some '{' ∧
    ∃ rest, skipValue text.toList = .ok rest ∧ IsGapText rest

/-- A value that starts with a brace is an object. -/
theorem IsValue.exists_object {v : List Char} (value : IsValue v) (brace : v.head? = some '{') :
    ∃ gap members, v = objectText gap members ∧ IsGapText gap ∧
      ∀ m ∈ members, m.WellSpaced ∧ IsValue m.value := by
  cases value with
  | word listed =>
    simp only [words, List.mem_cons, List.not_mem_nil, or_false] at listed
    rcases listed with rfl | rfl | rfl <;> cases brace
  | number number =>
    obtain ⟨c, cs, rfl, start⟩ := number.starts
    cases brace
    simp at start
  | text inside => cases brace
  | list blank spaced values => cases brace
  | @object gap members blank spaced values =>
    exact ⟨gap, members, rfl, blank, fun m member => ⟨spaced m member, values m member⟩⟩

/-- These are the texts of objects. -/
theorem isObject_iff {text : String} : IsObject text ↔ ∃ o : ObjectText, o.text = text := by
  constructor
  · rintro ⟨brace, rest, h, blankTrail⟩
    obtain ⟨lead, v, same, blankLead, value⟩ := exists_of_skipValue h
    obtain ⟨c, cs, start, noGap, -⟩ := value.starts
    rw [same, dropGaps_gap blankLead, start, List.cons_append, dropGaps_cons noGap] at brace
    obtain ⟨gap, members, rfl, blank, good⟩ := value.exists_object (by rw [start]; exact brace)
    refine ⟨⟨lead, gap, members, rest, blankLead, blank, fun m member => (good m member).1,
      fun m member => (good m member).2, blankTrail⟩, ?_⟩
    rw [ObjectText.text, ObjectText.chars, ← same, String.ofList_toList]
  · rintro ⟨o, rfl⟩
    have value : IsValue (objectText o.gap o.members) := .object o.blank o.spaced o.values
    have bounded : Bounded o.trail := by simpa using bounded_nil.of_gap o.blankTrail
    rw [IsObject, ObjectText.text, String.toList_ofList, ObjectText.chars]
    exact ⟨by rw [dropGaps_gap o.blankLead]; rfl, o.trail,
      skipValue_value o.blankLead value bounded, o.blankTrail⟩

/-! ## Objects as they are written -/

/-- What is written for a text spells it. -/
theorem spells_flatMap_quoteChar (s : List Char) : Spells (s.flatMap quoteChar) s := by
  obtain ⟨body, same, spells⟩ := exists_of_unquote (unquote_flatMap_quoteChar s [])
  rwa [List.append_cancel_right same]

theorem isText_quote (s : String) : IsText (quote s) s :=
  ⟨s.toList.flatMap quoteChar, rfl, spells_flatMap_quoteChar _⟩

theorem isValue_quote (s : String) : IsValue (quote s) :=
  .text (spells_flatMap_quoteChar _).isBody

namespace ObjectText

def compactMember (m : String × List Char) : Member where
  lead := []
  key := m.1.toList.flatMap quoteChar
  afterKey := []
  beforeValue := []
  value := m.2
  trail := []

theorem name?_compactMember (m : String × List Char) : (compactMember m).name? = some m.1 :=
  (Pair.name?_eq_some_iff (spells_flatMap_quoteChar _).isBody).mpr (spells_flatMap_quoteChar _)

def compact (members : List (String × List Char)) (values : ∀ m ∈ members, IsValue m.2) :
    ObjectText where
  lead := []
  gap := []
  members := members.map compactMember
  trail := []
  blankLead := isGapText_nil
  blank := isGapText_nil
  spaced := List.forall_mem_map.mpr fun _ _ => ⟨(spells_flatMap_quoteChar _).isBody, isGapText_nil,
    isGapText_nil, isGapText_nil, isGapText_nil⟩
  values := List.forall_mem_map.mpr values
  blankTrail := isGapText_nil

end ObjectText

end RemediationLedger.Json

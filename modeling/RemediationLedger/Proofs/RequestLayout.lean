/-
The layout of a request in JSON.

What an object says of a request can be read off its members one by one: each
has a name, a field is named at most once, a field that is named has what its
value says, and one that is not has its default, if it has one (`Describes`).
Decoding finds just this (`ofJson_text`). It does not mention the order in which
the members come, the gaps, members with unknown names or the spelling of a
text, so the results about the layout are short.

The decoder looks the fields up in the list of entries. No field comes twice in
it, so what is looked up is what the one member says that names the field
(`describes_iff`).

## Statement

`layout_is_immaterial` has eight parts. The first two say what is decoded at
all, and from what: the texts are those of objects by the grammar, and what is
decoded is what the members describe. From these the others follow by looking at
`Describes`: members may be put in any order; members with unknown names may be
added and left out; a nullable field may be `null` or missing; the actor may be
the default one or missing; a field that comes twice, or a required one that is
missing, makes the text unreadable.

A text is thus taken apart twice, once by the grammar and once by the reader,
and the two need not agree on texts that are no objects. Lists are the other
form of a record and have no layout but their order; they are not the subject
here.
-/
import Mathlib.Data.List.Nodup
import RemediationLedger.Proofs.ObjectLayout

namespace RemediationLedger

open Json

namespace RequestField

/-- A field takes strings, and some fields take `null` for no text. -/
def Accepts (f : RequestField) (v : List Char) (x : Option String) : Prop :=
  (f.isNullable ∧ v = null ∧ x = none) ∨ ∃ s, x = some s ∧ IsText v s

theorem read_value {f : RequestField} {gap v rest after : List Char} {x : Option String}
    (blank : IsGapText gap) (value : IsValue v) :
    f.read (gap ++ (v ++ rest)) = .ok (x, after) ↔ f.Accepts v x ∧ after = rest := by
  unfold read Accepts
  cases f.isNullable with
  | true => simpa using readOptionalText_value blank value
  | false =>
    have text {s : String} {after : List Char} :
        readText (gap ++ (v ++ rest)) = .ok (s, after) ↔ IsText v s ∧ after = rest :=
      readText_value blank value
    simp only [Bool.false_eq_true, if_false, false_and, false_or]
    constructor
    · intro h
      split at h
      · rename_i read
        cases h
        obtain ⟨spelled, rfl⟩ := text.mp read
        exact ⟨⟨_, rfl, spelled⟩, rfl⟩
      · cases h
    · rintro ⟨⟨s, rfl, spelled⟩, rfl⟩
      rw [text.mpr ⟨spelled, rfl⟩]

/-- What a field has when it is left out. The three ids and the status must not be. -/
def default? : RequestField → Option (Option String)
  | findingId | executionId | findingType | remediationStatus => none
  | error | resourceId | resourceType | accountId | severity | region => some none
  | lastUpdatedBy => some (some automatedActor)

/-- What a field has when it was given some text, or none. -/
def resolve (f : RequestField) : Option String → Option (Option String)
  | some s => some (some s)
  | none => f.default?

theorem default?_of_isNullable {f : RequestField} (nullable : f.isNullable) :
    f.default? = some none := by
  cases f <;> first | rfl | cases nullable

theorem resolve_of_isNullable {f : RequestField} (nullable : f.isNullable) (x : Option String) :
    f.resolve x = some x := by
  cases x with
  | none => exact default?_of_isNullable nullable
  | some s => rfl

theorem resolve_actor (x : Option String) :
    lastUpdatedBy.resolve x = some (some (x.getD automatedActor)) := by
  cases x <;> rfl

/-- A text, or its absence, that a field accepts is what the field has. -/
theorem resolve_of_accepts {f : RequestField} {v : List Char} {x : Option String}
    (accepts : f.Accepts v x) : f.resolve x = some x := by
  rcases accepts with ⟨nullable, -, rfl⟩ | ⟨s, rfl, -⟩
  · exact resolve_of_isNullable nullable none
  · rfl

/-- To a field that may be `null`, this says as much as leaving it out. -/
theorem accepts_null {f : RequestField} {x : Option String} (nullable : f.isNullable) :
    f.Accepts null x ↔ f.default? = some x := by
  rw [default?_of_isNullable nullable, Option.some_inj]
  constructor
  · rintro (⟨-, -, rfl⟩ | ⟨s, -, text⟩)
    · rfl
    · exact absurd text (not_isText (by decide) _ s)
  · rintro rfl
    exact .inl ⟨nullable, rfl, rfl⟩

/-- To the actor, its default says as much as leaving it out. -/
theorem accepts_actor {v : List Char} {x : Option String} (isActor : IsText v automatedActor) :
    lastUpdatedBy.Accepts v x ↔ lastUpdatedBy.default? = some x := by
  rw [default?, Option.some_inj]
  constructor
  · rintro (⟨nullable, -⟩ | ⟨s, rfl, text⟩)
    · cases nullable
    · rw [isActor.unique text]
  · rintro rfl
    exact .inr ⟨_, rfl, isActor⟩

end RequestField

namespace Request

variable {f g : RequestField} {v : List Char} {x : Option String} {p : Pair} {ps ps' : List Pair}
  {r : Request} {es : List (RequestField × Option String)}

/-! ## Entries and requests -/

/-- What a request has in a field. -/
def value (r : Request) (f : RequestField) : Option String := (r.values.lookup f).join

theorem required_eq_ok_iff {missing : String → ShapeProblem} {s : String} :
    required es missing f = .ok s ↔ (es.lookup f).join = some s := by
  rw [required_eq]
  cases (es.lookup f).join <;> simp

/-- A field without a default has to be given. -/
theorem required_of_resolve {missing : String → ShapeProblem} {s : String}
    (noDefault : f.default? = none) (resolved : f.resolve (es.lookup f).join = some (some s)) :
    required es missing f = .ok s := by
  rw [required_eq_ok_iff]
  cases given : (es.lookup f).join with
  | none =>
    rw [given, RequestField.resolve, noDefault] at resolved
    cases resolved
  | some t =>
    rw [given] at resolved
    exact Option.some.inj resolved

theorem resolve_of_ofEntries {missing : String → ShapeProblem}
    (finished : ofEntries es missing = .ok r) (f : RequestField) :
    f.resolve (es.lookup f).join = some (r.value f) := by
  have exists_ok {α β : Type} {x : Except ShapeProblem α} {g : α → Except ShapeProblem β} {b : β}
      (h : x.bind g = .ok b) : ∃ a, x = .ok a ∧ g a = .ok b := by
    cases x with
    | error e => cases h
    | ok a => exact ⟨a, rfl, h⟩
  obtain ⟨findingId, first, finished⟩ := exists_ok finished
  obtain ⟨executionId, second, finished⟩ := exists_ok finished
  obtain ⟨findingType, third, finished⟩ := exists_ok finished
  obtain ⟨status, fourth, finished⟩ := exists_ok finished
  cases finished
  have given {f : RequestField} {s : String} (found : required es missing f = .ok s) :
      f.resolve (es.lookup f).join = some (some s) := by
    rw [required_eq_ok_iff.mp found, RequestField.resolve]
  cases f with
  | findingId => exact given first
  | executionId => exact given second
  | findingType => exact given third
  | remediationStatus => exact given fourth
  | lastUpdatedBy => exact RequestField.resolve_actor _
  | error | resourceId | resourceType | accountId | severity | region =>
    exact RequestField.resolve_of_isNullable rfl _

theorem ofEntries_of_resolve {missing : String → ShapeProblem}
    (resolved : ∀ f, RequestField.resolve f (es.lookup f).join = some (r.value f)) :
    ofEntries es missing = .ok r := by
  have optional (f : RequestField) (nullable : f.isNullable) :
      (es.lookup f).join = r.value f := by
    have resolved := resolved f
    rwa [RequestField.resolve_of_isNullable nullable, Option.some_inj] at resolved
  have actor : (es.lookup .lastUpdatedBy).join.getD automatedActor = r.lastUpdatedBy := by
    have resolved := resolved .lastUpdatedBy
    rw [RequestField.resolve_actor, Option.some_inj] at resolved
    exact Option.some.inj resolved
  simp only [ofEntries, required_of_resolve rfl (resolved .findingId),
    required_of_resolve rfl (resolved .executionId),
    required_of_resolve rfl (resolved .findingType),
    required_of_resolve rfl (resolved .remediationStatus), optional .error rfl,
    optional .resourceId rfl, optional .resourceType rfl, optional .accountId rfl,
    optional .severity rfl, optional .region rfl, actor]
  rfl

/-- Entries amount to the request that has in each field what becomes of the text given for it. -/
theorem ofEntries_eq_ok_iff {missing : String → ShapeProblem} :
    ofEntries es missing = .ok r ↔
      ∀ f, RequestField.resolve f (es.lookup f).join = some (r.value f) :=
  ⟨resolve_of_ofEntries, ofEntries_of_resolve⟩

theorem lookup_eq_none (fresh : f ∉ es.map Prod.fst) : es.lookup f = none := by
  rw [List.lookup_eq_none_iff]
  intro e member
  exact bne_iff_ne.mpr fun same => fresh (List.mem_map.mpr ⟨e, member, same.symm⟩)

/-- Where each field has one entry, this is the one that is found. -/
theorem lookup_of_mem (apart : (es.map Prod.fst).Nodup) (member : (f, x) ∈ es) :
    es.lookup f = some x := by
  obtain ⟨before, behind, rfl⟩ := List.append_of_mem member
  rw [List.map_append, List.map_cons, List.nodup_middle] at apart
  refine List.lookup_eq_some_iff.mpr ⟨before, behind, rfl, fun e member => ?_⟩
  refine bne_iff_ne.mpr fun same => (List.nodup_cons.mp apart).1 ?_
  exact List.mem_append_left _ (List.mem_map.mpr ⟨e, member, same.symm⟩)

/-! ## Values -/

theorem value?_eq_some_iff (value : IsValue v) : shape.value? f v = some x ↔ f.Accepts v x := by
  have read {x : Option String} {after : List Char} :
      shape.read f v = .ok (x, after) ↔ f.Accepts v x ∧ after = [] := by
    have found : f.read ([] ++ (v ++ [])) = .ok (x, after) ↔ f.Accepts v x ∧ after = [] :=
      RequestField.read_value isGapText_nil value
    rwa [List.nil_append, List.append_nil] at found
  unfold RecordShape.value?
  constructor
  · intro h
    split at h
    · rename_i found
      cases h
      exact (read.mp found).1
    · cases h
  · intro accepts
    rw [read.mpr ⟨accepts, rfl⟩]

theorem value?_quote (f : RequestField) (s : String) : shape.value? f (quote s) = some (some s) :=
  (value?_eq_some_iff (isValue_quote s)).mpr (.inr ⟨s, rfl, isText_quote s⟩)

theorem delimits_shape : Delimits shape := by
  intro f gap v rest after x blank value bounded
  rw [value?_eq_some_iff value]
  exact RequestField.read_value blank value

/-! ## Members -/

theorem field?_eq_some_iff {name : String} : shape.field? name = some f ↔ f.name = name := by
  constructor
  · intro found
    have first : RequestField.all.find? (fun f => f.name == name) = some f := found
    simpa using List.find?_some first
  · rintro rfl
    exact findsFields_shape f

theorem field?_eq_none_iff {name : String} :
    shape.field? name = none ↔ ∀ f : RequestField, f.name ≠ name := by
  rw [Option.eq_none_iff_forall_ne_some]
  exact forall_congr' fun f => not_congr field?_eq_some_iff

/-- The name of a member is that of a field. -/
def Names (p : Pair) (f : RequestField) : Prop := p.name? = some f.name

instance (p : Pair) (f : RequestField) : Decidable (Names p f) :=
  inferInstanceAs (Decidable (p.name? = some f.name))

def IsUnknown (p : Pair) : Prop := ∃ name, p.name? = some name ∧ ∀ f : RequestField, f.name ≠ name

theorem isUnknown_iff : (p.name?.any fun name => (shape.field? name).isNone) ↔ IsUnknown p := by
  simp only [Option.any_eq_true, Option.isNone_iff_eq_none, field?_eq_none_iff]
  rfl

instance : DecidablePred IsUnknown := fun _ => decidable_of_iff _ isUnknown_iff

theorem entryOf?_of_isUnknown (unknown : IsUnknown p) : shape.entryOf? p = some none := by
  obtain ⟨name, named, noField⟩ := unknown
  rw [RecordShape.entryOf?, named]
  simp only [field?_eq_none_iff.mpr noField]

theorem entryOf?_of_names (named : Names p f) :
    shape.entryOf? p = (shape.value? f p.value).map fun x => some (f, x) := by
  rw [RecordShape.entryOf?, named]
  simp only [field?_eq_some_iff.mpr rfl]

/-- An entry is under the field that the member names. -/
theorem names_of_entryOf? (entry : shape.entryOf? p = some (some (f, x))) : Names p f := by
  unfold RecordShape.entryOf? at entry
  split at entry
  · cases entry
  · rename_i named
    split at entry
    · cases entry
    · rename_i known
      obtain ⟨x, -, same⟩ := Option.map_eq_some_iff.mp entry
      cases same
      rw [Names, named, field?_eq_some_iff.mp known]

theorem mem_entries {e : RequestField × Option String} :
    e ∈ shape.entries ps ↔ ∃ p ∈ ps, shape.entryOf? p = some (some e) := by
  simp [RecordShape.entries, Option.join_eq_some_iff]

/-- A field that no member names has no entry. -/
theorem fresh_of_unnamed (unnamed : ∀ p ∈ ps, ¬ Names p f) :
    f ∉ (shape.entries ps).map Prod.fst := by
  intro member
  obtain ⟨⟨g, x⟩, inEntries, rfl⟩ := List.mem_map.mp member
  obtain ⟨p, inMembers, entry⟩ := mem_entries.mp inEntries
  exact unnamed p inMembers (names_of_entryOf? entry)

/-- A member has at most one field that it names. -/
theorem names_unique (named : Names p f) (named' : Names p g) : f = g := by
  have same : f.name = g.name := Option.some.inj (named.symm.trans named')
  have found : shape.field? g.name = some f := field?_eq_some_iff.mpr same
  exact Option.some.inj (found.symm.trans (findsFields_shape g))

/-- Members that can be read have an entry for each time that a field is named. -/
theorem count_entries (readable : ∀ p ∈ ps, (shape.entryOf? p).isSome) :
    ((shape.entries ps).map Prod.fst).count f = ps.countP (Names · f) := by
  induction ps with
  | nil => rfl
  | cons p ps ih =>
    obtain ⟨here, readable⟩ := List.forall_mem_cons.mp readable
    obtain ⟨entry, found⟩ := Option.isSome_iff_exists.mp here
    have ih := ih readable
    cases entry with
    | none =>
      have unnamed : ¬ Names p f := by
        intro named
        rw [entryOf?_of_names named] at found
        obtain ⟨x, -, same⟩ := Option.map_eq_some_iff.mp found
        cases same
      simpa [RecordShape.entries, found, unnamed] using ih
    | some e =>
      obtain ⟨g, x⟩ := e
      have named : Names p f ↔ g = f := by
        constructor
        · exact fun named => names_unique (names_of_entryOf? found) named
        · rintro rfl
          exact names_of_entryOf? found
      have entries : shape.entries (p :: ps) = (g, x) :: shape.entries ps := by
        simp [RecordShape.entries, found]
      rw [entries, List.map_cons, List.count_cons, List.countP_cons, ih]
      by_cases same : g = f
      · simp [named, same]
      · simp [named, same]

/-! ## What members describe -/

/-- What members say of a request, in whatever order. -/
structure Describes (ps : List Pair) (r : Request) : Prop where
  named : ∀ p ∈ ps, p.name?.isSome
  once : ∀ f, ps.countP (Names · f) ≤ 1
  given : ∀ p ∈ ps, ∀ f, Names p f → f.Accepts p.value (r.value f)
  omitted : ∀ f, (∀ p ∈ ps, ¬ Names p f) → f.default? = some (r.value f)

theorem Describes.readable (values : ∀ p ∈ ps, IsValue p.value) (h : Describes ps r) :
    ∀ p ∈ ps, (shape.entryOf? p).isSome := by
  intro p member
  by_cases known : ∃ f, Names p f
  · obtain ⟨f, names⟩ := known
    have value := (value?_eq_some_iff (values p member)).mpr (h.given p member f names)
    rw [entryOf?_of_names names, value]
    rfl
  · obtain ⟨name, named⟩ := Option.isSome_iff_exists.mp (h.named p member)
    have unknown : IsUnknown p :=
      ⟨name, named, fun f same => known ⟨f, named.trans (congrArg some same.symm)⟩⟩
    rw [entryOf?_of_isUnknown unknown]
    rfl

theorem isSome_name? (readable : (shape.entryOf? p).isSome) : p.name?.isSome := by
  unfold RecordShape.entryOf? at readable
  split at readable
  · cases readable
  · rename_i named
    rw [named]
    rfl

/-- A member that names a field adds the entry that its value stands for. -/
theorem mem_entries_of_names (value : IsValue p.value) (member : p ∈ ps) (names : Names p f)
    (accepts : f.Accepts p.value x) : (f, x) ∈ shape.entries ps := by
  refine mem_entries.mpr ⟨p, member, ?_⟩
  rw [entryOf?_of_names names, (value?_eq_some_iff value).mpr accepts]
  rfl

/-- What members describe is what their entries amount to, if each field has one entry. -/
theorem describes_iff (values : ∀ p ∈ ps, IsValue p.value) :
    Describes ps r ↔ (∀ p ∈ ps, (shape.entryOf? p).isSome) ∧
      ((shape.entries ps).map Prod.fst).Nodup ∧
      ofEntries (shape.entries ps) .missingField = .ok r := by
  rw [ofEntries_eq_ok_iff]
  constructor
  · intro h
    have readable := h.readable values
    have apart : ((shape.entries ps).map Prod.fst).Nodup := by
      refine List.nodup_iff_count_le_one.mpr fun f => ?_
      rw [count_entries readable]
      exact h.once f
    refine ⟨readable, apart, fun f => ?_⟩
    by_cases known : ∃ p ∈ ps, Names p f
    · obtain ⟨p, member, names⟩ := known
      have accepts := h.given p member f names
      have entry := mem_entries_of_names (values p member) member names accepts
      rw [lookup_of_mem apart entry]
      exact RequestField.resolve_of_accepts accepts
    · have unnamed : ∀ p ∈ ps, ¬ Names p f := fun p member names => known ⟨p, member, names⟩
      rw [lookup_eq_none (fresh_of_unnamed unnamed)]
      exact h.omitted f unnamed
  · rintro ⟨readable, apart, resolved⟩
    refine ⟨fun p member => isSome_name? (readable p member), fun f => ?_,
      fun p member f names => ?_, fun f unnamed => ?_⟩
    · rw [← count_entries readable]
      exact List.nodup_iff_count_le_one.mp apart f
    · have known := readable p member
      rw [entryOf?_of_names names, Option.isSome_map] at known
      obtain ⟨x, value⟩ := Option.isSome_iff_exists.mp known
      have accepts := (value?_eq_some_iff (values p member)).mp value
      have resolved := resolved f
      rw [lookup_of_mem apart (mem_entries_of_names (values p member) member names accepts),
        Option.join_some, RequestField.resolve_of_accepts accepts] at resolved
      rwa [← Option.some.inj resolved]
    · have resolved := resolved f
      rwa [lookup_eq_none (fresh_of_unnamed unnamed)] at resolved

/-! ## Members that do not matter -/

theorem Describes.perm (perm : ps.Perm ps') (h : Describes ps r) : Describes ps' r where
  named p member := h.named p (perm.mem_iff.mpr member)
  once f := perm.countP_eq (Names · f) ▸ h.once f
  given p member := h.given p (perm.mem_iff.mpr member)
  omitted f unnamed := h.omitted f fun p member => unnamed p (perm.mem_iff.mp member)

theorem describes_perm (perm : ps.Perm ps') : Describes ps r ↔ Describes ps' r :=
  ⟨.perm perm, .perm perm.symm⟩

theorem not_names_of_isUnknown (unknown : IsUnknown p) : ¬ Names p f := by
  intro names
  obtain ⟨name, named, noField⟩ := unknown
  exact noField f (Option.some.inj (names.symm.trans named))

/-- Members with unknown names say nothing. -/
theorem describes_filter : Describes (ps.filter (¬ IsUnknown ·)) r ↔ Describes ps r := by
  have mem {p : Pair} : p ∈ ps.filter (¬ IsUnknown ·) ↔ p ∈ ps ∧ ¬ IsUnknown p := by
    simp [List.mem_filter]
  have count (f : RequestField) :
      (ps.filter (¬ IsUnknown ·)).countP (Names · f) = ps.countP (Names · f) := by
    rw [List.countP_filter]
    refine List.countP_congr fun p _ => ?_
    have known : Names p f → ¬ IsUnknown p := fun names unknown =>
      not_names_of_isUnknown unknown names
    simpa using known
  constructor
  · intro h
    refine ⟨fun p member => ?_, fun f => count f ▸ h.once f, fun p member f names => ?_,
      fun f unnamed => h.omitted f fun p member => unnamed p (mem.mp member).1⟩
    · by_cases unknown : IsUnknown p
      · obtain ⟨name, named, -⟩ := unknown
        rw [named]
        rfl
      · exact h.named p (mem.mpr ⟨member, unknown⟩)
    · exact h.given p (mem.mpr ⟨member, fun unknown => not_names_of_isUnknown unknown names⟩) f
        names
  · intro h
    refine ⟨fun p member => h.named p (mem.mp member).1, fun f => (count f).symm ▸ h.once f,
      fun p member => h.given p (mem.mp member).1, fun f unnamed => h.omitted f fun p member => ?_⟩
    exact fun names =>
      unnamed p (mem.mpr ⟨member, fun unknown => not_names_of_isUnknown unknown names⟩) names

/-- A member whose value says what the default of its field is can be left out, if no other one
names the field. -/
theorem describes_cons (names : Names p f) (alone : ∀ q ∈ ps, ¬ Names q f)
    (fixed : ∀ x, f.Accepts p.value x ↔ f.default? = some x) :
    Describes (p :: ps) r ↔ Describes ps r := by
  have count (g : RequestField) : (p :: ps).countP (Names · g) =
      ps.countP (Names · g) + if f = g then 1 else 0 := by
    have same : Names p g ↔ f = g := ⟨names_unique names, fun same => same ▸ names⟩
    simp [List.countP_cons, same]
  have absent : ps.countP (Names · f) = 0 := List.countP_eq_zero.mpr (by simpa using alone)
  constructor
  · intro h
    refine ⟨fun q member => h.named q (List.mem_cons_of_mem p member), fun g => ?_,
      fun q member => h.given q (List.mem_cons_of_mem p member), fun g unnamed => ?_⟩
    · exact Nat.le_trans (Nat.le_add_right _ _) (count g ▸ h.once g)
    · by_cases same : f = g
      · subst same
        exact (fixed _).mp (h.given p List.mem_cons_self f names)
      · refine h.omitted g (List.forall_mem_cons.mpr ⟨fun names' => ?_, unnamed⟩)
        exact same (names_unique names names')
  · intro h
    have default : f.default? = some (r.value f) := h.omitted f alone
    refine ⟨List.forall_mem_cons.mpr ⟨by rw [names]; rfl, h.named⟩, fun g => ?_,
      List.forall_mem_cons.mpr ⟨fun g names' => ?_, h.given⟩, fun g unnamed => ?_⟩
    · rw [count g]
      by_cases same : f = g
      · subst same
        simp [absent]
      · simpa [same] using h.once g
    · cases names_unique names names'
      exact (fixed _).mpr default
    · exact h.omitted g (List.forall_mem_cons.mp unnamed).2

/-! ## Texts -/

/-- Decoding finds what the members describe. -/
theorem ofJson_text (o : ObjectText) : ofJson o.text = .ok r ↔ Describes o.pairs r := by
  have read {entries : Entries RequestField (Option String)} {after : List Char} :
      readRecord shape o.chars = .ok (entries, after) ↔
        ∃ es, entries = .named es ∧ shape.Gathers [] o.pairs es ∧ after = o.trail :=
    readRecord_object delimits_shape o.spaced o.values o.blankLead o.blank
  rw [describes_iff fun p => o.isValue_of_mem]
  have trail : o.trail.all isGap := List.all_eq_true.mpr o.blankTrail
  simp only [ofJson, decodeRecord, ObjectText.text, String.toList_ofList, bind, Except.bind]
  constructor
  · intro h
    split at h
    · cases h
    · rename_i found
      obtain ⟨es, same, gathers, trail⟩ := read.mp found
      obtain ⟨readable, rfl, apart, -⟩ := gathers_iff.mp gathers
      split at h
      · cases h
      · rename_i finished
        split at h
        · cases h
          rw [same] at finished
          exact ⟨readable, apart, finished⟩
        · cases h
  · rintro ⟨readable, apart, finished⟩
    have gathers : shape.Gathers [] o.pairs (shape.entries o.pairs) :=
      gathers_iff.mpr ⟨readable, rfl, apart, by simp⟩
    rw [read.mpr ⟨_, rfl, gathers, rfl⟩]
    simp [ofRecord, finished, trail]

def SameRequest (text text' : String) : Prop := ∀ r, ofJson text = .ok r ↔ ofJson text' = .ok r

theorem sameRequest_iff {o o' : ObjectText} :
    SameRequest o.text o'.text ↔ ∀ r, Describes o.pairs r ↔ Describes o'.pairs r := by
  simp only [SameRequest, ofJson_text]

theorem isError_of_not_describes {o : ObjectText} (nothing : ∀ r, ¬ Describes o.pairs r) :
    ∃ fault, ofJson o.text = .error fault := by
  cases decoded : ofJson o.text with
  | error fault => exact ⟨fault, rfl⟩
  | ok r => exact absurd ((ofJson_text o).mp decoded) (nothing r)

/-- **The layout of a request does not matter.** Every text of an object, as far as it can be told
without regard to what the object stands for, is a list of members with gaps around all tokens, and
decodes to the request that its members describe, if there is one. So in whatever order and with
whatever gaps the members are written, and whatever well-formed values stand under names that no
field has, the text decodes to the same request or does not decode. To give `null` for one of the
fields that may be `null` is to leave the field out, and so it is to give the default for the actor.
A text in which the name of a field comes twice does not decode, nor does one without the name of a
field that must be there. Names and texts are those that are spelled, with escapes undone. -/
theorem layout_is_immaterial :
    (∀ text, IsObject text ↔ ∃ o : ObjectText, o.text = text) ∧
    (∀ (o : ObjectText) (r : Request), ofJson o.text = .ok r ↔ Describes o.pairs r) ∧
    (∀ o o' : ObjectText, o.pairs.Perm o'.pairs → SameRequest o.text o'.text) ∧
    (∀ o o' : ObjectText,
      o.pairs.filter (¬ IsUnknown ·) = o'.pairs.filter (¬ IsUnknown ·) →
        SameRequest o.text o'.text) ∧
    (∀ (o o' : ObjectText) (p : Pair) (f : RequestField),
      o.pairs.Perm (p :: o'.pairs) → f.isNullable → Names p f → p.value = null →
        (∀ q ∈ o'.pairs, ¬ Names q f) → SameRequest o.text o'.text) ∧
    (∀ (o o' : ObjectText) (p : Pair),
      o.pairs.Perm (p :: o'.pairs) → Names p .lastUpdatedBy → IsText p.value "Automated" →
        (∀ q ∈ o'.pairs, ¬ Names q .lastUpdatedBy) → SameRequest o.text o'.text) ∧
    (∀ (o : ObjectText) (f : RequestField), 2 ≤ o.pairs.countP (Names · f) →
      ∃ fault, ofJson o.text = .error fault) ∧
    (∀ (o : ObjectText),
      ∀ f ∈ [RequestField.findingId, .executionId, .findingType, .remediationStatus],
        (∀ p ∈ o.pairs, ¬ Names p f) → ∃ fault, ofJson o.text = .error fault) := by
  refine ⟨fun text => isObject_iff, fun o r => ofJson_text o, fun o o' perm => ?_,
    fun o o' same => ?_, fun o o' p f perm nullable names isNull alone => ?_,
    fun o o' p perm names isActor alone => ?_, fun o f repeated => ?_,
    fun o f isMandatory unnamed => ?_⟩
  · exact sameRequest_iff.mpr fun r => describes_perm perm
  · refine sameRequest_iff.mpr fun r => ?_
    rw [← describes_filter, same, describes_filter]
  · refine sameRequest_iff.mpr fun r => (describes_perm perm).trans ?_
    exact describes_cons names alone fun x => isNull ▸ RequestField.accepts_null nullable
  · refine sameRequest_iff.mpr fun r => (describes_perm perm).trans ?_
    exact describes_cons names alone fun x => RequestField.accepts_actor isActor
  · refine isError_of_not_describes fun r h => ?_
    have once := h.once f
    omega
  · refine isError_of_not_describes fun r h => ?_
    have noDefault : f.default? = none := by
      simp only [List.mem_cons, List.not_mem_nil, or_false] at isMandatory
      rcases isMandatory with rfl | rfl | rfl | rfl <;> rfl
    cases noDefault.symm.trans (h.omitted f unnamed)

/-! ## A request and its layouts -/

theorem names_compactMember {m : String × List Char} :
    Names (ObjectText.compactMember m).toPair f ↔ m.1 = f.name := by
  rw [Names, ObjectText.name?_compactMember, Option.some_inj]

/-- Without gaps, a field is named as often as its name is there. -/
theorem countP_compact {members : List (String × List Char)} {values : ∀ m ∈ members, IsValue m.2} :
    (ObjectText.compact members values).pairs.countP (Names · f) =
      members.countP (·.1 = f.name) := by
  simp [ObjectText.pairs, ObjectText.compact, List.countP_map, Function.comp_def,
    names_compactMember]

theorem entryOf?_compactMember (f : RequestField) (s : String) :
    shape.entryOf? (ObjectText.compactMember (f.name, quote s)).toPair =
      some (some (f, some s)) := by
  rw [entryOf?_of_names (names_compactMember.mpr rfl)]
  show (shape.value? f (quote s)).map _ = _
  rw [value?_quote]
  rfl

/-- Texts under the names of different fields describe what they are entries of. -/
theorem describes_of_texts (es : List (RequestField × String)) (apart : (es.map Prod.fst).Nodup)
    (finished : ofEntries (es.map fun e => (e.1, some e.2)) .missingField = .ok r) :
    Describes (es.map fun e => (ObjectText.compactMember (e.1.name, quote e.2)).toPair) r := by
  have entries : shape.entries
      (es.map fun e => (ObjectText.compactMember (e.1.name, quote e.2)).toPair) =
        es.map fun e => (e.1, some e.2) := by
    rw [RecordShape.entries, List.filterMap_map, ← List.filterMap_eq_map]
    congr 1
    funext e
    simp [entryOf?_compactMember]
  rw [describes_iff (List.forall_mem_map.mpr fun e _ => isValue_quote e.2), entries]
  refine ⟨?_, ?_, finished⟩
  · rw [List.forall_mem_map]
    intro e _
    rw [entryOf?_compactMember]
    rfl
  · rw [List.map_map]
    exact apart

def briefMembers : List (String × List Char) :=
  [("findingId", quote "f-1"), ("executionId", quote "e-1"), ("findingType", quote "S3.1"),
    ("remediationStatus", quote "FAILED")]

theorem isValue_briefMembers : ∀ m ∈ briefMembers, IsValue m.2 := by
  simp [briefMembers, isValue_quote]

def brief : ObjectText := .compact briefMembers isValue_briefMembers

def briefRequest : Request where
  findingId := "f-1"
  executionId := "e-1"
  findingType := "S3.1"
  remediationStatus := "FAILED"

theorem ofJson_brief : ofJson brief.text = .ok briefRequest :=
  (ofJson_text brief).mpr (describes_of_texts
    [(.findingId, "f-1"), (.executionId, "e-1"), (.findingType, "S3.1"),
      (.remediationStatus, "FAILED")] (by decide) rfl)

def turned : ObjectText :=
  .compact briefMembers.reverse fun m member => isValue_briefMembers m (List.mem_reverse.mp member)

def withMember (name : String) (v : List Char) (value : IsValue v) : ObjectText :=
  .compact ((name, v) :: briefMembers) (List.forall_mem_cons.mpr ⟨value, isValue_briefMembers⟩)

def beheaded : ObjectText :=
  .compact briefMembers.tail fun m member => isValue_briefMembers m (List.mem_of_mem_tail member)

def nested : List Char := listText [] [⟨[], objectText [] [], []⟩]

theorem isValue_nested : IsValue nested :=
  .list isGapText_nil (by simpa using ⟨isGapText_nil, isGapText_nil⟩)
    (by simpa using .object isGapText_nil (by simp) (by simp))

/-- A brief request can be turned round, be given members that no field knows, `null` for its error
and the default for its actor. It cannot be given a second finding, nor be without one. -/
theorem layouts_of_brief :
    ofJson turned.text = .ok briefRequest ∧
    ofJson (withMember "source" nested isValue_nested).text = .ok briefRequest ∧
    ofJson (withMember "error" null isValue_null).text = .ok briefRequest ∧
    ofJson (withMember "lastUpdatedBy" (quote "Automated") (isValue_quote _)).text =
      .ok briefRequest ∧
    (∃ fault, ofJson (withMember "findingId" (quote "f-2") (isValue_quote _)).text =
      .error fault) ∧
    (∃ fault, ofJson beheaded.text = .error fault) := by
  obtain ⟨-, -, perm, unknown, isNull, actor, repeated, missing⟩ := layout_is_immaterial
  have noSource : IsUnknown (ObjectText.compactMember ("source", nested)).toPair :=
    ⟨"source", ObjectText.name?_compactMember _, fun f => by cases f <;> decide⟩
  have unnamed {members : List (String × List Char)} {values : ∀ m ∈ members, IsValue m.2}
      {f : RequestField} (absent : members.countP (·.1 = f.name) = 0) :
      ∀ q ∈ (ObjectText.compact members values).pairs, ¬ Names q f := by
    simpa using countP_compact.trans absent
  refine ⟨(perm turned brief ?_ _).mpr ofJson_brief,
    (unknown (withMember "source" nested isValue_nested) brief ?_ _).mpr ofJson_brief,
    (isNull (withMember "error" null isValue_null) brief _ .error (.refl _) rfl ?_ rfl ?_ _).mpr
      ofJson_brief,
    (actor (withMember "lastUpdatedBy" (quote "Automated") (isValue_quote _)) brief _ (.refl _) ?_
      (isText_quote _) ?_ _).mpr ofJson_brief,
    repeated _ .findingId ?_, missing _ .findingId (by decide) ?_⟩
  · exact ((List.reverse_perm briefMembers).map _).map _
  · exact List.filter_cons_of_neg (by simpa using noSource)
  · exact names_compactMember.mpr rfl
  · exact unnamed (by decide)
  · exact names_compactMember.mpr rfl
  · exact unnamed (by decide)
  · rw [withMember, countP_compact]
    decide
  · exact unnamed (by decide)

end Request

end RemediationLedger

/-
Empty texts in a new record.

What a new record holds under a name is the value of its strongest layer there,
so an empty text comes from a layer that can hold one. Most layers cannot: they
leave empty texts out, or hold a text that is never empty (`Filled`). There are
two exceptions, the status, which is stored as the request gives it, and the
scan helper, whose value the check of the settings does not look at. Both are
written as they are, and each is empty in the record unless a stronger layer has
its name (`LeavesBlank`).

## How the proof goes

The layers are cut at the two exceptions (`layers_eq`): those above the scan
helper, the helper, those between it and the status, the status, and the rest.
All three groups without an exception are `Filled`, and a strongest value of
filled layers is never an empty text (`filled_strongest`). So an empty text
under a name is one of the two exceptions with nothing above it, and what is
above it is a question about names alone (`lateNames`).

`get?_eq_blank_iff` says of one name when a record is empty there, and
`leavesNoBlank_iff` when it is empty nowhere. `blank_texts_of_new_record` states
both, for every valid request whose record can be put together, whatever the
settings are. An empty status is a text like any other to the validity of a
request, and `blank_status_is_written` shows the record that comes of it.
-/
import RemediationLedger.Proofs.Layers

namespace RemediationLedger

namespace History

open Coordinator (pairLedger pairRequest newYear built_newYear isValid_pairRequest)

variable {settings : Settings} {r : Request} {data : Option FindingData} {now : DateTime}
  {record : Put} {n : String}

/-! ## Layers without empty texts -/

/-- A layer that holds no empty text under any name. -/
def Filled (layer : String → Option Value) : Prop := ∀ n, layer n ≠ some (.text "")

theorem nonempty_ne_blank (text : Option String) : nonempty text ≠ some (.text "") := by
  cases text with
  | none => simp
  | some s =>
    rw [nonempty_some]
    split
    · simp
    · rename_i given
      simpa using given

theorem filled_under {name : String} {value : Option Value} (given : value ≠ some (.text "")) :
    Filled (under name value) := by
  intro n
  unfold under
  split
  · exact given
  · simp

theorem filled_text (name : String) {text : String} (given : text ≠ "") :
    Filled (under name (some (.text text))) :=
  filled_under (by simpa using given)

theorem filled_nonempty (text : String → Option String) : Filled fun n => nonempty (text n) :=
  fun n => nonempty_ne_blank (text n)

theorem filled_strongest {layers : List (String → Option Value)}
    (filled : ∀ layer ∈ layers, Filled layer) : Filled (strongest layers) := by
  intro n blank
  obtain ⟨layer, listed, here⟩ := List.exists_of_findSome?_eq_some blank
  exact filled layer listed n here

/-! ## The two layers with exceptions -/

theorem under_eq_some_iff {name : String} {value v : Value} :
    under name (some value) n = some v ↔ n = name ∧ value = v := by
  unfold under
  split
  · rename_i own
    simp [own]
  · rename_i other
    simp [other]

theorem under_eq_none_iff {name : String} {value : Value} :
    under name (some value) n = none ↔ n ≠ name := by
  unfold under
  split
  · rename_i own
    simp [own]
  · rename_i other
    simp [other]

def aboveHelper (r : Request) (expireAt : Int) : List (String → Option Value) :=
  [under Attribute.findingIdExecutionId (some (.text r.historySortKey)),
    under Attribute.findingType (some (.text r.findingType)),
    under Attribute.error (nonempty r.error),
    under Attribute.expireAt (some (.ofInt expireAt))]

/-- The layers between those of the scan helper and of the status. -/
def aboveStatus (r : Request) (stamp : String) : List (String → Option Value) :=
  [under Attribute.lastUpdatedTime (some (.text stamp)),
    under Attribute.lastUpdatedTimeFindingId (some (.text (stamp ++ "#" ++ r.findingId)))]

theorem append_hash_ne_blank (a b : String) : a ++ "#" ++ b ≠ "" := by
  intro blank
  have := congrArg String.toList blank
  simp at this

theorem filled_aboveHelper (valid : r.isValid = true) (expireAt : Int) :
    Filled (strongest (aboveHelper r expireAt)) := by
  have given : r.findingType ≠ "" := by
    simp only [Request.isValid, Bool.not_eq_true', Bool.or_eq_false_iff,
      String.isEmpty_eq_false_iff] at valid
    exact valid.2
  refine filled_strongest ?_
  simp only [aboveHelper, List.forall_mem_cons, List.not_mem_nil, false_imp_iff, implies_true,
    and_true]
  exact ⟨filled_text _ (append_hash_ne_blank _ _), filled_text _ given,
    filled_under (nonempty_ne_blank _), filled_under (by simp [Value.ofInt])⟩

theorem filled_aboveStatus (r : Request) {stamp : String} (given : stamp ≠ "") :
    Filled (strongest (aboveStatus r stamp)) := by
  refine filled_strongest ?_
  simp only [aboveStatus, List.forall_mem_cons, List.not_mem_nil, false_imp_iff, implies_true,
    and_true]
  exact ⟨filled_text _ given, filled_text _ (append_hash_ne_blank _ _)⟩

/-- All layers in order, cut at the two exceptions. Below the status nothing is empty again. -/
theorem layers_eq (settings : Settings) (r : Request) (data : Option FindingData) (stamp : String)
    (expireAt : Int) :
    ∃ below, Filled (strongest below) ∧
      layers settings r data stamp expireAt =
        aboveHelper r expireAt ++
          under settings.scanHelperAttribute (some (.text settings.scanHelperValue)) ::
            (aboveStatus r stamp ++
              under Attribute.remediationStatus (some (.text r.remediationStatus)) :: below) := by
  refine ⟨_, filled_strongest ?_, rfl⟩
  simp only [List.forall_mem_cons, List.not_mem_nil, false_imp_iff, implies_true, and_true]
  have actor : (nonempty (some r.lastUpdatedBy)).or (nonempty (some settings.defaultActor)) ≠
      some (.text "") := by
    intro blank
    rcases Option.or_eq_some_iff.mp blank with named | ⟨-, default⟩
    · exact nonempty_ne_blank _ named
    · exact nonempty_ne_blank _ default
  exact ⟨filled_under (nonempty_ne_blank _), filled_under (nonempty_ne_blank _),
    filled_under actor, filled_nonempty _, filled_nonempty _, filled_nonempty _⟩

/-! ## The empty texts -/

/-- The names under which a new record is written after its scan helper. -/
def lateNames (r : Request) : List String :=
  [Attribute.findingIdExecutionId, Attribute.findingType] ++
    (r.newError?.map fun _ => Attribute.error).toList ++ [Attribute.expireAt]

/-- Where a new record has an empty text: in its status, if that is empty and the scan helper is not
written over it, and in its scan helper, if that is empty and nothing is written over it. -/
inductive LeavesBlank (settings : Settings) (r : Request) : String → Prop
  | status (empty : r.remediationStatus = "")
      (kept : settings.scanHelperAttribute ≠ Attribute.remediationStatus) :
      LeavesBlank settings r Attribute.remediationStatus
  | helper (empty : settings.scanHelperValue = "")
      (kept : settings.scanHelperAttribute ∉ lateNames r) :
      LeavesBlank settings r settings.scanHelperAttribute

theorem aboveHelper_eq_none_iff (r : Request) (expireAt : Int) :
    strongest (aboveHelper r expireAt) n = none ↔ n ∉ lateNames r := by
  have error : nonempty r.error = r.newError?.map .text := rfl
  have reported : under Attribute.error (nonempty r.error) n = none ↔
      n ∉ (r.newError?.map fun _ => Attribute.error).toList := by
    rw [error]
    cases r.newError? with
    | none => simp [under]
    | some e => simpa using under_eq_none_iff
  simp only [aboveHelper, lateNames, strongest_cons, Option.or_eq_none_iff, under_eq_none_iff,
    reported]
  simp [strongest]

theorem aboveStatus_status (r : Request) (stamp : String) :
    strongest (aboveStatus r stamp) Attribute.remediationStatus = none := by
  simp [aboveStatus, strongest, under, Attribute.remediationStatus, Attribute.lastUpdatedTime,
    Attribute.lastUpdatedTimeFindingId]

theorem status_notMem_lateNames (r : Request) : Attribute.remediationStatus ∉ lateNames r := by
  unfold lateNames
  cases r.newError? with
  | none =>
    have apart : Attribute.remediationStatus ∉ [Attribute.findingIdExecutionId,
        Attribute.findingType, Attribute.expireAt] := by decide
    exact apart
  | some e =>
    have apart : Attribute.remediationStatus ∉ [Attribute.findingIdExecutionId,
        Attribute.findingType, Attribute.error, Attribute.expireAt] := by decide
    exact apart

theorem strongest_layers_eq_blank_iff (valid : r.isValid = true) {stamp : String}
    (given : stamp ≠ "") (data : Option FindingData) (expireAt : Int) :
    strongest (layers settings r data stamp expireAt) n = some (.text "") ↔
      LeavesBlank settings r n := by
  obtain ⟨below, filled, cut⟩ := layers_eq settings r data stamp expireAt
  rw [cut, strongest_append, strongest_cons, strongest_append, strongest_cons]
  constructor
  · intro blank
    rcases Option.or_eq_some_iff.mp blank with above | ⟨above, blank⟩
    · exact absurd above (filled_aboveHelper valid expireAt n)
    rcases Option.or_eq_some_iff.mp blank with helper | ⟨noHelper, blank⟩
    · obtain ⟨rfl, value⟩ := under_eq_some_iff.mp helper
      exact .helper (by simpa using value) ((aboveHelper_eq_none_iff r expireAt).mp above)
    rcases Option.or_eq_some_iff.mp blank with times | ⟨-, blank⟩
    · exact absurd times (filled_aboveStatus r given n)
    rcases Option.or_eq_some_iff.mp blank with status | ⟨-, rest⟩
    · obtain ⟨rfl, value⟩ := under_eq_some_iff.mp status
      exact .status (by simpa using value) (under_eq_none_iff.mp noHelper).symm
    · exact absurd rest (filled n)
  · intro blank
    cases blank with
    | status empty kept =>
      rw [(aboveHelper_eq_none_iff r expireAt).mpr (status_notMem_lateNames r),
        under_eq_none_iff.mpr kept.symm, aboveStatus_status, under_eq_some_iff.mpr ⟨rfl, rfl⟩, empty]
      rfl
    | helper empty kept =>
      rw [(aboveHelper_eq_none_iff r expireAt).mpr kept, under_eq_some_iff.mpr ⟨rfl, rfl⟩, empty]
      rfl

theorem stampText_ne_blank (t : DateTime) : t.stampText ≠ "" := by
  intro blank
  have := congrArg String.toList blank
  simp [DateTime.stampText] at this

theorem get?_eq_blank_iff (valid : r.isValid = true)
    (built : createFor settings r data now = .ok record) (n : String) :
    record.item.get? n = some (.text "") ↔ LeavesBlank settings r n := by
  obtain ⟨stamp, expireAt, stamped, computed, -⟩ := createFor_computed built
  obtain ⟨utc, -, rfl⟩ := Option.map_eq_some_iff.mp stamped
  rw [get?_of_createFor stamped computed built,
    strongest_layers_eq_blank_iff valid (stampText_ne_blank utc)]

/-- Nothing is left empty exactly if an empty status has the scan helper written over it, and an
empty scan helper has something later written over it. -/
theorem leavesNoBlank_iff :
    (∀ n, ¬LeavesBlank settings r n) ↔
      (r.remediationStatus = "" → settings.scanHelperAttribute = Attribute.remediationStatus) ∧
        (settings.scanHelperValue = "" → settings.scanHelperAttribute ∈ lateNames r) := by
  constructor
  · intro none
    refine ⟨fun empty => ?_, fun empty => ?_⟩
    · by_contra kept
      exact none _ (.status empty kept)
    · by_contra kept
      exact none _ (.helper empty kept)
  · rintro ⟨overStatus, overHelper⟩ n blank
    cases blank with
    | status empty kept => exact kept (overStatus empty)
    | helper empty kept => exact kept (overHelper empty)

/-- **The empty texts of a new record.** The request is valid and the record could be put together,
from whatever its finding told and under whatever settings. Its status is an empty text if the
request gives it as one and the scan helper has another name, and its scan helper is one if it has
no value and not the name of anything that is written later; no other attribute is ever empty. So
nothing is empty exactly if the status and the value of the scan helper are given, or are written
over. -/
theorem blank_texts_of_new_record (valid : r.isValid = true)
    (built : createFor settings r data now = .ok record) :
    (∀ n, record.item.get? n = some (.text "") ↔ LeavesBlank settings r n) ∧
    ((∀ n, record.item.get? n ≠ some (.text "")) ↔
      (r.remediationStatus = "" → settings.scanHelperAttribute = Attribute.remediationStatus) ∧
        (settings.scanHelperValue = "" → settings.scanHelperAttribute ∈ lateNames r)) := by
  have blank := get?_eq_blank_iff valid built
  refine ⟨blank, ?_⟩
  rw [← leavesNoBlank_iff]
  exact forall_congr' fun n => not_congr (blank n)

/-- With a status and a scan helper that are given nothing is empty. -/
theorem no_blank_text_of_pair :
    ∃ record, createFor pairLedger.settings (pairRequest false) none newYear = .ok record ∧
      ∀ n, record.item.get? n ≠ some (.text "") := by
  obtain ⟨record, built⟩ := built_newYear pairLedger.settings rfl (pairRequest false) none
  obtain ⟨-, nothing⟩ := blank_texts_of_new_record (isValid_pairRequest false) built
  exact ⟨record, built, nothing.mpr ⟨by decide, by decide⟩⟩

def blankStatusRequest : Request := { pairRequest false with remediationStatus := "" }

/-- Settings and request pass their checks, and the status of the record is an empty text. -/
theorem blank_status_is_written :
    pairLedger.settings.validate = .ok () ∧ blankStatusRequest.isValid = true ∧
    ∃ record, createFor pairLedger.settings blankStatusRequest none newYear = .ok record ∧
      record.item.get? Attribute.remediationStatus = some (.text "") := by
  have valid : blankStatusRequest.isValid = true := by decide
  obtain ⟨record, built⟩ := built_newYear pairLedger.settings rfl blankStatusRequest none
  have blank := (get?_eq_blank_iff valid built _).mpr (.status rfl (by decide))
  exact ⟨pairLedger.usable, valid, record, built, blank⟩

end History

end RemediationLedger

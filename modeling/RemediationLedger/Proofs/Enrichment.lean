/-
What a finding passes on to its history records.

A finding is read for what it tells about itself, and a new record takes that
over in its two weakest layers. Under each name this comes to one text or to
nothing (`passedOn`): the text that the finding has there, if it is not empty
and the name is that of metadata or of an extra attribute. No other layer knows
of the finding. So a record with enrichment is the record without it, filled up
with what the finding passes on (`get?_enriched`).

What is not passed on cannot be told from any record, and no name of the
protocol is (`protocol_data_stays_with_the_finding`). The metadata are read
under their names whatever the settings say, so the scan helper of the findings
table keeps its value to itself only if it has none of these names.

## How the proof goes

A map that is made of another one is looked up in that one
(`get?_ofList_filterMap`); with this the extra attributes of a finding are its
texts under the names of extras (`get?_extra`), and the two layers of the
finding are one (`findingLayers_extract`). Findings that agree on their data
(`AgreeOnData`) pass on the same text under each name, so the layers are the
same, and a record that is put together from the layers cannot tell the findings
apart (`createFor_congr`).

* `get?_enriched` compares a record with the one that would have been made
  without its finding, name by name. It is what `Proofs.UnreadFinding` needs
  about a reading that fails.
* `protocol_data_stays_with_the_finding` compares two findings, and adds that a
  record has an error only if its request has one.
-/
import Mathlib.Data.List.Basic
import RemediationLedger.Proofs.Layers

namespace RemediationLedger

/-! ## A map made of another one -/

namespace KeyMap

variable {κ ν ν' : Type} [Ord κ] [Std.TransOrd κ] [Std.LawfulEqOrd κ] [DecidableEq κ]

theorem get?_insertAll_filterMap (f : κ → ν → Option ν') {l : List (κ × ν)}
    (increasing : Increasing l) (m : KeyMap κ ν') (k : κ) :
    (m.insertAll (l.filterMap fun e => (f e.1 e.2).map fun v => (e.1, v))).get? k =
      ((findEntry k l).bind (f k)).or (m.get? k) := by
  induction l generalizing m with
  | nil => rfl
  | cons e l ih =>
    obtain ⟨k', v⟩ := e
    have step := ih increasing.of_cons
    rw [findEntry]
    by_cases own : k = k'
    · subst own
      have later : findEntry k l = none :=
        findEntry_eq_none_of_lt fun e he => List.rel_of_pairwise_cons increasing he
      cases value : f k v with
      | none => simp [value, step, later]
      | some v' => simp [value, insertAll_cons, step, later, get?_insert]
    · have other : compare k k' ≠ .eq := fun same => own (Std.LawfulEqCmp.eq_of_compare same)
      cases value : f k' v with
      | none => simp [value, step, other]
      | some v' =>
        simp [value, insertAll_cons, step, other, get?_insert, own]

/-- A map made of the entries of another one, each of them changed or left out: what is found in it
is what became of the entry that was found before. -/
theorem get?_ofList_filterMap (m : KeyMap κ ν) (f : κ → ν → Option ν') (k : κ) :
    (ofList (m.entries.filterMap fun e => (f e.1 e.2).map fun v => (e.1, v))).get? k =
      (m.get? k).bind (f k) := by
  rw [ofList, get?_insertAll_filterMap f m.increasing, get?_empty, Option.or_none]
  rfl

end KeyMap

/-! ## What is passed on -/

namespace Finding

variable {settings : Settings} {finding : Item} {n : String}

/-- What a finding passes on to its history records under a name. -/
def passedOn (settings : Settings) (finding : Item) (n : String) : Option Value :=
  if n ∈ Attribute.metadata ∨ isExtra settings n = true then (text? finding n).map .text else none

theorem isExtra_iff :
    isExtra settings n = true ↔
      n ∉ Attribute.metadata ∧ n ∉ Attribute.ofProtocol ∧
        n ≠ settings.findingScanHelperAttribute ∧ '#' ∉ n.toList := by
  simp [isExtra, and_assoc]

/-- The extra attributes of a finding are its texts under the names of extra attributes. -/
theorem get?_extra (settings : Settings) (finding : Item) (n : String) :
    (extract settings finding).extra.get? n =
      if isExtra settings n = true then (finding.get? n).bind Value.asText? else none := by
  have made : extraEntries settings finding =
      finding.entries.filterMap fun e =>
        (if isExtra settings e.1 = true then e.2.asText? else none).map fun v => (e.1, v) := by
    unfold extraEntries
    congr 1
    funext ⟨name, value⟩
    by_cases extra : isExtra settings name = true
    · simp [extra]
    · simp [extra]
  change (KeyMap.ofList (extraEntries settings finding)).get? n = _
  rw [made, KeyMap.get?_ofList_filterMap finding
    fun name value => if isExtra settings name = true then value.asText? else none]
  split
  · rfl
  · cases finding.get? n with
    | none => rfl
    | some value => rfl

/-- Nothing that the protocol owns is passed on. -/
theorem passedOn_ofProtocol (settings : Settings) (finding : Item)
    (owned : n ∈ Attribute.ofProtocol) : passedOn settings finding n = none := by
  have noMetadata : ∀ n ∈ Attribute.ofProtocol, n ∉ Attribute.metadata := by decide
  refine if_neg ?_
  rintro (listed | extra)
  · exact noMetadata n owned listed
  · exact (isExtra_iff.mp extra).2.1 owned

/-- Two findings agree wherever neither the protocol nor an index keeps something. Numbers and empty
texts count as absent. -/
def AgreeOnData (settings : Settings) (finding finding' : Item) : Prop :=
  ∀ n, n ∉ Attribute.ofProtocol → n ≠ settings.findingScanHelperAttribute → '#' ∉ n.toList →
    text? finding n = text? finding' n

/-- Findings that agree there pass on the same. -/
theorem AgreeOnData.passedOn {finding' : Item} (agree : AgreeOnData settings finding finding')
    (helper : settings.findingScanHelperAttribute ∉ Attribute.metadata) (n : String) :
    passedOn settings finding n = passedOn settings finding' n := by
  have apart : ∀ n ∈ Attribute.metadata, n ∉ Attribute.ofProtocol ∧ '#' ∉ n.toList := by decide
  unfold Finding.passedOn
  split
  · rename_i passed
    have same : text? finding n = text? finding' n := by
      rcases passed with listed | extra
      · obtain ⟨notOwned, noIndex⟩ := apart n listed
        exact agree n notOwned (fun own => helper (own ▸ listed)) noIndex
      · obtain ⟨-, notOwned, noHelper, noIndex⟩ := isExtra_iff.mp extra
        exact agree n notOwned noHelper noIndex
    rw [same]
  · rfl

end Finding

namespace History

open Coordinator (pairLedger pairRequest newYear built_newYear)

variable {settings : Settings} {r : Request} {data : Option FindingData} {finding : Item}
  {now : DateTime} {n : String} {stamp : String} {expireAt : Int}

/-- The two weakest layers of a record are what its finding passes on. -/
theorem findingLayers_extract (settings : Settings) (finding : Item) (n : String) :
    (nonempty ((Finding.extract settings finding).told.lookup n).join).or
        (nonempty ((Finding.extract settings finding).extra.get? n)) =
      Finding.passedOn settings finding n := by
  have told : (Finding.extract settings finding).told =
      Attribute.metadata.map fun name => (name, Finding.text? finding name) := rfl
  have twice : nonempty (Finding.text? finding n) = (Finding.text? finding n).map .text := by
    simp [nonempty, Finding.text?, Option.filter_filter]
  rw [told, Finding.get?_extra, Finding.passedOn]
  by_cases listed : n ∈ Attribute.metadata
  · have noExtra : ¬Finding.isExtra settings n = true := fun extra =>
      (Finding.isExtra_iff.mp extra).1 listed
    rw [List.lookup_graph _ listed, Option.join_some, twice, if_neg noExtra, nonempty_none,
      Option.or_none, if_pos (.inl listed)]
  · have unlisted : (Attribute.metadata.map fun name =>
        (name, Finding.text? finding name)).lookup n = none := by
      rw [List.lookup_eq_none_iff]
      intro e he
      obtain ⟨name, listed', rfl⟩ := List.mem_map.mp he
      have other : n ≠ name := fun same => listed (same ▸ listed')
      simpa using other
    rw [unlisted, Option.join_none, nonempty_none, Option.none_or]
    by_cases extra : Finding.isExtra settings n = true
    · rw [if_pos extra, if_pos (.inr extra)]
      rfl
    · rw [if_neg extra, if_neg (by simp [listed, extra]), nonempty_none]

theorem strongest_layers_extract (settings : Settings) (r : Request) (finding : Item)
    (stamp : String) (expireAt : Int) (n : String) :
    strongest (layers settings r (some (Finding.extract settings finding)) stamp expireAt) n =
      (strongest (layers settings r none stamp expireAt) n).or
        (Finding.passedOn settings finding n) := by
  rw [← findingLayers_extract]
  simp only [layers, strongest_cons, Option.bind_none, Option.bind_some, nonempty_none]
  simp [strongest, Option.or_assoc]

/-- Whether a record can be put together does not depend on its finding. -/
theorem createFor_error_congr {f : Failure} (data' : Option FindingData)
    (failed : createFor settings r data now = .error f) :
    createFor settings r data' now = .error f := by
  unfold createFor at failed ⊢
  split at failed
  · exact failed
  · split at failed
    · exact failed
    · cases failed

theorem createFor_ok_congr {record : Put} (data' : Option FindingData)
    (built : createFor settings r data now = .ok record) :
    ∃ record', createFor settings r data' now = .ok record' := by
  cases built' : createFor settings r data' now with
  | ok record' => exact ⟨record', rfl⟩
  | error f =>
    rw [createFor_error_congr data built'] at built
    cases built

/-- Data that come to the same in all layers lead to the same record. -/
theorem createFor_congr {data' : Option FindingData}
    (same : ∀ stamp expireAt n, strongest (layers settings r data stamp expireAt) n =
      strongest (layers settings r data' stamp expireAt) n) :
    createFor settings r data now = createFor settings r data' now := by
  have item : ∀ stamp expireAt, (key r).stamp (attributes settings r data stamp expireAt) =
      (key r).stamp (attributes settings r data' stamp expireAt) := fun stamp expireAt =>
    KeyMap.ext_get? fun n => by rw [get?_stamp_attributes, get?_stamp_attributes, same]
  unfold createFor Put.of
  split
  · rfl
  · split
    · rfl
    · rw [item]

/-- **Enrichment fills up a record.** Under each name a record holds what it would hold without its
finding, and else what the finding passes on. -/
theorem get?_enriched {full bare : Put}
    (enriched : createFor settings r (some (Finding.extract settings finding)) now = .ok full)
    (plain : createFor settings r none now = .ok bare) (n : String) :
    full.item.get? n = (bare.item.get? n).or (Finding.passedOn settings finding n) := by
  obtain ⟨stamp, expireAt, stamped, computed, -⟩ := createFor_computed plain
  rw [get?_of_createFor stamped computed enriched, get?_of_createFor stamped computed plain,
    strongest_layers_extract]

/-- A record without enrichment has the error of its request as well. -/
theorem plain_error {bare : Put} (other : settings.scanHelperAttribute ≠ Attribute.error)
    (plain : createFor settings r none now = .ok bare) :
    bare.item.get? Attribute.error = r.newError?.map Value.text := by
  obtain ⟨full, enriched⟩ := createFor_ok_congr (some (Finding.extract settings .empty)) plain
  have owned : Attribute.error ∈ Attribute.ofProtocol := by decide
  have error := Coordinator.record_error other enriched
  rwa [get?_enriched enriched plain, Finding.passedOn_ofProtocol settings .empty owned,
    Option.or_none] at error

/-- **What the protocol keeps in a finding stays there.** Two findings that agree on everything else,
numbers and empty texts aside, lead to the same record, or to the same failure, under any settings
whose scan helper for findings has no name of the metadata. And whatever a finding holds, a new
record has an error exactly if its request reports one, unless its own scan helper is called so. -/
theorem protocol_data_stays_with_the_finding (settings : Settings) (r : Request) (now : DateTime)
    (helper : settings.findingScanHelperAttribute ∉ Attribute.metadata) :
    (∀ finding finding' : Item, Finding.AgreeOnData settings finding finding' →
      createFor settings r (some (Finding.extract settings finding)) now =
        createFor settings r (some (Finding.extract settings finding')) now) ∧
    (settings.scanHelperAttribute ≠ Attribute.error →
      ∀ (finding : Option Item) (record : Put),
        createFor settings r (finding.map (Finding.extract settings)) now = .ok record →
        record.item.get? Attribute.error = r.newError?.map Value.text) := by
  constructor
  · intro finding finding' agree
    refine createFor_congr fun stamp expireAt n => ?_
    rw [strongest_layers_extract, strongest_layers_extract, agree.passedOn helper]
  · intro other finding record built
    cases finding with
    | none => exact plain_error other built
    | some finding => exact Coordinator.record_error other built

def failedFinding : Item :=
  .ofList [("remediationStatus", .text "FAILED"), ("error", .text "timed out"),
    ("executionId", .text "e0"), ("FINDING_CONSTANT", .text "finding"),
    ("updatedAt#findingId", .text "2023-12-31#f1"), ("severity", .text ""), ("region", .text "r1")]

def openFinding : Item := .ofList [("severity", .number "7"), ("region", .text "r1")]

theorem agreeOnData_openFinding :
    Finding.AgreeOnData pairLedger.settings failedFinding openFinding := by
  intro n notOwned noHelper noIndex
  have noHelper' : n ≠ "FINDING_CONSTANT" := noHelper
  have noIndex' : n ≠ "updatedAt#findingId" := by
    rintro rfl
    exact noIndex (by decide)
  have notOwned' : n ≠ "remediationStatus" ∧ n ≠ "error" ∧ n ≠ "executionId" := by
    refine ⟨?_, ?_, ?_⟩ <;> rintro rfl <;> exact notOwned (by decide)
  obtain ⟨noStatus, noError, noExecution⟩ := notOwned'
  by_cases region : n = "region"
  · subst region
    decide +kernel
  · by_cases severity : n = "severity"
    · subst severity
      decide +kernel
    · simp [Finding.text?, failedFinding, openFinding, KeyMap.ofList, KeyMap.insertAll_cons,
        KeyMap.get?_insert, *]

/-- The failed remediation leaves no trace in the record of the next one. -/
theorem protocol_data_stays_with_failedFinding :
    ∃ record,
      createFor pairLedger.settings (pairRequest false)
        (some (Finding.extract pairLedger.settings failedFinding)) newYear = .ok record ∧
      createFor pairLedger.settings (pairRequest false)
        (some (Finding.extract pairLedger.settings openFinding)) newYear = .ok record ∧
      record.item.get? Attribute.error = none := by
  obtain ⟨same, error⟩ := protocol_data_stays_with_the_finding pairLedger.settings
    (pairRequest false) newYear (by decide)
  obtain ⟨record, built⟩ := built_newYear pairLedger.settings rfl (pairRequest false)
    (some (Finding.extract pairLedger.settings failedFinding))
  refine ⟨record, built, ?_, error (by decide) (some failedFinding) record built⟩
  rw [← same failedFinding openFinding agreeOnData_openFinding]
  exact built

end History

end RemediationLedger

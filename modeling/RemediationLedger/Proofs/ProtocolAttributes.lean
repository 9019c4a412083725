/-
The attributes that the protocol gives to a new record.

A new record is written layer upon layer, and the scan helper, whose name is a
matter of the settings, stands in the middle of the layer of the protocol. So
there are attributes of the protocol that are written before it and give way to
it (`beforeHelper`), and others that are written after it and make it give way
(`afterHelper`). Nothing else is written that late (`stamp_attributes_eq`), so
whatever the finding and the request tell, and whichever names they use, is
overwritten where it has a name of the protocol.

The check of the settings asks no more of the scan helper than a name that is
not empty, and the name may be one of the protocol's. All attributes are there
together exactly if it is not, or the two values happen to be one
(`new_record_carries_the_protocol`).

* A row in three parts (`inParts`) is the shape of the argument and has nothing
  to do with records: the last part is there whole (`carries_inParts_after`), an
  attribute of the first is there unless the middle has its name
  (`get?_inParts_before`), and all is there exactly if nothing collides
  (`carries_inParts_iff`).
* `stamp_attributes_eq` brings a record into that shape. The ids belong to the
  first part because a request that is valid has no empty one among them
  (`textEntries_ids`).
* `new_record_carries_the_protocol` gives the values part by part, with the time
  and the expiry that were computed, and the exact condition under which all of
  them are there.

With a scan helper that is called like the status, settings pass their check and
every new record shows the helper's value in place of the status that was asked
for (`scan_helper_displaces_status`).
-/
import RemediationLedger.Proofs.RowFolds

namespace RemediationLedger

namespace KeyMap

variable {κ ν : Type} [Ord κ] [Std.TransOrd κ] [Std.LawfulEqOrd κ] [DecidableEq κ]

/-- Entries under different keys are all found once they are put. -/
theorem get?_insertAll_of_mem {l : List (κ × ν)} (apart : (l.map Prod.fst).Nodup) {e : κ × ν}
    (he : e ∈ l) (m : KeyMap κ ν) : (m.insertAll l).get? e.1 = some e.2 := by
  induction l generalizing m with
  | nil => cases he
  | cons first l ih =>
    obtain ⟨once, apart⟩ := List.nodup_cons.mp apart
    rw [insertAll_cons]
    rcases List.mem_cons.mp he with rfl | he
    · have later : ∀ e' ∈ l, e'.1 ≠ e.1 := fun e' he' same =>
        once (same ▸ List.mem_map_of_mem he')
      rw [get?_insertAll_of_notMem later, get?_insert, if_pos rfl]
    · exact ih apart he _

end KeyMap

/-- A row has all of these attributes, with these values. -/
def Carries (row : Item) (attributes : List (String × Value)) : Prop :=
  ∀ a ∈ attributes, row.get? a.1 = some a.2

theorem carries_append {row : Item} {l l' : List (String × Value)} :
    Carries row (l ++ l') ↔ Carries row l ∧ Carries row l' :=
  List.forall_mem_append

theorem carries_cons {row : Item} {a : String × Value} {l : List (String × Value)} :
    Carries row (a :: l) ↔ row.get? a.1 = some a.2 ∧ Carries row l :=
  List.forall_mem_cons

/-! ## A row in three parts -/

section Parts

variable {base : Item} {before after : List (String × Value)} {a : String × Value}

/-- A row that was written in three parts, the one in the middle a single attribute. -/
def inParts (base : Item) (before : List (String × Value)) (a : String × Value)
    (after : List (String × Value)) : Item :=
  ((base.insertAll before).insert a.1 a.2).insertAll after

theorem carries_inParts_after (apart : ((before ++ after).map Prod.fst).Nodup) :
    Carries (inParts base before a after) after := by
  rw [List.map_append, List.nodup_append] at apart
  exact fun b hb => KeyMap.get?_insertAll_of_mem apart.2.1 hb _

/-- The part before gives way to the attribute in the middle. -/
theorem get?_inParts_before (apart : ((before ++ after).map Prod.fst).Nodup) {b : String × Value}
    (hb : b ∈ before) :
    (inParts base before a after).get? b.1 = some (if b.1 = a.1 then a.2 else b.2) := by
  rw [List.map_append, List.nodup_append] at apart
  obtain ⟨apartBefore, -, disjoint⟩ := apart
  have later : ∀ b' ∈ after, b'.1 ≠ b.1 := fun b' hb' =>
    (disjoint _ (List.mem_map_of_mem hb) _ (List.mem_map_of_mem hb')).symm
  rw [inParts, KeyMap.get?_insertAll_of_notMem later, KeyMap.get?_insert]
  split
  · rfl
  · exact KeyMap.get?_insertAll_of_mem apartBefore hb base

theorem get?_inParts_middle (other : ∀ b ∈ after, b.1 ≠ a.1) :
    (inParts base before a after).get? a.1 = some a.2 := by
  rw [inParts, KeyMap.get?_insertAll_of_notMem other, KeyMap.get?_insert, if_pos rfl]

/-- All three parts are there exactly if the attribute in the middle does not collide. -/
theorem carries_inParts_iff (apart : ((before ++ after).map Prod.fst).Nodup) :
    Carries (inParts base before a after) (a :: (before ++ after)) ↔
      ∀ b ∈ before ++ after, b.1 = a.1 → b.2 = a.2 := by
  constructor
  · intro all b hb same
    obtain ⟨middle, rest⟩ := carries_cons.mp all
    have here := rest b hb
    rw [same, middle] at here
    exact (Option.some.inj here).symm
  · intro agree
    have ofAfter : Carries (inParts base before a after) after := carries_inParts_after apart
    refine carries_cons.mpr ⟨?_, carries_append.mpr ⟨fun b hb => ?_, ofAfter⟩⟩
    · -- the attribute in the middle is there itself, or an equal one that was written after it
      by_cases collides : ∃ b ∈ after, b.1 = a.1
      · obtain ⟨b, hb, same⟩ := collides
        rw [← same, ofAfter b hb, agree b (List.mem_append_right _ hb) same]
      · exact get?_inParts_middle fun b hb same => collides ⟨b, hb, same⟩
    · rw [get?_inParts_before apart hb]
      split
      · rename_i same
        rw [agree b (List.mem_append_left _ hb) same]
      · rfl

end Parts

/-! ## The parts of a new record -/

namespace History

/-- The attributes of the protocol that a new record gets before the scan helper. -/
def beforeHelper (r : Request) (stamp : String) : List (String × Value) :=
  [(Attribute.findingId, .text r.findingId), (Attribute.executionId, .text r.executionId),
    (Attribute.remediationStatus, .text r.remediationStatus),
    (Attribute.lastUpdatedTimeFindingId, .text (stamp ++ "#" ++ r.findingId)),
    (Attribute.lastUpdatedTime, .text stamp)]

def scanHelper (settings : Settings) : String × Value :=
  (settings.scanHelperAttribute, .text settings.scanHelperValue)

/-- The attributes of the protocol that a new record gets after the scan helper: its expiry, the
error if the request reports one, and the key. -/
def afterHelper (r : Request) (expireAt : Int) : List (String × Value) :=
  (Attribute.expireAt, .ofInt expireAt) ::
    ((r.newError?.map fun e => (Attribute.error, .text e)).toList ++
      [(Attribute.findingType, .text r.findingType),
        (Attribute.findingIdExecutionId, .text r.historySortKey)])

theorem nodup_names (r : Request) (stamp : String) (expireAt : Int) :
    ((beforeHelper r stamp ++ afterHelper r expireAt).map Prod.fst).Nodup := by
  unfold beforeHelper afterHelper
  cases r.newError? with
  | none =>
    have names : [Attribute.findingId, Attribute.executionId, Attribute.remediationStatus,
        Attribute.lastUpdatedTimeFindingId, Attribute.lastUpdatedTime, Attribute.expireAt,
        Attribute.findingType, Attribute.findingIdExecutionId].Nodup := by decide
    exact names
  | some e =>
    have names : [Attribute.findingId, Attribute.executionId, Attribute.remediationStatus,
        Attribute.lastUpdatedTimeFindingId, Attribute.lastUpdatedTime, Attribute.expireAt,
        Attribute.error, Attribute.findingType, Attribute.findingIdExecutionId].Nodup := by decide
    exact names

/-- A record that is put together is stamped with the time and the expiry of its moment. -/
theorem createFor_computed {settings : Settings} {r : Request} {data : Option FindingData}
    {now : DateTime} {record : Put} (built : createFor settings r data now = .ok record) :
    ∃ stamp expireAt, now.timestamp? = some stamp ∧
      Retention.expireAt now settings.historyTtlDays = .ok expireAt ∧
      record.item = (key r).stamp (attributes settings r data stamp expireAt) := by
  unfold createFor at built
  split at built
  · cases built
  · rename_i expireAt computed
    split at built
    · cases built
    · rename_i stamp stamped
      cases built
      exact ⟨stamp, expireAt, stamped, computed, rfl⟩

theorem textEntries_append (l l' : List (String × String)) :
    textEntries (l ++ l') = textEntries l ++ textEntries l' :=
  List.filterMap_append

/-- The ids of a valid request are not empty, so they are always written. -/
theorem textEntries_ids {r : Request} (valid : r.isValid = true) :
    textEntries [(Attribute.findingId, r.findingId), (Attribute.executionId, r.executionId)] =
      [(Attribute.findingId, .text r.findingId), (Attribute.executionId, .text r.executionId)] := by
  have given : r.findingId ≠ "" ∧ r.executionId ≠ "" := by
    simp only [Request.isValid, Bool.not_eq_true', Bool.or_eq_false_iff,
      String.isEmpty_eq_false_iff] at valid
    exact valid.1
  simp [textEntries, given]

/-- Nothing but the three parts is written that late. -/
theorem stamp_attributes_eq {settings : Settings} {r : Request} (valid : r.isValid = true)
    (data : Option FindingData) (stamp : String) (expireAt : Int) :
    ∃ base, (key r).stamp (attributes settings r data stamp expireAt) =
      inParts base (beforeHelper r stamp) (scanHelper settings) (afterHelper r expireAt) := by
  have request : requestLayer settings r =
      textEntries (requestMetadata r ++ [(Attribute.lastUpdatedBy, actor settings r)]) ++
        [(Attribute.findingId, .text r.findingId),
          (Attribute.executionId, .text r.executionId)] := by
    rw [← textEntries_ids valid, ← textEntries_append, List.append_assoc]
    rfl
  refine ⟨.ofList (findingLayer data ++
    textEntries (requestMetadata r ++ [(Attribute.lastUpdatedBy, actor settings r)])), ?_⟩
  rw [Key.stamp, attributes, request, Coordinator.protocolLayer_eq_append]
  simp only [KeyMap.ofList, KeyMap.insertAll_append, inParts, beforeHelper, afterHelper,
    KeyMap.insertAll_cons]
  rfl

end History

namespace Coordinator

variable {c : Coordinator} {now : DateTime} {r : Request} {data : Option FindingData}
  {record : Put}

/-- **What a new record has of the protocol.** The settings have passed their check, the request is
valid, and the record could be put together from whatever its finding told. The expiry, the key
and an error that is reported are there. The status, the ids and the times are there unless the
scan helper has their name, and then its value stands in their place. The scan helper is there
unless it has the name of an attribute written after it. So all of them are there together exactly
if none has the name of the scan helper and another value. -/
theorem new_record_carries_the_protocol (c : Coordinator) (valid : r.isValid = true)
    (built : History.createFor c.settings r data now = .ok record) :
    ∃ stamp expireAt, now.timestamp? = some stamp ∧
      Retention.expireAt now c.settings.historyTtlDays = .ok expireAt ∧
      let before := History.beforeHelper r stamp
      let helper := History.scanHelper c.settings
      let after := History.afterHelper r expireAt
      Carries record.item after ∧
      (∀ b ∈ before, record.item.get? b.1 = some (if b.1 = helper.1 then helper.2 else b.2)) ∧
      ((∀ b ∈ after, b.1 ≠ helper.1) → record.item.get? helper.1 = some helper.2) ∧
      (Carries record.item (helper :: (before ++ after)) ↔
        ∀ b ∈ before ++ after, b.1 = helper.1 → b.2 = helper.2) := by
  obtain ⟨stamp, expireAt, stamped, computed, item⟩ := History.createFor_computed built
  obtain ⟨base, parts⟩ := History.stamp_attributes_eq valid data stamp expireAt
  have apart := History.nodup_names r stamp expireAt
  refine ⟨stamp, expireAt, stamped, computed, ?_⟩
  rw [item, parts]
  exact ⟨carries_inParts_after apart, fun _ => get?_inParts_before apart, get?_inParts_middle,
    carries_inParts_iff apart⟩

/-- The scan helper of the default settings has a name of its own. -/
theorem new_record_carries_the_protocol_of_pair :
    ∃ record, History.createFor pairLedger.settings (pairRequest false) none newYear = .ok record ∧
      Carries record.item
        [("REMEDIATION_CONSTANT", .text "remediation"), ("findingId", .text "f1"),
          ("executionId", .text "e1"), ("remediationStatus", .text "QUEUED"),
          ("lastUpdatedTime#findingId", .text "2024-01-01T00:00:00.000000Z#f1"),
          ("lastUpdatedTime", .text "2024-01-01T00:00:00.000000Z"),
          ("expireAt", .number "1735689600"), ("findingType", .text "EC2.1"),
          ("findingId#executionId", .text "f1#e1")] := by
  have stamped : newYear.timestamp? = some "2024-01-01T00:00:00.000000Z" := by decide +kernel
  have computed : Retention.expireAt newYear pairLedger.settings.historyTtlDays =
      .ok 1735689600 := rfl
  obtain ⟨record, built⟩ := createFor_of_ok computed stamped (pairRequest false) none
  obtain ⟨stamp, expireAt, stamped', computed', -, -, -, all⟩ :=
    new_record_carries_the_protocol pairLedger (isValid_pairRequest false) built
  obtain rfl := Option.some.inj (stamped.symm.trans stamped')
  obtain rfl := Except.ok.inj (computed.symm.trans computed')
  exact ⟨record, built, all.mpr (by decide +kernel)⟩

def statusHelperLedger : Coordinator :=
  ⟨{ findingsTable := "findings", historyTable := "history",
     scanHelperAttribute := "remediationStatus" }, rfl⟩

/-- The settings pass their check, and the status of the request is in no new record. -/
theorem scan_helper_displaces_status :
    ∃ record, History.createFor statusHelperLedger.settings (pairRequest false) none newYear =
        .ok record ∧
      (pairRequest false).isValid = true ∧ (pairRequest false).remediationStatus = "QUEUED" ∧
      record.item.get? "remediationStatus" = some (.text "remediation") := by
  have stamped : newYear.timestamp? = some "2024-01-01T00:00:00.000000Z" := by decide +kernel
  have computed : Retention.expireAt newYear statusHelperLedger.settings.historyTtlDays =
      .ok 1735689600 := rfl
  obtain ⟨record, built⟩ := createFor_of_ok computed stamped (pairRequest false) none
  refine ⟨record, built, rfl, rfl, ?_⟩
  obtain ⟨stamp, expireAt, -, -, item⟩ := History.createFor_computed built
  obtain ⟨base, parts⟩ := History.stamp_attributes_eq (isValid_pairRequest false) none stamp expireAt
  rw [item, parts]
  exact get?_inParts_before (History.nodup_names _ stamp expireAt)
    (b := (Attribute.remediationStatus, .text "QUEUED")) (by simp [History.beforeHelper, pairRequest])

end Coordinator

end RemediationLedger

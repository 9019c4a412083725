/-
What an update leaves in its two rows.

The rows after a step follow from its call alone. Every committed call of an
update makes the same assignments to its finding (`Served.findingRow_after`):
the status, the execution and, if the request has one, the error; an earlier
error stays otherwise. The history table changes only where the request's record
is, and only by a transaction (`Served.historyRow_after`). The record has the
request's status afterwards, whether it was updated or created, except that a
creation lets the scan helper win, so the scan helper must not go by the
status's name.

* `Registered.findingRow_both` and `Registered.historyRow_both` are about two
  writes in one transaction, a conditional update of the finding and any write
  of the record, and give the row at every slot of the table. The three calls of
  an update are instances.
* `Served.findingRow_after` and `Served.historyRow_after` say the same of a step
  of the automaton, whichever it is. In this form the rows are used by
  everything that follows: the next module never asks which stage it was.
* `findingResult_status`, `findingResult_execution` and `findingResult_error`
  read single attributes off the finding, `historyResult_status` and
  `record_status` the status off the record.

That rows stay is said separately (`Served.record_stays`,
`Served.finding_stays`). It is weaker, but it needs no request to be valid and
no name to differ, and races need no more.
-/
import RemediationLedger.Proofs.Registered

namespace RemediationLedger

/-- The error that a request reports; an empty text reports none. -/
def Request.newError? (r : Request) : Option String := r.error.filter fun e => !e.isEmpty

/-- A valid request names its execution. -/
theorem Request.executionId_of_isValid {r : Request} (valid : r.isValid = true) :
    r.executionId.isEmpty = false := by
  unfold isValid at valid
  cases h : r.executionId.isEmpty with
  | false => rfl
  | true => simp [h] at valid

namespace Coordinator

variable {c : Coordinator} {now : DateTime} {r : Request} {t : Tables}

/-! ## Rows after a step -/

/-- A conditional update of the finding together with a write of its history record: what is left
in the findings table. -/
theorem Registered.findingRow_both (reg : c.Registered t) (r : Request) {w : Write}
    (htable : w.table = c.settings.historyTable) (slot : Slot) :
    ([.update (c.findingUpdate r (some .keyExists)), w].foldl Tables.write t).row?
        c.settings.findingsTable slot =
      if slot = r.findingSlot then
        some ((Write.update (c.findingUpdate r none)).result (c.findingRow? t r))
      else t.row? c.settings.findingsTable slot := by
  simp only [List.foldl_cons, List.foldl_nil]
  rw [Tables.row?_write_of_ne _ _ (by simp [htable, Ne.symm reg.tables_ne]),
    Tables.row?_write (by simpa [Write.table] using reg.findings_known)]
  simp only [Write.table, Write.key, findingUpdate_table, findingUpdate_key, findingKey_slot,
    true_and]
  rfl

/-- And what is left in the history table. -/
theorem Registered.historyRow_both (reg : c.Registered t) (r : Request) {w : Write}
    (htable : w.table = c.settings.historyTable) (hkey : w.key = History.key r) (slot : Slot) :
    ([.update (c.findingUpdate r (some .keyExists)), w].foldl Tables.write t).row?
        c.settings.historyTable slot =
      if slot = r.historySlot then some (w.result (c.historyRow? t r))
      else t.row? c.settings.historyTable slot := by
  have other : ∀ at', (t.write (.update (c.findingUpdate r (some .keyExists)))).row?
      c.settings.historyTable at' = t.row? c.settings.historyTable at' := fun at' =>
    Tables.row?_write_of_ne _ _ (by simp [Write.table, reg.tables_ne])
  simp only [List.foldl_cons, List.foldl_nil]
  rw [Tables.row?_write (by simpa [htable] using reg.history_known)]
  simp only [htable, hkey, historyKey_slot, true_and, other]
  rfl

theorem Registered.historyRow_pairUpdate (reg : c.Registered t) (r : Request) (slot : Slot) :
    ((c.pairUpdate r).foldl Tables.write t).row? c.settings.historyTable slot =
      if slot = r.historySlot then
        some ((Write.update (History.updateFor c.settings r)).result (c.historyRow? t r))
      else t.row? c.settings.historyTable slot :=
  reg.historyRow_both r (w := .update (History.updateFor c.settings r)) (historyUpdate_table ..)
    (historyUpdate_key ..) slot

theorem Registered.historyRow_creation (reg : c.Registered t) {data : Option FindingData}
    {record : Put} (built : History.createFor c.settings r data now = .ok record) (slot : Slot) :
    ((c.creation r record).foldl Tables.write t).row? c.settings.historyTable slot =
      if slot = r.historySlot then some record.item
      else t.row? c.settings.historyTable slot :=
  reg.historyRow_both r (w := .put record) (createFor_eq_ok built).1 (createFor_eq_ok built).2.1
    slot

/-- The update of the finding alone leaves the history table as it is. -/
theorem Registered.historyRow_findingUpdate (reg : c.Registered t) (r : Request) (slot : Slot) :
    (t.write (.update (c.findingUpdate r none))).row? c.settings.historyTable slot =
      t.row? c.settings.historyTable slot :=
  Tables.row?_write_of_ne _ _ (by simp [Write.table, reg.tables_ne])

/-- The rows that a transaction of an update can leave in the place of its record. -/
inductive Recorded (c : Coordinator) (now : DateTime) (r : Request) (t : Tables) : Item → Prop
  | updated :
      Recorded c now r t
        ((Write.update (History.updateFor c.settings r)).result (c.historyRow? t r))
  | created {data : Option FindingData} {record : Put}
      (built : History.createFor c.settings r data now = .ok record) :
      Recorded c now r t record.item

/-- A committed transaction leaves a row in the place of the request's record. Nothing else that an
update does changes the history table. -/
theorem Served.historyRow_after {stage next : Stage} {call : Call} {reply : call.Reply}
    (h : Served c now r t stage call reply next) (reg : c.Registered t) :
    (call.committed reply = true ∧ ∃ row, Recorded c now r t row ∧
      ∀ slot, ((call.carriedOut reply).foldl Tables.write t).row? c.settings.historyTable slot =
        if slot = r.historySlot then some row else t.row? c.settings.historyTable slot) ∨
    ((call.committed reply = true → ∃ u, call = .update u) ∧
      ∀ slot, ((call.carriedOut reply).foldl Tables.write t).row? c.settings.historyTable slot =
        t.row? c.settings.historyTable slot) := by
  cases h with
  | paired => exact .inl ⟨rfl, _, .updated, reg.historyRow_pairUpdate r⟩
  | created built => exact .inl ⟨rfl, _, .created built, reg.historyRow_creation built⟩
  | fellBack => exact .inr ⟨fun _ => ⟨_, rfl⟩, reg.historyRow_findingUpdate r⟩
  | findingMissing | historyMissing | built | notBuilt | outrun =>
    refine .inr ⟨fun h => ?_, fun slot => ?_⟩
    · simp [Call.committed] at h
    · simp [Call.carriedOut, Call.committed]

/-- No call of an update takes a record away. -/
theorem Served.record_stays {stage next : Stage} {call : Call} {reply : call.Reply}
    (h : Served c now r t stage call reply next) (reg : c.Registered t) {slot : Slot}
    (present : (t.row? c.settings.historyTable slot).isSome) :
    (((call.carriedOut reply).foldl Tables.write t).row? c.settings.historyTable slot).isSome := by
  rcases h.historyRow_after reg with ⟨-, row, -, rows⟩ | ⟨-, unchanged⟩
  · rw [rows]
    split
    · rfl
    · exact present
  · rw [unchanged]
    exact present

/-- Every committed call of an update makes the same assignments to its finding and touches no
other finding. -/
theorem Served.findingRow_after {stage next : Stage} {call : Call} {reply : call.Reply}
    (h : Served c now r t stage call reply next) (reg : c.Registered t) (slot : Slot) :
    ((call.carriedOut reply).foldl Tables.write t).row? c.settings.findingsTable slot =
      if call.committed reply = true ∧ slot = r.findingSlot then
        some ((Write.update (c.findingUpdate r none)).result (c.findingRow? t r))
      else t.row? c.settings.findingsTable slot := by
  cases h with
  | paired =>
    simpa [Call.carriedOut, Call.committed, Call.writes, pairUpdate] using
      reg.findingRow_both r (w := .update (History.updateFor c.settings r))
        (historyUpdate_table ..) slot
  | created built =>
    simpa [Call.carriedOut, Call.committed, Call.writes, creation] using
      reg.findingRow_both r (w := .put _) (createFor_eq_ok built).1 slot
  | fellBack =>
    simp only [Call.carriedOut, Call.committed, Call.writes, if_true, List.foldl_cons,
      List.foldl_nil, true_and]
    rw [Tables.row?_write (by simpa [Write.table] using reg.findings_known)]
    simp only [Write.table, Write.key, findingUpdate_table, findingUpdate_key, findingKey_slot,
      true_and]
    rfl
  | findingMissing | historyMissing | built | notBuilt | outrun =>
    simp [Call.carriedOut, Call.committed]

/-- No call of an update takes a finding away. -/
theorem Served.finding_stays {stage next : Stage} {call : Call} {reply : call.Reply}
    (h : Served c now r t stage call reply next) (reg : c.Registered t) {slot : Slot}
    (present : (t.row? c.settings.findingsTable slot).isSome) :
    (((call.carriedOut reply).foldl Tables.write t).row? c.settings.findingsTable slot).isSome := by
  rw [h.findingRow_after reg]
  split
  · rfl
  · exact present

/-! ## The attributes of a finding -/

/-- What an update assigns to its finding, under whatever condition. -/
theorem findingUpdate_assigned? (c : Coordinator) (r : Request) (cond : Option Condition)
    (name : String) :
    (c.findingUpdate r cond).assigned? name =
      if Attribute.error = name then r.newError?.map Value.text
      else if Attribute.executionId = name then
        ((some r.executionId).filter fun v => !v.isEmpty).map Value.text
      else if Attribute.remediationStatus = name then some (.text r.remediationStatus)
      else none := by
  have layers : (c.findingUpdate r cond).assigned? name =
      ((((Update.of c.settings.findingsTable (Finding.key r.findingType r.findingId)).set
        Attribute.remediationStatus (.text r.remediationStatus)).setIfPresent
          Attribute.executionId (some r.executionId)).setIfPresent
            Attribute.error r.error).assigned? name := rfl
  rw [layers, Update.assigned?_setIfPresent, Update.assigned?_setIfPresent, Update.assigned?_set,
    Update.assigned?_of]
  by_cases hError : Attribute.error = name
  · subst hError
    simp [Request.newError?, Attribute.executionId, Attribute.remediationStatus, Attribute.error]
  · by_cases hExecution : Attribute.executionId = name
    · subst hExecution
      simp [Attribute.executionId, Attribute.remediationStatus, Attribute.error]
    · simp [hError, hExecution]

theorem findingResult_status (c : Coordinator) (r : Request) (cond : Option Condition)
    (old : Option Item) :
    ((Write.update (c.findingUpdate r cond)).result old).get? Attribute.remediationStatus =
      some (.text r.remediationStatus) := by
  rw [Write.result_update_get?, findingUpdate_assigned?, if_neg (by decide), if_neg (by decide),
    if_pos rfl, Option.some_or]

theorem findingResult_execution (c : Coordinator) (valid : r.isValid = true)
    (cond : Option Condition) (old : Option Item) :
    ((Write.update (c.findingUpdate r cond)).result old).get? Attribute.executionId =
      some (.text r.executionId) := by
  have given := Request.executionId_of_isValid valid
  rw [Write.result_update_get?, findingUpdate_assigned?, if_neg (by decide), if_pos rfl]
  simp [Option.filter, given]

/-- The request's error, else the one that was there. -/
theorem findingResult_error (c : Coordinator) (r : Request) (cond : Option Condition)
    (old : Option Item) :
    ((Write.update (c.findingUpdate r cond)).result old).get? Attribute.error =
      (r.newError?.map Value.text).or (old.bind fun item => item.get? Attribute.error) := by
  rw [Write.result_update_get?, findingUpdate_assigned?, if_pos rfl]
  cases old with
  | some item => rfl
  | none =>
    have fresh : (c.findingUpdate r cond).key.toItem.get? Attribute.error = none := by
      rw [findingUpdate_key, Key.toItem, KeyMap.ofList, KeyMap.get?_insertAll]
      simp [Finding.key, Key.of, Key.attributes, Attribute.findingType, Attribute.findingId,
        Attribute.error]
    rw [Option.getD_none, fresh]
    rfl

/-! ## The status of a record -/

/-- What an update assigns to its record. -/
theorem historyUpdate_assigned? (settings : Settings) (r : Request) (name : String) :
    (History.updateFor settings r).assigned? name =
      if Attribute.error = name then r.newError?.map Value.text
      else if Attribute.remediationStatus = name then some (.text r.remediationStatus)
      else none := by
  have layers : (History.updateFor settings r).assigned? name =
      (((Update.of settings.historyTable (History.key r)).set Attribute.remediationStatus
        (.text r.remediationStatus)).setIfPresent Attribute.error r.error).assigned? name := rfl
  rw [layers, Update.assigned?_setIfPresent, Update.assigned?_set, Update.assigned?_of]
  by_cases hError : Attribute.error = name
  · subst hError
    simp [Request.newError?, Attribute.remediationStatus, Attribute.error]
  · simp [hError]

theorem historyResult_status (settings : Settings) (r : Request) (old : Option Item) :
    ((Write.update (History.updateFor settings r)).result old).get? Attribute.remediationStatus =
      some (.text r.remediationStatus) := by
  rw [Write.result_update_get?, historyUpdate_assigned?, if_neg (by decide), if_pos rfl,
    Option.some_or]

/-- A created record has the request's status, unless the scan helper takes its name. -/
theorem record_status {settings : Settings} {data : Option FindingData} {record : Put}
    (other : settings.scanHelperAttribute ≠ Attribute.remediationStatus)
    (built : History.createFor settings r data now = .ok record) :
    record.item.get? Attribute.remediationStatus = some (.text r.remediationStatus) := by
  obtain ⟨-, -, -, stamp, expireAt, -, item⟩ := createFor_eq_ok built
  have error_later : ((History.textEntries
      ((r.error.map fun e => (Attribute.error, e)).toList)).reverse.find? fun e =>
        e.1 == Attribute.remediationStatus) = none := by
    cases r.error with
    | none => rfl
    | some e => simp [History.textEntries, Attribute.error, Attribute.remediationStatus]
  have later : (History.protocolLayer settings r stamp expireAt).reverse.find? (fun e =>
      e.1 == Attribute.remediationStatus) =
        some (Attribute.remediationStatus, .text r.remediationStatus) := by
    rw [History.protocolLayer, List.reverse_append, List.find?_append, error_later, Option.none_or]
    have other' : settings.scanHelperAttribute ≠ "remediationStatus" := other
    simp [Attribute.remediationStatus, Attribute.expireAt, Attribute.lastUpdatedTime,
      Attribute.lastUpdatedTimeFindingId, other']
  rw [item, Key.stamp, KeyMap.get?_insertAll, History.attributes, KeyMap.ofList,
    KeyMap.get?_insertAll, List.reverse_append, List.find?_append, later]
  simp [History.key, Key.of, Key.attributes, Attribute.findingType, Attribute.findingIdExecutionId,
    Attribute.remediationStatus]

/-- Whichever way a record is written, it has the request's status afterwards. -/
theorem Recorded.status {row : Item} (h : Recorded c now r t row)
    (other : c.settings.scanHelperAttribute ≠ Attribute.remediationStatus) :
    row.get? Attribute.remediationStatus = some (.text r.remediationStatus) := by
  cases h with
  | updated => exact historyResult_status ..
  | created built => exact record_status other built

end Coordinator

end RemediationLedger

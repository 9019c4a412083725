/-
An update that nothing disturbs.

On its own an update meets the rows as they were at its start, so these rows
decide how it ends. There are five ends, each with a lemma that gives the result
and the whole store that is left, the count of write calls included. The last
section reads the two rows off the writes: a finding takes over the status, the
execution and the error of the request, a history record the status and the
error.

* `alone` is a program without its events: a result and the store it leaves.
  What a run on a store in memory comes to is the same (`runOn_eq_alone`), and
  in this form a call can be peeled off a program by computation.
* `alone_of_invalid` to `alone_of_built` are the ends. They are stated by what
  is in the two rows at the start, and each gives the store in full, so no later
  proof has to open a stage again.
* `update_alone` puts the ends together: the result, both rows, every other row
  and the count of write calls.
* `applyAll_rows` goes by induction on a list of updates, one after another, as
  long as nothing hinders them (`Unhindered`). Such updates take no finding away
  and add their own records, which is why they stay unhindered to the end
  (`Unhindered.mono`).

What `Tables.update` and `Tables.transact` do has been settled before, in
`Proofs.Rows`. Here they are only asked which of their cases applies.
-/
import RemediationLedger.Proofs.Updates

namespace RemediationLedger

/-! ## Programs on their own -/

namespace Program

variable {α : Type}

/-- A program on its own, its events passed over: its result and the store that it leaves. -/
def alone : Program α → Store → α × Store
  | done result, s => (result, s)
  | note _ rest, s => rest.alone s
  | call c rest, s => (rest (s.answer c).1).alone (s.answer c).2

/-- What a run on a store in memory comes to does not depend on the events. -/
theorem runOn_eq_alone (p : Program α) (s : Store) :
    ((p.runOn s).1, (p.runOn s).2.store) = p.alone s := by
  suffices h : ∀ events,
      ((p.run LoggedStore.backend ⟨s, events⟩).1, (p.run LoggedStore.backend ⟨s, events⟩).2.store) =
        p.alone s from h []
  induction p generalizing s with
  | done result => intro events; rfl
  | note event rest ih => intro events; exact ih s _
  | call c rest ih => intro events; exact ih _ _ events

theorem runOn_result (p : Program α) (s : Store) : (p.runOn s).1 = (p.alone s).1 :=
  congrArg Prod.fst (runOn_eq_alone p s)

theorem runOn_store (p : Program α) (s : Store) : (p.runOn s).2.store = (p.alone s).2 :=
  congrArg Prod.snd (runOn_eq_alone p s)

end Program

namespace Coordinator

variable {c : Coordinator} {now : DateTime} {r : Request} {s : Store}

/-! ## The five ends -/

/-- An invalid request ends before its first call. -/
theorem alone_of_invalid (invalid : r.isValid = false) :
    (c.apply now r).alone s = (.ok .skipped, s) := by
  rw [apply, if_neg (by simp [invalid])]
  rfl

theorem alone_of_valid (valid : r.isValid = true) :
    (c.apply now r).alone s =
      (c.afterPairUpdate now r (s.transact (c.pairUpdate r)).1).alone
        (s.transact (c.pairUpdate r)).2 := by
  rw [apply, if_pos valid]
  rfl

/-- If both rows exist they are updated. -/
theorem alone_of_both (reg : c.Registered s.tables) (valid : r.isValid = true)
    (finding : (c.findingRow? s.tables r).isSome) (history : (c.historyRow? s.tables r).isSome) :
    (c.apply now r).alone s =
      (.ok .updatedExisting,
        ⟨(c.pairUpdate r).foldl Tables.write s.tables, s.writeCalls + 1⟩) := by
  have paired := reg.transact_pairUpdate r
  rw [if_pos ⟨finding, history⟩] at paired
  rw [alone_of_valid valid, Store.transact_of_tables paired]
  rfl

/-- If the finding is missing it is reported as missing, whether or not there is a record. -/
theorem alone_of_missing (reg : c.Registered s.tables) (valid : r.isValid = true)
    (finding : c.findingRow? s.tables r = none) :
    (c.apply now r).alone s =
      (.error (.reported (.findingMissing r.findingType r.findingId)),
        ⟨s.tables, s.writeCalls + 1⟩) := by
  have refused := reg.transact_pairUpdate r
  rw [if_neg (by simp [finding])] at refused
  rw [alone_of_valid valid, Store.transact_of_tables refused, finding]
  cases (c.historyRow? s.tables r).isSome <;> rfl

/-- If there is no record yet it is put together from what the finding tells. -/
theorem alone_of_first (reg : c.Registered s.tables) (valid : r.isValid = true)
    (finding : (c.findingRow? s.tables r).isSome) (history : c.historyRow? s.tables r = none) :
    (c.apply now r).alone s =
      (c.createRecord now r ((c.findingRow? s.tables r).map (Finding.extract c.settings))).alone
        ⟨s.tables, s.writeCalls + 1⟩ := by
  have refused := reg.transact_pairUpdate r
  rw [if_neg (by simp [history])] at refused
  have read := reg.get_finding r
  obtain ⟨old, hold⟩ := Option.isSome_iff_exists.mp finding
  rw [alone_of_valid valid, Store.transact_of_tables refused, finding, history]
  rw [hold] at read ⊢
  change ((c.createHistory now r).alone _) = _
  simp only [createHistory, Finding.readData, Finding.read, Program.get, bind, Program.bind,
    Program.alone, Store.answer, Store.get, read]
  rfl

/-- A record that cannot be put together leaves the tables as they are. -/
theorem alone_of_unbuilt (reg : c.Registered s.tables) (valid : r.isValid = true)
    (finding : (c.findingRow? s.tables r).isSome) (history : c.historyRow? s.tables r = none)
    {f : Failure}
    (failed : History.createFor c.settings r
      ((c.findingRow? s.tables r).map (Finding.extract c.settings)) now = .error f) :
    (c.apply now r).alone s = (.error f, ⟨s.tables, s.writeCalls + 1⟩) := by
  rw [alone_of_first reg valid finding history, createRecord, failed]
  cases f <;> rfl

/-- A record that is put together is created if the finding is there and the record is not. -/
theorem alone_createRecord (reg : c.Registered s.tables)
    (finding : (c.findingRow? s.tables r).isSome) (history : c.historyRow? s.tables r = none)
    {data : Option FindingData} {record : Put}
    (built : History.createFor c.settings r data now = .ok record) :
    (c.createRecord now r data).alone s =
      (.ok .createdHistory,
        ⟨(c.creation r record).foldl Tables.write s.tables, s.writeCalls + 1⟩) := by
  have created := reg.transact_creation built
  rw [if_pos ⟨finding, by simp [history]⟩] at created
  rw [createRecord, built]
  simp only [Program.alone, Store.answer, Store.transact_of_tables created]
  rfl

/-- A record that can be put together is created, by a second transaction. -/
theorem alone_of_built (reg : c.Registered s.tables) (valid : r.isValid = true)
    (finding : (c.findingRow? s.tables r).isSome) (history : c.historyRow? s.tables r = none)
    {record : Put}
    (built : History.createFor c.settings r
      ((c.findingRow? s.tables r).map (Finding.extract c.settings)) now = .ok record) :
    (c.apply now r).alone s =
      (.ok .createdHistory,
        ⟨(c.creation r record).foldl Tables.write s.tables, s.writeCalls + 2⟩) := by
  rw [alone_of_first reg valid finding history]
  exact alone_createRecord (s := ⟨s.tables, s.writeCalls + 1⟩) reg finding history built

end Coordinator

/-! ## What is left in the rows -/

namespace Request

/-- A row with the error that the request reports, if it reports one. -/
def reportOn (r : Request) (row : Item) : Item :=
  match r.newError? with
  | none => row
  | some e => row.insert Attribute.error (.text e)

/-- The finding after an update: its old row with the status, the execution and the error of the
request. -/
def onFinding (r : Request) (row : Item) : Item :=
  r.reportOn ((row.insert Attribute.remediationStatus (.text r.remediationStatus)).insert
    Attribute.executionId (.text r.executionId))

/-- An existing history record after an update: its old row with the status and the error of the
request. -/
def onRecord (r : Request) (row : Item) : Item :=
  r.reportOn (row.insert Attribute.remediationStatus (.text r.remediationStatus))

/-- The error is the last thing that an update assigns. -/
theorem insertAll_setIfPresent_error (r : Request) (u : Update) (row : Item) :
    row.insertAll (u.setIfPresent Attribute.error r.error).assignments =
      r.reportOn (row.insertAll u.assignments) := by
  unfold reportOn newError?
  cases r.error with
  | none => rfl
  | some e =>
    by_cases blank : e.isEmpty = true
    · simp [Update.setIfPresent, blank, Option.filter]
    · simp [Update.setIfPresent, blank, Option.filter, Update.set, KeyMap.insertAll_append,
        KeyMap.insertAll_cons]

end Request

namespace Coordinator

variable {c : Coordinator} {now : DateTime} {r : Request}

theorem result_findingUpdate (c : Coordinator) (valid : r.isValid = true)
    (condition : Option Condition) (row : Item) :
    (Write.update (c.findingUpdate r condition)).result (some row) = r.onFinding row := by
  have given := Request.executionId_of_isValid valid
  refine (r.insertAll_setIfPresent_error _ row).trans ?_
  simp [Request.onFinding, Update.setIfPresent, given, Update.set, Update.of,
    KeyMap.insertAll_cons]

theorem result_historyUpdate (settings : Settings) (r : Request) (row : Item) :
    (Write.update (History.updateFor settings r)).result (some row) = r.onRecord row := by
  refine (r.insertAll_setIfPresent_error _ row).trans ?_
  simp [Request.onRecord, Update.set, Update.of, KeyMap.insertAll_cons]

def withRows (c : Coordinator) (t : Tables) (r : Request) (finding record : Item) : Tables :=
  (t.setRow c.settings.findingsTable r.findingSlot finding).setRow
    c.settings.historyTable r.historySlot record

theorem names?_withRows (c : Coordinator) (t : Tables) (r : Request) (finding record : Item)
    (table : String) : (c.withRows t r finding record).names? table = t.names? table := by
  rw [withRows, Tables.names?_setRow, Tables.names?_setRow]

theorem Registered.withRows (reg : c.Registered t) (r : Request) (finding record : Item) :
    c.Registered (c.withRows t r finding record) :=
  reg.of_names?_eq (names?_withRows c t r finding record)

theorem row?_withRows (reg : c.Registered t) (r : Request) (finding record : Item)
    (table : String) (slot : Slot) :
    (c.withRows t r finding record).row? table slot =
      if table = c.settings.historyTable ∧ slot = r.historySlot then some record
      else if table = c.settings.findingsTable ∧ slot = r.findingSlot then some finding
      else t.row? table slot := by
  have known : ((t.setRow c.settings.findingsTable r.findingSlot finding).names?
      c.settings.historyTable).isSome := by
    rw [Tables.names?_setRow]
    exact reg.history_known
  rw [Coordinator.withRows, Tables.row?_setRow known, Tables.row?_setRow reg.findings_known]

theorem findingRow?_withRows (reg : c.Registered t) (r : Request) (finding record : Item) :
    c.findingRow? (c.withRows t r finding record) r = some finding := by
  rw [findingRow?, row?_withRows reg, if_neg (fun h => reg.tables_ne h.1.symm), if_pos ⟨rfl, rfl⟩]

theorem historyRow?_withRows (reg : c.Registered t) (r : Request) (finding record : Item) :
    c.historyRow? (c.withRows t r finding record) r = some record := by
  rw [historyRow?, row?_withRows reg, if_pos ⟨rfl, rfl⟩]

/-- A conditional update of the finding together with a write of its history record: the tables
that it leaves. -/
theorem Registered.write_both {t : Tables} (reg : c.Registered t) (valid : r.isValid = true)
    {finding : Item} (found : c.findingRow? t r = some finding) {w : Write}
    (table : w.table = c.settings.historyTable) (key : w.key = History.key r) :
    [.update (c.findingUpdate r (some .keyExists)), w].foldl Tables.write t =
      c.withRows t r (r.onFinding finding) (w.result (c.historyRow? t r)) := by
  have first : t.write (.update (c.findingUpdate r (some .keyExists))) =
      t.setRow c.settings.findingsTable r.findingSlot (r.onFinding finding) := by
    rw [← result_findingUpdate c valid (some .keyExists) finding, ← found]
    simp only [Tables.write, Write.table, Write.key, findingUpdate_table, findingUpdate_key]
    rfl
  have record : (t.setRow c.settings.findingsTable r.findingSlot (r.onFinding finding)).row?
      c.settings.historyTable r.historySlot = c.historyRow? t r := by
    rw [Tables.row?_setRow reg.findings_known, if_neg (by simp [reg.tables_ne])]
    rfl
  rw [List.foldl_cons, first, List.foldl_cons, List.foldl_nil, Tables.write, table, key,
    historyKey_slot, record]
  rfl

/-- **The full effect of an update on its own.** The store has both tables, the clock has a UTC
form, and nothing else happens. An invalid request is skipped and not even counted. A missing
finding is reported, and the tables stay as they are. If the record exists, both rows are updated.
If it does not, it is created from what the finding told beforehand, unless its expiry cannot be
computed; that is reported, and the tables stay as they are. Each transaction counts as one write
call. -/
theorem update_alone (c : Coordinator) (now : DateTime) (r : Request) (s : Store)
    (reg : c.Registered s.tables) {stamp : String} (stamped : now.timestamp? = some stamp) :
    let result := ((c.apply now r).runOn s).1
    let after := ((c.apply now r).runOn s).2.store
    (r.isValid = false → result = .ok .skipped ∧ after = s) ∧
    (r.isValid = true →
      (c.findingRow? s.tables r = none →
        result = .error (.reported (.findingMissing r.findingType r.findingId)) ∧
          after = ⟨s.tables, s.writeCalls + 1⟩) ∧
      ∀ finding, c.findingRow? s.tables r = some finding →
        (∀ record, c.historyRow? s.tables r = some record →
          result = .ok .updatedExisting ∧
            after = ⟨c.withRows s.tables r (r.onFinding finding) (r.onRecord record),
              s.writeCalls + 1⟩) ∧
        (c.historyRow? s.tables r = none →
          ((¬∃ moment, Retention.expireAt now c.settings.historyTtlDays = .ok moment) →
            result = .error (.reported (.settings
                (.expiryOutOfRange c.settings.historyTtlDays stamp))) ∧
              after = ⟨s.tables, s.writeCalls + 1⟩) ∧
          ((∃ moment, Retention.expireAt now c.settings.historyTtlDays = .ok moment) →
            ∃ record, History.createFor c.settings r (some (Finding.extract c.settings finding))
                now = .ok record ∧
              result = .ok .createdHistory ∧
              after = ⟨c.withRows s.tables r (r.onFinding finding) record.item,
                s.writeCalls + 2⟩))) := by
  intro result after
  have alone : (result, after) = (c.apply now r).alone s := Program.runOn_eq_alone _ _
  have ends : ∀ {result' after'}, (c.apply now r).alone s = (result', after') →
      result = result' ∧ after = after' := fun h => Prod.mk.inj (alone.trans h)
  refine ⟨fun invalid => ends (alone_of_invalid invalid), fun valid => ⟨fun missing => ?_, ?_⟩⟩
  · exact ends (alone_of_missing reg valid missing)
  intro finding found
  have present : (c.findingRow? s.tables r).isSome := by rw [found]; rfl
  refine ⟨fun record recorded => ?_, fun absent => ⟨fun incomputable => ?_, ?_⟩⟩
  · have both := ends (alone_of_both reg valid present (by rw [recorded]; rfl))
    rw [pairUpdate, reg.write_both valid found (w := .update (History.updateFor c.settings r))
      (historyUpdate_table ..) (historyUpdate_key ..), recorded, result_historyUpdate] at both
    exact both
  · cases computed : Retention.expireAt now c.settings.historyTtlDays with
    | ok moment => exact absurd ⟨moment, computed⟩ incomputable
    | error f =>
      obtain rfl := expireAt_eq_error stamped computed
      exact ends (alone_of_unbuilt reg valid present absent (createFor_of_error computed r _))
  · rintro ⟨moment, computed⟩
    obtain ⟨record, built⟩ := createFor_of_ok computed stamped r
      (some (Finding.extract c.settings finding))
    obtain ⟨table, key, -⟩ := createFor_eq_ok built
    have created := ends (alone_of_built reg valid present absent
      (by rw [found]; exact built))
    rw [creation, reg.write_both valid found (w := .put record) table key] at created
    exact ⟨record, built, created⟩

/-- The first update of a finding creates the record. -/
theorem update_alone_of_pair :
    ((pairLedger.apply newYear (pairRequest false)).runOn pairStore).1 = .ok .createdHistory ∧
      ((pairLedger.apply newYear (pairRequest false)).runOn pairStore).2.store.writeCalls = 2 := by
  have stamped : newYear.timestamp? = some "2024-01-01T00:00:00.000000Z" := by decide +kernel
  obtain ⟨-, updates⟩ := update_alone pairLedger newYear (pairRequest false) pairStore
    registered_pairStore stamped
  obtain ⟨-, found⟩ := updates rfl
  obtain ⟨-, first⟩ := found .empty (by decide +kernel)
  obtain ⟨-, created⟩ := first (by decide +kernel)
  obtain ⟨record, -, result, after⟩ := created ⟨_, rfl⟩
  exact ⟨result, by rw [after]; rfl⟩

/-! ## One after another -/

/-- Nothing keeps an update on its own from writing both rows: it is valid, its finding exists, its
expiry can be computed and its clock has a UTC form. -/
structure Unhindered (c : Coordinator) (t : Tables) (now : DateTime) (r : Request) : Prop where
  valid : r.isValid = true
  finding : (c.findingRow? t r).isSome
  computable : ∃ moment, Retention.expireAt now c.settings.historyTtlDays = .ok moment
  stamped : now.timestamp?.isSome

/-- An unhindered update leaves the tables registered, takes no finding away, and writes its own
record and no other. -/
theorem Unhindered.rows {s : Store} (h : c.Unhindered s.tables now r)
    (reg : c.Registered s.tables) :
    let after := ((c.apply now r).runOn s).2.store.tables
    c.Registered after ∧
    (∀ slot, (s.tables.row? c.settings.findingsTable slot).isSome →
      (after.row? c.settings.findingsTable slot).isSome) ∧
    ∃ row, ∀ slot, after.row? c.settings.historyTable slot =
      if slot = r.historySlot then some row else s.tables.row? c.settings.historyTable slot := by
  intro after
  obtain ⟨w, table, key, written⟩ : ∃ w : Write, w.table = c.settings.historyTable ∧
      w.key = History.key r ∧
      after = [.update (c.findingUpdate r (some .keyExists)), w].foldl Tables.write s.tables := by
    have alone := (c.apply now r).runOn_store s
    by_cases history : (c.historyRow? s.tables r).isSome
    · rw [alone_of_both reg h.valid h.finding history] at alone
      exact ⟨.update (History.updateFor c.settings r), historyUpdate_table .., historyUpdate_key ..,
        congrArg Store.tables alone⟩
    · obtain ⟨moment, computed⟩ := h.computable
      obtain ⟨stamp, stamped⟩ := Option.isSome_iff_exists.mp h.stamped
      obtain ⟨record, built⟩ := createFor_of_ok computed stamped r
        ((c.findingRow? s.tables r).map (Finding.extract c.settings))
      obtain ⟨table, key, -⟩ := createFor_eq_ok built
      rw [alone_of_built reg h.valid h.finding (by simpa using history) built] at alone
      exact ⟨.put record, table, key, congrArg Store.tables alone⟩
  rw [written]
  refine ⟨reg.foldl_write _, fun slot present => ?_, _, reg.historyRow_both r table key⟩
  rw [reg.findingRow_both r table]
  split
  · rfl
  · exact present

def applyAll (c : Coordinator) (s : Store) (updates : List (DateTime × Request)) : Store :=
  updates.foldl (fun s u => ((c.apply u.1 u.2).runOn s).2.store) s

theorem applyAll_cons (c : Coordinator) (s : Store) (u : DateTime × Request)
    (updates : List (DateTime × Request)) :
    c.applyAll s (u :: updates) = c.applyAll ((c.apply u.1 u.2).runOn s).2.store updates := rfl

theorem applyAll_concat (c : Coordinator) (s : Store) (updates : List (DateTime × Request))
    (u : DateTime × Request) :
    c.applyAll s (updates ++ [u]) = ((c.apply u.1 u.2).runOn (c.applyAll s updates)).2.store := by
  simp [applyAll]

/-- Unhindered updates stay unhindered as long as no finding goes away. -/
theorem Unhindered.mono {t t' : Tables} (h : c.Unhindered t now r)
    (stay : ∀ slot, (t.row? c.settings.findingsTable slot).isSome →
      (t'.row? c.settings.findingsTable slot).isSome) : c.Unhindered t' now r :=
  { h with finding := stay _ h.finding }

/-- Unhindered updates one after another leave the tables registered, take no finding away, and add
exactly their own records. -/
theorem applyAll_rows {s : Store} (reg : c.Registered s.tables)
    {updates : List (DateTime × Request)}
    (unhindered : ∀ u ∈ updates, c.Unhindered s.tables u.1 u.2) :
    let after := (c.applyAll s updates).tables
    c.Registered after ∧
    (∀ slot, (s.tables.row? c.settings.findingsTable slot).isSome →
      (after.row? c.settings.findingsTable slot).isSome) ∧
    ∀ slot, (after.row? c.settings.historyTable slot).isSome ↔
      slot ∈ updates.map (fun u => u.2.historySlot) ∨
        (s.tables.row? c.settings.historyTable slot).isSome := by
  induction updates generalizing s with
  | nil => exact ⟨reg, fun slot => id, fun slot => by simp [applyAll]⟩
  | cons u updates ih =>
    obtain ⟨reg', stay', row, rows⟩ := (unhindered u List.mem_cons_self).rows reg
    -- the findings of the later updates are still there
    obtain ⟨reg'', stay, records⟩ := ih reg' fun v hv =>
      (unhindered v (List.mem_cons_of_mem _ hv)).mono stay'
    rw [applyAll_cons]
    refine ⟨reg'', fun slot present => stay slot (stay' slot present), fun slot => ?_⟩
    rw [records, rows, List.map_cons, List.mem_cons]
    by_cases own : slot = u.2.historySlot
    · simp [own]
    · simp [own]

end Coordinator

end RemediationLedger

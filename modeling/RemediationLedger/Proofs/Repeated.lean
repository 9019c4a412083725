/-
Updates of one execution, one after another.

The first update creates the record and every later one finds both rows. So
after the first step the two rows are all that changes, and the tables are those
of the start with both rows replaced (`withRows`). An update of such tables
leaves such tables (`runOn_withRows`), replaced rows do not pile up
(`withRows_withRows`), and the rest is the fold over the rows.

The one way for this to go wrong is the first step: where its clock has no UTC
form there is no record to begin with, although the expiry may be one that can
be computed (`runOn_first_of_unstamped`).

## Statement

`updates_of_one_execution` is about a first update and any number of later ones,
each with a clock and a request of its own, which share nothing but the three
ids. The results are those of a creation and of updates exactly if the first
clock has a UTC form. If it has one, the two rows are given in full: the status
is that of the last request, the error is the last one that was reported, the
execution stays, all else in the record is as it was created, and all else in
the finding is as it was at the start. The history table has one item more than
before. And the last request can be applied once more, at any time, without an
effect.

The settings must not give the scan helper the name of the status or of the
error, because the first record would not show the request's then; what it does
show is said in `Proofs.ProtocolAttributes`.
-/
import RemediationLedger.Proofs.RecordKeys
import RemediationLedger.Proofs.RowFolds

namespace RemediationLedger.Coordinator

variable {c : Coordinator} {now : DateTime} {r : Request} {t : Tables}

/-! ## Both rows of a request -/

/-- Of two replacements the later one counts. -/
theorem withRows_withRows (reg : c.Registered t) (r : Request)
    (finding record finding' record' : Item) :
    c.withRows (c.withRows t r finding record) r finding' record' =
      c.withRows t r finding' record' := by
  refine Tables.ext_row? (fun table => by simp only [names?_withRows]) fun table slot => ?_
  simp only [row?_withRows (reg.withRows r finding record), row?_withRows reg]
  split
  · rfl
  · split
    · rfl
    · rfl

/-- Requests of one execution have the same rows. -/
theorem withRows_congr {r' : Request} (same : r'.ids = r.ids) (c : Coordinator) (t : Tables)
    (finding record : Item) : c.withRows t r' finding record = c.withRows t r finding record := by
  obtain ⟨sameId, sameExecution, sameType⟩ := UpdateIds.mk.inj same
  simp only [withRows, Request.findingSlot, Request.historySlot, Request.historySortKey, sameId,
    sameExecution, sameType]

theorem isValid_congr {r' : Request} (same : r'.ids = r.ids) : r.isValid = r'.isValid := by
  obtain ⟨sameId, sameExecution, sameType⟩ := UpdateIds.mk.inj same
  simp only [Request.isValid, sameId, sameExecution, sameType]

theorem ids_getLast {first : DateTime × Request} {later : List (DateTime × Request)}
    (same : ∀ u ∈ later, u.2.ids = first.2.ids) :
    (((first :: later).map Prod.snd).getLast (List.cons_ne_nil _ _)).ids = first.2.ids := by
  have mem := List.getLast_mem (l := (first :: later).map Prod.snd) (List.cons_ne_nil _ _)
  obtain ⟨u, hu, here⟩ := List.mem_map.mp mem
  rw [← here]
  rcases List.mem_cons.mp hu with rfl | hu
  · rfl
  · exact same u hu

/-- An update that finds both rows writes both and nothing else. -/
theorem runOn_withRows (reg : c.Registered t) (valid : r.isValid = true) (now : DateTime)
    (finding record : Item) (calls : Nat) :
    ((c.apply now r).runOn ⟨c.withRows t r finding record, calls⟩).1 = .ok .updatedExisting ∧
      ((c.apply now r).runOn ⟨c.withRows t r finding record, calls⟩).2.store =
        ⟨c.withRows t r (r.onFinding finding) (r.onRecord record), calls + 1⟩ := by
  have reg' := reg.withRows r finding record
  have found := findingRow?_withRows reg r finding record
  have recorded := historyRow?_withRows reg r finding record
  have both : (c.apply now r).alone ⟨c.withRows t r finding record, calls⟩ = _ :=
    alone_of_both reg' valid (by rw [found]; rfl) (by rw [recorded]; rfl)
  have written := reg'.write_both valid found (w := .update (History.updateFor c.settings r))
    (historyUpdate_table ..) (historyUpdate_key ..)
  rw [recorded, result_historyUpdate] at written
  rw [pairUpdate, written] at both
  rw [Program.runOn_result, Program.runOn_store, both]
  have once := withRows_withRows reg r finding record (r.onFinding finding) (r.onRecord record)
  exact ⟨rfl, congrArg (fun tables => (⟨tables, calls + 1⟩ : Store)) once⟩

/-- An update that finds both rows as it would write them changes nothing. -/
theorem runOn_again (reg : c.Registered t) (valid : r.isValid = true) (now : DateTime)
    {finding record : Item} (calls : Nat) (sameFinding : r.onFinding finding = finding)
    (sameRecord : r.onRecord record = record) :
    ((c.apply now r).runOn ⟨c.withRows t r finding record, calls⟩).1 = .ok .updatedExisting ∧
      ((c.apply now r).runOn ⟨c.withRows t r finding record, calls⟩).2.store.tables =
        c.withRows t r finding record := by
  obtain ⟨result, after⟩ := runOn_withRows reg valid now finding record calls
  rw [sameFinding, sameRecord] at after
  exact ⟨result, congrArg Store.tables after⟩

/-! ## Updates of one execution -/

def results (c : Coordinator) (s : Store) :
    List (DateTime × Request) → List (Except Failure Outcome)
  | [] => []
  | u :: later =>
    ((c.apply u.1 u.2).runOn s).1 :: c.results ((c.apply u.1 u.2).runOn s).2.store later

/-- Once both rows are there, updates of the execution fold themselves into them. -/
theorem applyAll_withRows (reg : c.Registered t) (valid : r.isValid = true)
    {later : List (DateTime × Request)} (same : ∀ u ∈ later, u.2.ids = r.ids)
    (finding record : Item) (calls : Nat) :
    c.results ⟨c.withRows t r finding record, calls⟩ later =
        List.replicate later.length (.ok .updatedExisting) ∧
      c.applyAll ⟨c.withRows t r finding record, calls⟩ later =
        ⟨c.withRows t r ((later.map Prod.snd).foldl (fun row r => r.onFinding row) finding)
          ((later.map Prod.snd).foldl (fun row r => r.onRecord row) record),
          calls + later.length⟩ := by
  induction later generalizing finding record calls with
  | nil => exact ⟨rfl, rfl⟩
  | cons u later ih =>
    have ids : u.2.ids = r.ids := same u List.mem_cons_self
    obtain ⟨result, after⟩ :=
      runOn_withRows reg (isValid_congr ids ▸ valid) u.1 finding record calls
    rw [withRows_congr ids, withRows_congr ids] at after
    rw [withRows_congr ids] at result
    obtain ⟨results, stores⟩ := ih (fun v hv => same v (List.mem_cons_of_mem u hv))
      (u.2.onFinding finding) (u.2.onRecord record) (calls + 1)
    rw [Coordinator.results, applyAll_cons, result, after, results, stores, List.length_cons,
      List.replicate_succ, Nat.add_assoc, Nat.add_comm 1]
    exact ⟨rfl, rfl⟩

/-- The tables that a creation leaves. -/
theorem Registered.write_creation (reg : c.Registered t) (valid : r.isValid = true)
    {finding : Item} (found : c.findingRow? t r = some finding) {data : Option FindingData}
    {record : Put} (built : History.createFor c.settings r data now = .ok record) :
    (c.creation r record).foldl Tables.write t =
      c.withRows t r (r.onFinding finding) record.item := by
  obtain ⟨table, key, -⟩ := createFor_eq_ok built
  exact reg.write_both valid found (w := .put record) table key

/-- The first update of an execution creates its record. -/
theorem runOn_first {s : Store} (reg : c.Registered s.tables) (valid : r.isValid = true)
    {finding : Item} (found : c.findingRow? s.tables r = some finding)
    (absent : c.historyRow? s.tables r = none) {record : Put}
    (built : History.createFor c.settings r (some (Finding.extract c.settings finding)) now =
      .ok record) :
    ((c.apply now r).runOn s).1 = .ok .createdHistory ∧
      ((c.apply now r).runOn s).2.store =
        ⟨c.withRows s.tables r (r.onFinding finding) record.item, s.writeCalls + 2⟩ := by
  have created := alone_of_built reg valid (by rw [found]; rfl) absent (by rw [found]; exact built)
  rw [reg.write_creation valid found built] at created
  rw [Program.runOn_result, Program.runOn_store, created]
  exact ⟨rfl, rfl⟩

/-- An execution from its first update on: one record is created, and the rest is folded into
both rows. -/
theorem applyAll_of_built {s : Store} {first : DateTime × Request}
    {later : List (DateTime × Request)} (reg : c.Registered s.tables)
    (valid : first.2.isValid = true) (same : ∀ u ∈ later, u.2.ids = first.2.ids) {finding : Item}
    (found : c.findingRow? s.tables first.2 = some finding)
    (absent : c.historyRow? s.tables first.2 = none) {record : Put}
    (built : History.createFor c.settings first.2 (some (Finding.extract c.settings finding))
      first.1 = .ok record) :
    c.results s (first :: later) =
        .ok .createdHistory :: List.replicate later.length (.ok .updatedExisting) ∧
      c.applyAll s (first :: later) =
        ⟨c.withRows s.tables first.2
          ((first.2 :: later.map Prod.snd).foldl (fun row r => r.onFinding row) finding)
          ((later.map Prod.snd).foldl (fun row r => r.onRecord row) record.item),
          s.writeCalls + 2 + later.length⟩ := by
  obtain ⟨result, store⟩ := runOn_first reg valid found absent built
  obtain ⟨results, stores⟩ := applyAll_withRows reg valid same (first.2.onFinding finding)
    record.item (s.writeCalls + 2)
  refine ⟨?_, ?_⟩
  · rw [Coordinator.results, result, store, results]
  · rw [applyAll_cons, store, stores, List.foldl_cons]

/-- A new row makes one more item. -/
theorem length_items_withRows (reg : c.Registered t) (absent : c.historyRow? t r = none)
    (finding record : Item) :
    ((c.withRows t r finding record).items c.settings.historyTable).length =
      (t.items c.settings.historyTable).length + 1 := by
  have listed : ∀ slot, ((c.withRows t r finding record).row?
      c.settings.historyTable slot).isSome ↔
        slot ∈ r.historySlot :: t.slots c.settings.historyTable := by
    intro slot
    rw [row?_withRows reg, List.mem_cons, Tables.mem_slots]
    by_cases own : slot = r.historySlot
    · simp [own]
    · simp [own, reg.tables_ne]
  have new : r.historySlot ∉ t.slots c.settings.historyTable := by
    rw [Tables.mem_slots]
    change ¬(c.historyRow? t r).isSome
    simp [absent]
  have nodup := List.nodup_cons.mpr ⟨new, t.nodup_slots c.settings.historyTable⟩
  rw [Tables.length_items_eq listed, nodup.dedup, List.length_cons, t.length_items]

/-- Without a UTC form of its clock the first update breaks off instead. -/
theorem runOn_first_of_unstamped {s : Store} (reg : c.Registered s.tables)
    (valid : r.isValid = true) {finding : Item} (found : c.findingRow? s.tables r = some finding)
    (absent : c.historyRow? s.tables r = none)
    (computable : ∃ moment, Retention.expireAt now c.settings.historyTtlDays = .ok moment)
    (unstamped : now.timestamp? = none) :
    ((c.apply now r).runOn s).1 = .error (.noUtcForm now) := by
  cases built : History.createFor c.settings r
      ((c.findingRow? s.tables r).map (Finding.extract c.settings)) now with
  | ok record =>
    obtain ⟨-, -, -, stamp, -, stamped, -⟩ := createFor_eq_ok built
    rw [unstamped] at stamped
    cases stamped
  | error f =>
    obtain ⟨-, rfl⟩ := createFor_eq_error computable built
    rw [Program.runOn_result, alone_of_unbuilt reg valid (by rw [found]; rfl) absent built]

/-- **Updates of one execution, one after another.** The store has both tables, the finding is there
and its record is not, the expiry of the first update can be computed, and the scan helper takes
the name of neither the status nor the error. The first update creates the record and every later
one updates both rows, exactly if the first clock has a UTC form. Then the history table has one
record more. It has the status of the last request, the last error that a request reported, and
otherwise what the first request wrote. The finding has the status of the last request, the
execution, and the last error that a request reported, else the one it had. Nothing else has
changed, and applying the last request once more changes nothing. -/
theorem updates_of_one_execution (c : Coordinator) (s : Store) (first : DateTime × Request)
    (later : List (DateTime × Request)) (reg : c.Registered s.tables)
    (valid : first.2.isValid = true) (same : ∀ u ∈ later, u.2.ids = first.2.ids) {finding : Item}
    (found : c.findingRow? s.tables first.2 = some finding)
    (absent : c.historyRow? s.tables first.2 = none)
    (computable : ∃ moment, Retention.expireAt first.1 c.settings.historyTtlDays = .ok moment)
    (otherStatus : c.settings.scanHelperAttribute ≠ Attribute.remediationStatus)
    (otherError : c.settings.scanHelperAttribute ≠ Attribute.error) :
    let requests := (first :: later).map Prod.snd
    let last := requests.getLast (List.cons_ne_nil _ _)
    let error := (lastError? requests).map Value.text
    let after := c.applyAll s (first :: later)
    (c.results s (first :: later) =
        .ok .createdHistory :: List.replicate later.length (.ok .updatedExisting) ↔
      first.1.timestamp?.isSome) ∧
    (first.1.timestamp?.isSome → ∃ created finding' record,
      History.createFor c.settings first.2 (some (Finding.extract c.settings finding)) first.1 =
        .ok created ∧
      after.tables = c.withRows s.tables first.2 finding' record ∧
      (after.items c.settings.historyTable).length =
        (s.items c.settings.historyTable).length + 1 ∧
      (record.get? Attribute.remediationStatus = some (.text last.remediationStatus) ∧
        record.get? Attribute.error = error ∧
        AgreeExcept Attribute.updatedInRecord created.item record) ∧
      (finding'.get? Attribute.remediationStatus = some (.text last.remediationStatus) ∧
        finding'.get? Attribute.executionId = some (.text first.2.executionId) ∧
        finding'.get? Attribute.error = error.or (finding.get? Attribute.error) ∧
        AgreeExcept Attribute.updatedInFinding finding finding') ∧
      ∀ now, ((c.apply now last).runOn after).1 = .ok .updatedExisting ∧
        ((c.apply now last).runOn after).2.store.tables = after.tables) := by
  intro requests last error after
  obtain ⟨moment, computed⟩ := computable
  have buildable : first.1.timestamp?.isSome → ∃ record, History.createFor c.settings first.2
      (some (Finding.extract c.settings finding)) first.1 = .ok record := fun stamped => by
    obtain ⟨stamp, stamped⟩ := Option.isSome_iff_exists.mp stamped
    exact createFor_of_ok computed stamped first.2 _
  refine ⟨⟨fun results => ?_, fun stamped => ?_⟩, fun stamped => ?_⟩
  · rw [Option.isSome_iff_ne_none]
    intro unstamped
    rw [Coordinator.results, runOn_first_of_unstamped reg valid found absent ⟨moment, computed⟩
      unstamped] at results
    cases results
  · obtain ⟨record, built⟩ := buildable stamped
    exact (applyAll_of_built reg valid same found absent built).1
  · obtain ⟨created, built⟩ := buildable stamped
    obtain ⟨-, (left : after = _)⟩ := applyAll_of_built reg valid same found absent built
    obtain ⟨recordStatus, recordError, recordRest, sameRecord⟩ := record_after_updates
      (record_status otherStatus built) (record_error otherError built) (later.map Prod.snd)
    obtain ⟨status, execution, reported, rest, sameFinding⟩ :=
      finding_after_updates first.2 (later.map Prod.snd) finding
    have ids : last.ids = first.2.ids := ids_getLast same
    refine ⟨created, _, _, built, congrArg Store.tables left, ?_,
      ⟨recordStatus, recordError, recordRest⟩, ⟨status, ?_, reported, rest⟩, fun now => ?_⟩
    · rw [left]
      exact length_items_withRows reg absent _ _
    · have sameExecution : last.executionId = first.2.executionId :=
        congrArg UpdateIds.executionId ids
      rw [← sameExecution]
      exact execution
    · rw [left, ← withRows_congr ids]
      exact runOn_again reg (isValid_congr ids ▸ valid) now _ sameFinding sameRecord

/-- An execution is queued, fails with an error, and succeeds after all. The error stays. -/
theorem updates_of_one_execution_of_three :
    let updates := [(newYear, pairRequest false),
      (newYear, { pairRequest true with remediationStatus := "FAILED", error := some "denied" }),
      (newYear, { pairRequest true with error := some "" })]
    pairLedger.results pairStore updates =
        [.ok .createdHistory, .ok .updatedExisting, .ok .updatedExisting] ∧
      ((pairLedger.applyAll pairStore updates).items "history").length = 1 ∧
      ∃ record, pairLedger.historyRow? (pairLedger.applyAll pairStore updates).tables
          (pairRequest false) = some record ∧
        record.get? Attribute.remediationStatus = some (.text "SUCCESS") ∧
        record.get? Attribute.error = some (.text "denied") := by
  intro updates
  have found : pairLedger.findingRow? pairStore.tables (pairRequest false) = some .empty := by
    decide +kernel
  obtain ⟨results, left⟩ := updates_of_one_execution pairLedger pairStore
    (newYear, pairRequest false) updates.tail registered_pairStore rfl
    (by simp [updates, pairRequest, Request.ids]) found (by decide +kernel) ⟨_, rfl⟩ (by decide)
    (by decide)
  have stamped : newYear.timestamp?.isSome := by decide +kernel
  obtain ⟨created, finding, record, -, after, count, ⟨status, error, -⟩, -⟩ := left stamped
  have held := historyRow?_withRows registered_pairStore (pairRequest false) finding record
  rw [← after] at held
  exact ⟨results.mpr stamped, count, record, held, status, error⟩

/-- On the first day of the first year no update of an execution creates its record, although the
expiry can be computed. -/
theorem updates_without_utc_form_create_nothing :
    let updates := [(firstMoment, pairRequest false), (firstMoment, pairRequest true)]
    (pairLedger.Registered pairStore.tables ∧ (∀ u ∈ updates, u.2.isValid = true) ∧
      (∀ u ∈ updates, u.2.ids = (pairRequest false).ids) ∧
      (pairLedger.findingRow? pairStore.tables (pairRequest false)).isSome ∧
      pairLedger.historyRow? pairStore.tables (pairRequest false) = none ∧
      (∀ u ∈ updates, ∃ moment,
        Retention.expireAt u.1 pairLedger.settings.historyTtlDays = .ok moment) ∧
      pairLedger.settings.scanHelperAttribute ∉ Attribute.metadata ++ Attribute.ofProtocol) ∧
    pairLedger.results pairStore updates =
      [.error (.noUtcForm firstMoment), .error (.noUtcForm firstMoment)] ∧
    (pairLedger.applyAll pairStore updates).tables = pairStore.tables := by
  intro updates
  have computable : ∃ moment, Retention.expireAt firstMoment pairLedger.settings.historyTtlDays =
      .ok moment := ⟨_, rfl⟩
  refine ⟨⟨registered_pairStore, by decide, by decide, by decide +kernel, by decide +kernel, ?_,
    by decide⟩, rfl, by decide +kernel⟩
  intro u hu
  obtain rfl | rfl : u = _ ∨ u = _ := by simpa [updates] using hu
  · exact computable
  · exact computable

end RemediationLedger.Coordinator

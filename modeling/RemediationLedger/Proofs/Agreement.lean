/-
A finding and its record disagree only after a lost race.

Every committed transaction of an update leaves one status in two rows, that of
the finding and that of the record. The record keeps it until the next
transaction for the same record, and that one writes the finding as well. So as
long as a transaction is the latest write to a finding, the record of its
execution shows the same status (`RecordsAgree.agree`). This needs that updates
of different findings never share a record, and that the scan helper does not go
by the status's name.

The converse direction is about records that show something else. Where the
history table was empty at the start, such a record was written by a
transaction, which wrote the finding too, so the latest write to the finding
came after it and can only be an update of the finding alone.

## How the proof goes

`RecordsAgree` is the invariant. It speaks of the committed writes to the
findings and not of the stages of the updates, so it is kept by two lemmas, one
for a call that is served (`RecordsAgree.served`) and one for a call that is
refused (`RecordsAgree.refused`); `records_agree_run` carries it through every
schedule. From the invariant both directions are read off at once. After a
transaction the rows are in step (`RecordsAgree.inStep`), and rows in step show
one status by whatever request they are addressed (`InStep.same_status`).

`records_agree_unless_outrun` states it for any number of updates under any
schedule, refused calls included.
-/
import RemediationLedger.Proofs.LastWriter

namespace RemediationLedger.Coordinator

variable {ι : Type} {c : Coordinator} {req : ι → Request}

def RecordsApart (req : ι → Request) : Prop :=
  ∀ i j, (req i).findingSlot ≠ (req j).findingSlot → (req i).historySlot ≠ (req j).historySlot

/-- How the records stand to the findings, going by the committed writes to the findings. -/
structure RecordsAgree (c : Coordinator) (req : ι → Request) (t : Tables)
    (turns : List (Turn ι)) : Prop where
  /-- Only updates of a finding write to it. -/
  own : ∀ slot, ∀ u ∈ c.findingWrites slot turns, (req u.client).findingSlot = slot
  /-- The record of the latest transaction shows the status of that transaction. -/
  agree : ∀ slot last rest writes, c.findingWrites slot turns = last :: rest →
    last.call = .transact writes →
      ∃ record, t.row? c.settings.historyTable (req last.client).historySlot = some record ∧
        record.get? Attribute.remediationStatus = some (.text (req last.client).remediationStatus)
  /-- Every record was written by an update, together with its finding. -/
  written : ∀ slot, (t.row? c.settings.historyTable slot).isSome →
    ∃ i, (req i).historySlot = slot ∧ c.findingWrites (req i).findingSlot turns ≠ []

theorem RecordsAgree.served {now : DateTime} {i : ι} {t : Tables} {turns : List (Turn ι)}
    {stage next : Stage} {call : Call} {reply : call.Reply} (h : RecordsAgree c req t turns)
    (apart : RecordsApart req) (reg : c.Registered t)
    (other : c.settings.scanHelperAttribute ≠ Attribute.remediationStatus)
    (step : Served c now (req i) t stage call reply next) :
    RecordsAgree c req ((call.carriedOut reply).foldl Tables.write t)
      (⟨i, call, reply, t, (call.carriedOut reply).foldl Tables.write t⟩ :: turns) := by
  have writes := fun slot => step.findingWrites_cons reg i
    ((call.carriedOut reply).foldl Tables.write t) slot turns
  have grows : ∀ slot, c.findingWrites slot turns ≠ [] → c.findingWrites slot
      (⟨i, call, reply, t, (call.carriedOut reply).foldl Tables.write t⟩ :: turns) ≠ [] := by
    intro slot hne
    rw [writes]
    split
    · exact List.cons_ne_nil _ _
    · exact hne
  refine ⟨?_, ?_, ?_⟩
  · intro slot u hu
    rw [writes] at hu
    split at hu
    · rename_i here
      rcases List.mem_cons.mp hu with rfl | hu
      · exact here.2.symm
      · exact h.own slot u hu
    · exact h.own slot u hu
  · intro slot last rest ws hlast htransact
    rw [writes] at hlast
    rcases step.historyRow_after reg with ⟨committed, row, recorded, rows⟩ | ⟨single, unchanged⟩
    · split at hlast
      · cases hlast
        exact ⟨row, (rows _).trans (if_pos rfl), recorded.status other⟩
      · -- the latest write was to another finding, so it was for another record
        rename_i elsewhere
        have hslot : (req last.client).findingSlot = slot :=
          h.own slot last (hlast ▸ List.mem_cons_self)
        have hne : (req last.client).historySlot ≠ (req i).historySlot := by
          refine apart _ _ fun same => ?_
          exact elsewhere ⟨committed, hslot.symm.trans same⟩
        rw [rows, if_neg hne]
        exact h.agree slot last rest ws hlast htransact
    · split at hlast
      · rename_i here
        cases hlast
        obtain ⟨u, hu⟩ := single here.1
        cases hu.symm.trans htransact
      · rw [unchanged]
        exact h.agree slot last rest ws hlast htransact
  · intro slot present
    rcases step.historyRow_after reg with ⟨committed, row, -, rows⟩ | ⟨single, unchanged⟩
    · by_cases hslot : slot = (req i).historySlot
      · refine ⟨i, hslot.symm, ?_⟩
        rw [writes, if_pos ⟨committed, rfl⟩]
        exact List.cons_ne_nil _ _
      · rw [rows, if_neg hslot] at present
        obtain ⟨j, hj, hne⟩ := h.written slot present
        exact ⟨j, hj, grows _ hne⟩
    · rw [unchanged] at present
      obtain ⟨j, hj, hne⟩ := h.written slot present
      exact ⟨j, hj, grows _ hne⟩

theorem RecordsAgree.refused {t : Tables} {turns : List (Turn ι)} (h : RecordsAgree c req t turns)
    (i : ι) (call : Call) (e : StoreError) :
    RecordsAgree c req t (⟨i, call, call.refusal e, t, t⟩ :: turns) := by
  refine ⟨?_, ?_, ?_⟩
  · simpa only [findingWrites_refused] using h.own
  · simpa only [findingWrites_refused] using h.agree
  · simpa only [findingWrites_refused] using h.written

/-- A committed call writes by a transaction or by a single update. -/
theorem transact_or_update_of_wrote {u : Turn ι} {slot : Slot} {turns : List (Turn ι)}
    (h : u ∈ c.findingWrites slot turns) :
    (∃ writes, u.call = .transact writes) ∨ ∃ update, u.call = .update update := by
  obtain ⟨-, wrote⟩ := List.mem_filter.mp h
  obtain ⟨i, call, reply, before, after⟩ := u
  cases call with
  | get table key => simp [Turn.wrote, Turn.committed, Call.committed] at wrote
  | transact writes => exact .inl ⟨writes, rfl⟩
  | update update => exact .inr ⟨update, rfl⟩

theorem historySlot_congr {a b : Request} (finding : a.findingSlot = b.findingSlot)
    (execution : a.executionId = b.executionId) : a.historySlot = b.historySlot := by
  simp only [Request.findingSlot, Slot.mk.injEq] at finding
  simp [Request.historySlot, Request.historySortKey, finding, execution]

/-! ## Rows in step -/

/-- The finding shows the execution and the status of a request, and the record of that execution
exists and shows the same status. -/
def InStep (c : Coordinator) (t : Tables) (r : Request) : Prop :=
  ∃ row record, c.findingRow? t r = some row ∧
    row.get? Attribute.executionId = some (.text r.executionId) ∧
    row.get? Attribute.remediationStatus = some (.text r.remediationStatus) ∧
    c.historyRow? t r = some record ∧
    record.get? Attribute.remediationStatus = some (.text r.remediationStatus)

/-- After a transaction the rows are in step. -/
theorem RecordsAgree.inStep {origin t : Tables} {turns : List (Turn ι)} {slot : Slot}
    {last : Turn ι} {rest : List (Turn ι)} {writes : List Write} (h : RecordsAgree c req t turns)
    (tells : FindingTells c req origin slot t turns)
    (hlast : c.findingWrites slot turns = last :: rest) (htransact : last.call = .transact writes) :
    (req last.client).findingSlot = slot ∧ InStep c t (req last.client) := by
  have own := h.own slot last (hlast ▸ List.mem_cons_self)
  obtain ⟨row, hrow, status, execution⟩ := tells.latest last rest hlast
  obtain ⟨record, hrecord, same⟩ := h.agree slot last rest writes hlast htransact
  refine ⟨own, row, record, ?_, execution, status, hrecord, same⟩
  rw [findingRow?, own]
  exact hrow

/-- Rows in step do not differ, whatever request they are addressed by. -/
theorem InStep.same_status {t : Tables} {a r : Request} {row record : Item} (h : InStep c t a)
    (finding : a.findingSlot = r.findingSlot) (hrow : c.findingRow? t r = some row)
    (shows : row.get? Attribute.executionId = some (.text r.executionId))
    (hrecord : c.historyRow? t r = some record) :
    record.get? Attribute.remediationStatus = row.get? Attribute.remediationStatus := by
  obtain ⟨row', record', hrow', execution, status, hrecord', same⟩ := h
  rw [findingRow?, finding] at hrow'
  obtain rfl : row' = row := Option.some.inj (hrow'.symm.trans hrow)
  have executions : a.executionId = r.executionId := by simpa using execution.symm.trans shows
  rw [historyRow?, historySlot_congr finding executions] at hrecord'
  obtain rfl : record' = record := Option.some.inj (hrecord'.symm.trans hrecord)
  rw [same, status]

/-! ## Both rows in every schedule -/

variable [DecidableEq ι]

theorem records_agree_run (c : Coordinator) (now : ι → DateTime) (req : ι → Request) (s : Store)
    (moves : List (Move ι)) (reg : c.Registered s.tables)
    (empty : ∀ slot, s.tables.row? c.settings.historyTable slot = none)
    (other : c.settings.scanHelperAttribute ≠ Attribute.remediationStatus)
    (apart : RecordsApart req) (updatesOnly : ∀ m ∈ moves, m.client?.isSome) :
    RecordsAgree c req ((updates c now req s).run moves).store.tables
        ((updates c now req s).run moves).turns ∧
      ∀ slot, FindingTells c req s.tables slot ((updates c now req s).run moves).store.tables
        ((updates c now req s).run moves).turns := by
  obtain ⟨-, -, h⟩ := updates_induction c now req s moves
    (P := fun _ t turns => RecordsAgree c req t turns ∧
      ∀ slot, FindingTells c req s.tables slot t turns) reg
    (by
      refine ⟨⟨?_, ?_, ?_⟩, fun slot => ⟨?_, ?_⟩⟩
      · intro slot u hu
        cases hu
      · intro slot last rest writes h
        cases h
      · intro slot present
        simp [empty] at present
      · intro last rest h
        cases h
      · simp [findingWrites])
    (by
      rintro stage t turns i call reply next reg valid ⟨agrees, tells⟩ step
      exact ⟨agrees.served apart reg other step, fun slot => (tells slot).served reg valid step⟩)
    (by
      rintro stage t turns i e call next - ⟨agrees, tells⟩ -
      exact ⟨agrees.refused i call e, fun slot => (tells slot).refused i call e⟩)
    (by
      intro stage t turns table key attributes hm
      simpa [Move.client?] using updatesOnly _ hm)
    (by
      intro stage t turns table key hm
      simpa [Move.client?] using updatesOnly _ hm)
  exact h

/-- **A finding and its record disagree only after a lost race.** Any updates run on a store with
both tables, whose history table was empty, and each of their calls may be refused. If the latest
write to a finding was a transaction, the finding shows its execution and its status, and the record
of that execution exists and shows the same status. So if a finding shows the execution of a request
`r` and the record of that execution shows another status, the latest write to the finding was an
update of the finding alone. The request `r` may be one of those that are applied or any other that
shares its record with no update of another finding. -/
theorem records_agree_unless_outrun (c : Coordinator) (now : ι → DateTime) (req : ι → Request)
    (s : Store) (moves : List (Move ι)) (reg : c.Registered s.tables)
    (empty : ∀ slot, s.tables.row? c.settings.historyTable slot = none)
    (other : c.settings.scanHelperAttribute ≠ Attribute.remediationStatus)
    (apart : RecordsApart req) (updatesOnly : ∀ m ∈ moves, m.client?.isSome) :
    let w := (updates c now req s).run moves
    (∀ slot last rest writes, c.findingWrites slot w.turns = last :: rest →
      last.call = .transact writes →
      (req last.client).findingSlot = slot ∧ InStep c w.store.tables (req last.client)) ∧
    ∀ r : Request,
      (∀ i, (req i).findingSlot ≠ r.findingSlot → (req i).historySlot ≠ r.historySlot) →
      ∀ row record, c.findingRow? w.store.tables r = some row →
        row.get? Attribute.executionId = some (.text r.executionId) →
        c.historyRow? w.store.tables r = some record →
        record.get? Attribute.remediationStatus ≠ row.get? Attribute.remediationStatus →
        ∃ last rest update, c.findingWrites r.findingSlot w.turns = last :: rest ∧
          last.call = .update update := by
  intro w
  obtain ⟨agrees, tells⟩ := records_agree_run c now req s moves reg empty other apart updatesOnly
  change RecordsAgree c req w.store.tables w.turns at agrees
  change ∀ slot, FindingTells c req s.tables slot w.store.tables w.turns at tells
  refine ⟨fun slot last rest writes => agrees.inStep (tells slot), ?_⟩
  intro r own row record hrow shows hrecord differ
  -- the record was written together with the finding, so the finding has a latest write
  have present : (w.store.tables.row? c.settings.historyTable r.historySlot).isSome :=
    Option.isSome_iff_exists.mpr ⟨record, hrecord⟩
  obtain ⟨i, hi, written⟩ := agrees.written r.historySlot present
  have hfinding : (req i).findingSlot = r.findingSlot := by
    by_contra different
    exact own i different hi
  rw [hfinding] at written
  obtain ⟨last, rest, hlast⟩ := List.exists_cons_of_ne_nil written
  rcases transact_or_update_of_wrote (hlast ▸ List.mem_cons_self) with
    ⟨writes, htransact⟩ | ⟨update, hupdate⟩
  · obtain ⟨finding, inStep⟩ := agrees.inStep (tells _) hlast htransact
    exact absurd (inStep.same_status finding hrow shows hrecord) differ
  · exact ⟨last, rest, update, hlast, hupdate⟩

/-- One update creates the record and the other one finds it. -/
theorem records_agree_of_pair :
    let w := (updates pairLedger (fun _ => newYear) pairRequest pairStore).run
      ([false, false, false, true].map .serve)
    InStep pairLedger w.store.tables (pairRequest true) := by
  have apart : RecordsApart pairRequest := by
    rintro (_ | _) (_ | _) different <;> exact absurd rfl different
  obtain ⟨agree, -⟩ := records_agree_unless_outrun pairLedger (fun _ => newYear) pairRequest
    pairStore ([false, false, false, true].map .serve) registered_pairStore (fun _ => rfl)
    (by decide) apart (by decide)
  obtain ⟨-, both⟩ := agree ⟨"EC2.1", "f1"⟩ _ _ _ rfl rfl
  exact both

-- Both are about to create the record when the first one does: the second one is left with the
-- finding alone.
example :
    let w := (updates pairLedger (fun _ => newYear) pairRequest pairStore).run
      ([false, true, false, true, false, true, true].map .serve)
    (w.store.tables.row? "findings" ⟨"EC2.1", "f1"⟩).bind (·.get? Attribute.remediationStatus) =
        some (.text "SUCCESS") ∧
      (w.store.tables.row? "history" ⟨"EC2.1", "f1#e1"⟩).bind
        (·.get? Attribute.remediationStatus) = some (.text "QUEUED") :=
  ⟨by decide +kernel, by decide +kernel⟩

end RemediationLedger.Coordinator

/-
A history record appears only together with its finding.

Between two calls of an update its finding may be removed and inserted again at
will, and what the update has read of it is out of date by the time the record
is created. The law rests on the second transaction alone: it puts the record on
condition that the finding exists, and updates the finding in the same step
(`Served.appeared`).

The statement is about every store. Where the two tables are not registered as
the protocol expects, every transaction of an update is refused as malformed,
which no stage takes for a conflict, so nothing is ever written
(`unregistered_turn`). `unrefused_induction` puts the two kinds of store
together.

## Statements

`record_appears_with_its_finding` is about any number of updates with any
insertions and removals between their calls, on any store, as long as no call is
refused in the store's place. Its first half is about one turn: if a record
appears in it, the turn is that of an update of this very record, it found the
finding, and it left the finding with the status and the execution of the
request. The second half is about a state: where no record was there at the
start, nobody inserts one and no finding is removed, every record names a
finding that exists.

The second half follows from the first by induction on the schedule
(`hasFinding_run`), since between the turns findings can only come. It reads the
finding's id off the record's key, up to the `#` with which the update joined
it; an id may contain that character itself, so there is some such division and
not a certain one.
-/
import RemediationLedger.Proofs.Updates

namespace RemediationLedger.Coordinator

variable {ι : Type} {c : Coordinator}

/-! ## Stores without the two tables -/

/-- Without both tables the update of both rows is refused, and not for a condition. -/
theorem transact_pairUpdate_of_unregistered {t : Tables} (unregistered : ¬c.Registered t)
    (r : Request) : ∃ e, t.transact (c.pairUpdate r) = (.error e, t) ∧ e.reasons? = none := by
  have nonempty : c.pairUpdate r ≠ [] := by simp [pairUpdate]
  cases targets : t.checkTargets [] (c.pairUpdate r) with
  | error e =>
    refine ⟨e, ?_, Tables.reasons?_of_checkTargets targets⟩
    rw [Tables.transact_eq, if_neg nonempty, targets]
  | ok =>
    have sound := Tables.sound_of_checkTargets targets
    refine absurd ⟨?_, ?_⟩ unregistered
    · simpa [Write.table, Write.key] using
        sound (.update (c.findingUpdate r (some .keyExists))) (by simp [pairUpdate])
    · simpa [Write.table, Write.key] using
        sound (.update (History.updateFor c.settings r)) (by simp [pairUpdate])

/-- Without both tables an update ends with its first call and writes nothing. -/
theorem unregistered_turn {now : DateTime} {r : Request} {s s' : Store} {call : Call}
    {reply : call.Reply} {next : Stage} (unregistered : ¬c.Registered s.tables)
    (step : Transition c now r .pairing call reply next) (answered : s.answer call = (reply, s')) :
    call.committed reply = false ∧ s'.tables = s.tables ∧ ∃ result, next = .ended result := by
  have refused : ∀ {reply' : Except StoreError Unit},
      s.answer (.transact (c.pairUpdate r)) = (reply', s') →
      ∃ e, reply' = .error e ∧ e.reasons? = none ∧ s'.tables = s.tables := by
    intro reply' answered
    obtain ⟨e, refused, alien⟩ := transact_pairUpdate_of_unregistered unregistered r
    rw [Store.answer, Store.transact_of_tables refused] at answered
    cases answered
    exact ⟨e, rfl, alien, rfl⟩
  cases step with
  | paired =>
    obtain ⟨e, h, -⟩ := refused answered
    cases h
  | findingMissing conflict | historyMissing conflict =>
    obtain ⟨e, h, alien, -⟩ := refused answered
    cases h
    simp [Conflict.afterUpdateUpdate, alien] at conflict
  | pairingFault =>
    obtain ⟨e, -, -, same⟩ := refused answered
    exact ⟨rfl, same, _, rfl⟩

variable [DecidableEq ι] {now : ι → DateTime} {req : ι → Request}

/-- A property of tables and turns that holds at the start holds after every schedule without
refusals, on any store, if it is kept by the steps of updates on stores with both tables, by turns
that commit nothing, and by insertions and removals. -/
theorem unrefused_induction (c : Coordinator) (now : ι → DateTime) (req : ι → Request) (s : Store)
    (moves : List (Move ι)) {P : Tables → List (Turn ι) → Prop}
    (unrefused : ∀ i e, Move.refuse i e ∉ moves) (start : P s.tables [])
    (served : ∀ {t turns i stage call} {reply : call.Reply} {next}, c.Registered t →
      (req i).isValid = true → P t turns → Served c (now i) (req i) t stage call reply next →
      P ((call.carriedOut reply).foldl Tables.write t)
        (⟨i, call, reply, t, (call.carriedOut reply).foldl Tables.write t⟩ :: turns))
    (idle : ∀ {t turns i call} {reply : call.Reply}, call.committed reply = false → P t turns →
      P t (⟨i, call, reply, t, t⟩ :: turns))
    (inserted : ∀ {t turns table key attributes}, .insert table key attributes ∈ moves →
      t.names? table = some key.names → P t turns →
      P (t.setRow table key.slot (key.stamp attributes)) turns)
    (removed : ∀ {t turns table key}, .remove table key ∈ moves → P t turns →
      P (t.dropRow table key.slot) turns) :
    P ((updates c now req s).run moves).store.tables ((updates c now req s).run moves).turns := by
  by_cases reg : c.Registered s.tables
  · obtain ⟨-, -, h⟩ := updates_induction c now req s moves (P := fun _ t turns => P t turns) reg
      start (fun reg valid h step => served reg valid h step)
      (fun hm => absurd hm (unrefused _ _)) inserted removed
    exact h
  · -- no update gets past its first call
    suffices h : ¬c.Registered ((updates c now req s).run moves).store.tables ∧
        (∀ i, Stands c (now i) (req i) .pairing (((updates c now req s).run moves).pending i) ∨
          ∃ result, ((updates c now req s).run moves).pending i = .done result) ∧
        P ((updates c now req s).run moves).store.tables ((updates c now req s).run moves).turns from
      h.2.2
    refine World.run_induction
      (P := fun w => ¬c.Registered w.store.tables ∧
        (∀ i, Stands c (now i) (req i) .pairing (w.pending i) ∨
          ∃ result, w.pending i = .done result) ∧ P w.store.tables w.turns) ⟨reg, ?_, start⟩ ?_
    · intro i
      rcases stands_apply c (now i) (req i) with ⟨-, stands⟩ | ⟨-, stands⟩
      · exact .inl stands
      · exact .inr ⟨_, stands.of_ended⟩
    rintro w m w' hm ⟨unregistered, first, h⟩ effect
    refine ⟨fun reg => unregistered (reg.of_names?_eq fun table => (effect.names?_eq table).symm), ?_⟩
    cases effect with
    | idle => exact ⟨first, h⟩
    | @served i call cont reply s' pending answered =>
      have here := (first i).resolve_right (by rintro ⟨result, ended⟩; simp [pending] at ended)
      rw [pending] at here
      obtain ⟨next, step, there⟩ := here.reply reply
      obtain ⟨nothing, same, result, rfl⟩ := unregistered_turn unregistered step answered
      refine ⟨fun j => ?_, ?_⟩
      · by_cases hj : j = i
        · subst hj
          exact .inr ⟨result, by rw [World.pending_afterTurn_self, there.of_ended]⟩
        · rw [World.pending_afterTurn_of_ne w hj]
          exact first j
      · simp only [World.afterTurn, same]
        exact idle nothing h
    | refused => exact absurd hm (unrefused _ _)
    | inserted =>
      exact ⟨first, Store.insert_kept (P := fun t => P t w.turns) h
        fun sound => inserted hm sound h⟩
    | removed =>
      exact ⟨first, Store.remove_kept (P := fun t => P t w.turns) h (removed hm h)⟩

/-! ## Records that appear -/

/-- A step in which a record appears is a step of an update of that record. It finds the finding and
leaves it with the status and the execution of the request. -/
theorem Served.appeared {now : DateTime} {r : Request} {t : Tables} {stage next : Stage}
    {call : Call} {reply : call.Reply} (step : Served c now r t stage call reply next)
    (reg : c.Registered t) (valid : r.isValid = true) {slot : Slot}
    (absent : t.row? c.settings.historyTable slot = none)
    (appears : (((call.carriedOut reply).foldl Tables.write t).row?
      c.settings.historyTable slot).isSome) :
    slot = r.historySlot ∧ (c.findingRow? t r).isSome ∧
      ∃ row, c.findingRow? ((call.carriedOut reply).foldl Tables.write t) r = some row ∧
        row.get? Attribute.remediationStatus = some (.text r.remediationStatus) ∧
        row.get? Attribute.executionId = some (.text r.executionId) := by
  have found : slot = r.historySlot ∧ (c.findingRow? t r).isSome ∧ call.committed reply = true := by
    cases step with
    | paired finding history =>
      simp only [Call.carriedOut, Call.committed, if_true, Call.writes,
        reg.historyRow_pairUpdate] at appears
      split at appears
      · rename_i own; exact ⟨own, finding, rfl⟩
      · simp [absent] at appears
    | created built finding history =>
      simp only [Call.carriedOut, Call.committed, if_true, Call.writes,
        reg.historyRow_creation built] at appears
      split at appears
      · rename_i own; exact ⟨own, finding, rfl⟩
      · simp [absent] at appears
    | fellBack =>
      -- the update of the finding alone has no condition, but it leaves the history as it is
      have unchanged := reg.historyRow_findingUpdate r slot
      simp [Call.carriedOut, Call.committed, Call.writes, unchanged, absent] at appears
    | findingMissing | historyMissing | built | notBuilt | outrun =>
      simp [Call.carriedOut, Call.committed, absent] at appears
  obtain ⟨own, finding, committed⟩ := found
  have row := step.findingRow_after reg r.findingSlot
  rw [if_pos ⟨committed, rfl⟩] at row
  exact ⟨own, finding, _, row, findingResult_status .., findingResult_execution c valid ..⟩

/-- The sort value of a slot in the history table names a finding that exists, and an execution. -/
def HasFinding (c : Coordinator) (t : Tables) (slot : Slot) : Prop :=
  ∃ findingId executionId, executionId ≠ "" ∧ slot.sort = findingId ++ "#" ++ executionId ∧
    (t.row? c.settings.findingsTable ⟨slot.partition, findingId⟩).isSome

/-- Where findings stay, records keep theirs. -/
theorem HasFinding.mono {t t' : Tables} {slot : Slot} (h : c.HasFinding t slot)
    (stay : ∀ at', (t.row? c.settings.findingsTable at').isSome →
      (t'.row? c.settings.findingsTable at').isSome) : c.HasFinding t' slot := by
  obtain ⟨findingId, executionId, given, joined, present⟩ := h
  exact ⟨findingId, executionId, given, joined, stay _ present⟩

/-- The record of a valid request has a finding as soon as the request has one. -/
theorem hasFinding_historySlot {r : Request} {t : Tables} (valid : r.isValid = true)
    (finding : (c.findingRow? t r).isSome) : c.HasFinding t r.historySlot := by
  refine ⟨r.findingId, r.executionId, fun blank => ?_, rfl, finding⟩
  have given := Request.executionId_of_isValid valid
  rw [blank] at given
  exact absurd given (by decide)

/-- Each step of an update keeps the records with their findings. -/
theorem HasFinding.served {now : DateTime} {r : Request} {t : Tables} {stage next : Stage}
    {call : Call} {reply : call.Reply}
    (h : ∀ slot, (t.row? c.settings.historyTable slot).isSome → c.HasFinding t slot)
    (reg : c.Registered t) (valid : r.isValid = true)
    (step : Served c now r t stage call reply next) {slot : Slot}
    (present : (((call.carriedOut reply).foldl Tables.write t).row?
      c.settings.historyTable slot).isSome) :
    c.HasFinding ((call.carriedOut reply).foldl Tables.write t) slot := by
  by_cases before : (t.row? c.settings.historyTable slot).isSome
  · exact (h slot before).mono fun _ => step.finding_stays reg
  · obtain ⟨rfl, -, row, hrow, -⟩ := step.appeared reg valid (by simpa using before) present
    exact hasFinding_historySlot valid (by rw [hrow]; rfl)

/-- If a turn makes a record appear, it is that of its own request, and it finds the finding and
leaves it with the status and the execution of the request. -/
def AppearsWithFinding (c : Coordinator) (req : ι → Request) (u : Turn ι) : Prop :=
  ∀ slot, u.before.row? c.settings.historyTable slot = none →
    (u.after.row? c.settings.historyTable slot).isSome →
      slot = (req u.client).historySlot ∧ (c.findingRow? u.before (req u.client)).isSome ∧
      ∃ row, c.findingRow? u.after (req u.client) = some row ∧
        row.get? Attribute.remediationStatus = some (.text (req u.client).remediationStatus) ∧
        row.get? Attribute.executionId = some (.text (req u.client).executionId)

/-- Whatever is inserted and removed in between, every turn of every run is like that. -/
theorem appearsWithFinding_run (c : Coordinator) (now : ι → DateTime) (req : ι → Request)
    (s : Store) (moves : List (Move ι)) (unrefused : ∀ i e, Move.refuse i e ∉ moves) :
    ∀ u ∈ ((updates c now req s).run moves).turns, AppearsWithFinding c req u := by
  refine unrefused_induction c now req s moves
    (P := fun _ turns => ∀ u ∈ turns, AppearsWithFinding c req u) unrefused ?_ ?_ ?_
    (fun _ _ h => h) (fun _ h => h)
  · intro u hu
    cases hu
  · intro t turns i stage call reply next reg valid h step u hu
    rcases List.mem_cons.mp hu with rfl | hu
    · exact fun slot absent appears => step.appeared reg valid absent appears
    · exact h u hu
  · intro t turns i call reply nothing h u hu
    rcases List.mem_cons.mp hu with rfl | hu
    · intro slot absent appears
      rw [absent] at appears
      cases appears
    · exact h u hu

/-- Where others insert no records and no finding is removed, every record has its finding. -/
theorem hasFinding_run (c : Coordinator) (now : ι → DateTime) (req : ι → Request) (s : Store)
    (moves : List (Move ι)) (unrefused : ∀ i e, Move.refuse i e ∉ moves)
    (empty : ∀ slot, s.tables.row? c.settings.historyTable slot = none)
    (insertsElsewhere : ∀ table key attributes, Move.insert table key attributes ∈ moves →
      table ≠ c.settings.historyTable)
    (findingsStay : ∀ table key, Move.remove table key ∈ moves →
      table ≠ c.settings.findingsTable) :
    ∀ slot, (((updates c now req s).run moves).store.tables.row?
        c.settings.historyTable slot).isSome →
      c.HasFinding ((updates c now req s).run moves).store.tables slot := by
  refine unrefused_induction c now req s moves
    (P := fun t _ => ∀ slot, (t.row? c.settings.historyTable slot).isSome → c.HasFinding t slot)
    unrefused ?_ ?_ (fun _ h => h) ?_ ?_
  · intro slot present
    simp [empty] at present
  · intro t turns i stage call reply next reg valid h step slot
    exact HasFinding.served h reg valid step
  · intro t turns table key attributes hm sound h slot present
    have known : (t.names? table).isSome := by rw [sound]; rfl
    rw [Tables.row?_setRow known, if_neg] at present
    · refine (h slot present).mono fun at' there => ?_
      rw [Tables.row?_setRow known]
      split
      · rfl
      · exact there
    · rintro ⟨same, -⟩
      exact insertsElsewhere _ _ _ hm same.symm
  · intro t turns table key hm h slot present
    rw [Tables.row?_dropRow] at present
    split at present
    · cases present
    · refine (h slot present).mono fun at' there => ?_
      rw [Tables.row?_dropRow, if_neg]
      · exact there
      · rintro ⟨same, -⟩
        exact findingsStay _ _ hm same.symm

/-- **A record appears only together with its finding.** Any updates run on any store among arbitrary
insertions and removals, and none of their calls is refused. If a turn makes a row of the history
table appear, it is that of the turn's own request; the finding of the request existed just before,
and has the status and the execution of the request afterwards. So if the history table was empty,
others insert nothing into it and no finding is removed, then at any time the sort value of each row
of the history table is the id of an existing finding, joined with an execution. -/
theorem record_appears_with_its_finding (c : Coordinator) (now : ι → DateTime)
    (req : ι → Request) (s : Store) (moves : List (Move ι))
    (unrefused : ∀ i e, Move.refuse i e ∉ moves) :
    let w := (updates c now req s).run moves
    (∀ u ∈ w.turns, ∀ slot, u.before.row? c.settings.historyTable slot = none →
      (u.after.row? c.settings.historyTable slot).isSome →
        slot = (req u.client).historySlot ∧ (c.findingRow? u.before (req u.client)).isSome ∧
        ∃ row, c.findingRow? u.after (req u.client) = some row ∧
          row.get? Attribute.remediationStatus =
            some (.text (req u.client).remediationStatus) ∧
          row.get? Attribute.executionId = some (.text (req u.client).executionId)) ∧
    ((∀ slot, s.tables.row? c.settings.historyTable slot = none) →
      (∀ table key attributes, Move.insert table key attributes ∈ moves →
        table ≠ c.settings.historyTable) →
      (∀ table key, Move.remove table key ∈ moves → table ≠ c.settings.findingsTable) →
      ∀ slot, (w.store.tables.row? c.settings.historyTable slot).isSome →
        ∃ findingId executionId, executionId ≠ "" ∧
          slot.sort = findingId ++ "#" ++ executionId ∧
          (w.store.tables.row? c.settings.findingsTable ⟨slot.partition, findingId⟩).isSome) :=
  ⟨appearsWithFinding_run c now req s moves unrefused, hasFinding_run c now req s moves unrefused⟩

/-- The finding is written to and the record, not there yet, is removed while an update is about to
create it. -/
theorem record_appears_with_finding_of_pair :
    let w := (updates pairLedger (fun _ => newYear) pairRequest pairStore).run
      [.serve false, .serve false, .insert "findings" (Finding.key "EC2.1" "f1") .empty,
        .remove "history" (History.key (pairRequest false)), .serve false, .serve true]
    (∃ u ∈ w.turns, u.before.row? "history" ⟨"EC2.1", "f1#e1"⟩ = none ∧
      (u.after.row? "history" ⟨"EC2.1", "f1#e1"⟩).isSome ∧
      (pairLedger.findingRow? u.before (pairRequest u.client)).isSome) ∧
    ∃ findingId executionId, executionId ≠ "" ∧ "f1#e1" = findingId ++ "#" ++ executionId ∧
      (w.store.tables.row? "findings" ⟨"EC2.1", findingId⟩).isSome := by
  intro w
  obtain ⟨appears, stays⟩ := record_appears_with_its_finding pairLedger (fun _ => newYear)
    pairRequest pairStore
    [.serve false, .serve false, .insert "findings" (Finding.key "EC2.1" "f1") .empty,
      .remove "history" (History.key (pairRequest false)), .serve false, .serve true] (by simp)
  have creating : w.turns[1] ∈ w.turns := List.getElem_mem _
  have absent : w.turns[1].before.row? "history" ⟨"EC2.1", "f1#e1"⟩ = none := by decide +kernel
  have present : (w.turns[1].after.row? "history" ⟨"EC2.1", "f1#e1"⟩).isSome := by decide +kernel
  obtain ⟨-, finding, -⟩ := appears _ creating _ absent present
  refine ⟨⟨_, creating, absent, present, finding⟩, ?_⟩
  refine stays (fun _ => rfl) ?_ ?_ ⟨"EC2.1", "f1#e1"⟩ (by decide +kernel)
  · intro table key attributes inserted
    obtain ⟨rfl, -⟩ : table = "findings" ∧ _ ∧ _ := by simpa using inserted
    decide
  · intro table key removed
    obtain ⟨rfl, -⟩ : table = "history" ∧ _ := by simpa using removed
    decide

end RemediationLedger.Coordinator

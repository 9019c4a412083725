/-
No status is lost on a finding.

An update reaches its finding along one of three ways, and which one is decided
by the race. All three make the same assignments, so the row of a finding can be
told from the committed writes to it alone: the latest of them has set the
status and the execution, and the latest that had an error has set the error
(`FindingTells`). The invariant needs no assumption on the requests beyond their
being valid.

That every update comes to such a write is a statement about undisturbed
updates: of findings that are there, with expiries that can be computed. There
is one exception, and the theorem says exactly when it occurs. An update whose
clock has no UTC form breaks off once it has read its finding.

## How the proof goes

`FindingTells` is kept by the two kinds of turns an update can have
(`FindingTells.served`, `FindingTells.refused`), and `SuccessWrote` by the end
of each update (`SuccessWrote.served`); `findings_tell` carries both through all
schedules in which only updates write. Neither looks at the other updates: what
they have done is in the list of writes.

`no_status_is_lost` then has four parts: every update ends after four turns at
most; it ends well, or it breaks off, and it breaks off exactly if it came to
read its finding and its clock has no UTC form; the finding always shows the
status and the execution of its latest writer; and it shows the latest error
that was written, if one was. The last two hold at any moment and not only at
the end.

A single update is enough for the exception
(`update_without_utc_form_breaks_off`): on the first day of the year -9999, on a
clock ahead of UTC, its status is lost although the expiry could be computed.
-/
import RemediationLedger.Proofs.Updates

namespace RemediationLedger.Coordinator

variable {ι : Type} {c : Coordinator}

/-! ## The writes to a finding -/

def findingWrites (c : Coordinator) (slot : Slot) (turns : List (Turn ι)) : List (Turn ι) :=
  turns.filter fun t => t.wrote c.settings.findingsTable slot

/-- Every committed call of an update writes to its finding and to no other. -/
theorem Served.wrote_finding {now : DateTime} {r : Request} {t : Tables} {stage next : Stage}
    {call : Call} {reply : call.Reply} (step : Served c now r t stage call reply next)
    (reg : c.Registered t) (i : ι) (after : Tables) (slot : Slot) :
    (Turn.mk i call reply t after).wrote c.settings.findingsTable slot = true ↔
      call.committed reply = true ∧ slot = r.findingSlot := by
  have apart := reg.tables_ne
  cases step with
  | created built =>
    obtain ⟨htable, -⟩ := createFor_eq_ok built
    simp [Turn.wrote, Turn.committed, Call.committed, Call.writes, creation, Write.table,
      Write.key, htable, apart, eq_comm (a := slot)]
  | paired | fellBack =>
    simp [Turn.wrote, Turn.committed, Call.committed, Call.writes, pairUpdate, Write.table,
      Write.key, apart, eq_comm (a := slot)]
  | findingMissing | historyMissing | built | notBuilt | outrun =>
    simp [Turn.wrote, Turn.committed, Call.committed]

theorem Served.findingWrites_cons {now : DateTime} {r : Request} {t : Tables}
    {stage next : Stage} {call : Call} {reply : call.Reply}
    (step : Served c now r t stage call reply next) (reg : c.Registered t) (i : ι)
    (after : Tables) (slot : Slot) (turns : List (Turn ι)) :
    c.findingWrites slot (⟨i, call, reply, t, after⟩ :: turns) =
      if call.committed reply = true ∧ slot = r.findingSlot then
        ⟨i, call, reply, t, after⟩ :: c.findingWrites slot turns
      else c.findingWrites slot turns := by
  have wrote := step.wrote_finding reg i after slot
  rw [findingWrites, List.filter_cons]
  by_cases here : call.committed reply = true ∧ slot = r.findingSlot
  · rw [if_pos (wrote.mpr here), if_pos here]; rfl
  · rw [if_neg (mt wrote.mp here), if_neg here]; rfl

@[simp] theorem findingWrites_refused (c : Coordinator) (slot : Slot) (i : ι) (call : Call)
    (e : StoreError) (before after : Tables) (turns : List (Turn ι)) :
    c.findingWrites slot (⟨i, call, call.refusal e, before, after⟩ :: turns) =
      c.findingWrites slot turns := by
  simp [findingWrites, Turn.wrote, Turn.committed]

/-- What the row of a finding tells, going by the committed writes to it since the tables were
`origin`: the status and the execution are those of the latest write, the error is the latest that
was written. -/
structure FindingTells (c : Coordinator) (req : ι → Request) (origin : Tables) (slot : Slot)
    (t : Tables) (turns : List (Turn ι)) : Prop where
  latest : ∀ last rest, c.findingWrites slot turns = last :: rest →
    ∃ row, t.row? c.settings.findingsTable slot = some row ∧
      row.get? Attribute.remediationStatus = some (.text (req last.client).remediationStatus) ∧
      row.get? Attribute.executionId = some (.text (req last.client).executionId)
  error : ((t.row? c.settings.findingsTable slot).bind fun row => row.get? Attribute.error) =
    (((c.findingWrites slot turns).findSome? fun u => (req u.client).newError?).map Value.text).or
      ((origin.row? c.settings.findingsTable slot).bind fun row => row.get? Attribute.error)

/-- Each step keeps the row in line with the writes. -/
theorem FindingTells.served {req : ι → Request} {now : DateTime} {i : ι} {origin t : Tables}
    {slot : Slot} {turns : List (Turn ι)} {stage next : Stage} {call : Call} {reply : call.Reply}
    (tells : FindingTells c req origin slot t turns) (reg : c.Registered t)
    (valid : (req i).isValid = true) (step : Served c now (req i) t stage call reply next) :
    FindingTells c req origin slot ((call.carriedOut reply).foldl Tables.write t)
      (⟨i, call, reply, t, (call.carriedOut reply).foldl Tables.write t⟩ :: turns) := by
  have writes := step.findingWrites_cons reg i ((call.carriedOut reply).foldl Tables.write t) slot
    turns
  have row := step.findingRow_after reg slot
  by_cases here : call.committed reply = true ∧ slot = (req i).findingSlot
  · rw [if_pos here] at writes row
    constructor
    · intro last rest h
      rw [writes] at h
      cases h
      exact ⟨_, row, findingResult_status .., findingResult_execution c valid ..⟩
    · have old : c.findingRow? t (req i) = t.row? c.settings.findingsTable slot := by
        rw [here.2]; rfl
      rw [row, writes, Option.bind_some, findingResult_error, old, tells.error,
        List.findSome?_cons]
      cases (req i).newError? with
      | none => rfl
      | some e => rfl
  · rw [if_neg here] at writes row
    constructor
    · intro last rest h
      rw [writes] at h
      rw [row]
      exact tells.latest last rest h
    · rw [row, writes]
      exact tells.error

/-- A refused turn changes neither the row nor its writes. -/
theorem FindingTells.refused {req : ι → Request} {origin t : Tables} {slot : Slot}
    {turns : List (Turn ι)} (tells : FindingTells c req origin slot t turns) (i : ι) (call : Call)
    (e : StoreError) :
    FindingTells c req origin slot t (⟨i, call, call.refusal e, t, t⟩ :: turns) := by
  constructor
  · rw [findingWrites_refused]; exact tells.latest
  · rw [findingWrites_refused]; exact tells.error

/-! ## Updates that succeed have written -/

/-- Every update that reports success has committed a write to its finding. -/
def SuccessWrote (c : Coordinator) (req : ι → Request) (stage : ι → Stage)
    (turns : List (Turn ι)) : Prop :=
  ∀ i outcome, stage i = .ended (.ok outcome) → outcome ≠ .skipped →
    ∃ u ∈ c.findingWrites (req i).findingSlot turns, u.client = i

theorem Served.committed_of_ok {now : DateTime} {r : Request} {t : Tables} {stage next : Stage}
    {call : Call} {reply : call.Reply} (step : Served c now r t stage call reply next)
    {outcome : Outcome} (ending : next = .ended (.ok outcome)) : call.committed reply = true := by
  cases step with
  | paired | created | fellBack => rfl
  | findingMissing | historyMissing | built | notBuilt | outrun => simp at ending

variable [DecidableEq ι] {now : ι → DateTime} {req : ι → Request}

theorem SuccessWrote.served {stage : ι → Stage} {next : Stage} {t : Tables}
    {turns : List (Turn ι)} {i : ι} {call : Call} {reply : call.Reply} {after : Tables}
    (success : SuccessWrote c req stage turns) (reg : c.Registered t)
    (step : Served c (now i) (req i) t (stage i) call reply next) :
    SuccessWrote c req (Function.update stage i next) (⟨i, call, reply, t, after⟩ :: turns) := by
  intro j outcome ending written
  by_cases hj : j = i
  · subst hj
    rw [Function.update_self] at ending
    have wrote := (step.wrote_finding reg j after _).mpr
      ⟨step.committed_of_ok ending, rfl⟩
    exact ⟨_, List.mem_filter.mpr ⟨List.mem_cons_self, wrote⟩, rfl⟩
  · rw [Function.update_of_ne hj] at ending
    obtain ⟨u, hu, client⟩ := success j outcome ending written
    obtain ⟨mem, wrote⟩ := List.mem_filter.mp hu
    exact ⟨u, List.mem_filter.mpr ⟨List.mem_cons_of_mem _ mem, wrote⟩, client⟩

/-- Where only updates write, every finding tells its writes and every success is among them. -/
theorem findings_tell (c : Coordinator) (now : ι → DateTime) (req : ι → Request) (s : Store)
    (schedule : List ι) (reg : c.Registered s.tables) (valid : ∀ i, (req i).isValid = true) :
    ∃ stage,
      (∀ i, Stands c (now i) (req i) (stage i)
        (((updates c now req s).run (schedule.map .serve)).pending i)) ∧
      SuccessWrote c req stage ((updates c now req s).run (schedule.map .serve)).turns ∧
      ∀ slot, FindingTells c req s.tables slot
        ((updates c now req s).run (schedule.map .serve)).store.tables
        ((updates c now req s).run (schedule.map .serve)).turns := by
  refine updates_induction c now req s (schedule.map .serve)
    (P := fun stage t turns => SuccessWrote c req stage turns ∧
      ∀ slot, FindingTells c req s.tables slot t turns) reg ?_ ?_ ?_ ?_ ?_
  · refine ⟨?_, fun slot => ⟨?_, ?_⟩⟩
    · intro i outcome first
      simp [Stage.first, valid i] at first
    · intro last rest h
      cases h
    · simp [findingWrites]
  · rintro stage t turns i call reply next reg valid ⟨success, tells⟩ step
    exact ⟨success.served reg step, fun slot => (tells slot).served reg valid step⟩
  · intro stage t turns i e call next hm
    simp at hm
  · intro stage t turns table key attributes hm
    simp at hm
  · intro stage t turns table key hm
    simp at hm

/-- **No status is lost on a finding.** Any updates of valid requests run on a store with both
tables, in any order of their calls; their findings exist and their expiries can be computed. Each
update ends within four turns, and if it succeeds it has committed a write to its finding. It fails
exactly if it has to read its finding and its clock has no UTC form, and then it breaks off. At any
moment, a finding that was written to has the status and the execution of the latest write, and the
error of the latest write that had one, or else its original error. -/
theorem no_status_is_lost (c : Coordinator) (now : ι → DateTime) (req : ι → Request) (s : Store)
    (schedule : List ι) (reg : c.Registered s.tables) (valid : ∀ i, (req i).isValid = true)
    (present : Present c req s.tables)
    (computable : ∀ i, ∃ moment,
      Retention.expireAt (now i) c.settings.historyTtlDays = .ok moment) :
    let w := (updates c now req s).run (schedule.map .serve)
    (∀ i, 4 ≤ schedule.count i → (w.result? i).isSome) ∧
    (∀ i result, w.result? i = some result →
      result = .ok .updatedExisting ∨ result = .ok .createdHistory ∨ result = .ok .findingOnly ∨
        result = .error (.noUtcForm (now i))) ∧
    (∀ i, w.result? i = some (.error (.noUtcForm (now i))) ↔
      (now i).timestamp? = none ∧ Called w.turns i (c.readCall (req i))) ∧
    (∀ i outcome, w.result? i = some (.ok outcome) →
      ∃ u ∈ c.findingWrites (req i).findingSlot w.turns, u.client = i) ∧
    ∀ slot last rest, c.findingWrites slot w.turns = last :: rest →
      ∃ row, w.store.tables.row? c.settings.findingsTable slot = some row ∧
        row.get? Attribute.remediationStatus =
          some (.text (req last.client).remediationStatus) ∧
        row.get? Attribute.executionId = some (.text (req last.client).executionId) ∧
        row.get? Attribute.error =
          (((last :: rest).findSome? fun u => (req u.client).newError?).map Value.text).or
            ((s.tables.row? c.settings.findingsTable slot).bind
              fun original => original.get? Attribute.error) := by
  intro w
  have spares : ∀ m ∈ schedule.map Move.serve, Spares c req m := by
    intro m hm
    obtain ⟨i, -, rfl⟩ := List.mem_map.mp hm
    trivial
  obtain ⟨stage, stands, success, tells⟩ :=
    findings_tell c now req s schedule reg valid
  obtain ⟨stage', stands', course⟩ := course_run c now req s _ reg valid present computable spares
  change ∀ i, Stands c (now i) (req i) (stage i) (w.pending i) at stands
  change ∀ i, Stands c (now i) (req i) (stage' i) (w.pending i) at stands'
  refine ⟨?_, ?_, ?_, ?_, ?_⟩
  · intro i often
    refine ends_after_four_turns (stands_first c (now i) (req i)) _ ?_
    rw [countP_serve]
    refine Nat.le_trans ?_ often
    simp [Stage.first, valid i, Stage.callsLeft]
  · exact fun i result ended => (course i).result (stands' i) ended
  · exact fun i => (course i).broke_off_iff (stands' i)
  · intro i outcome ended
    refine success i outcome ((stands i).result?_eq_some.mp ended) ?_
    rintro rfl
    have := (course i).result (stands' i) ended
    simp at this
  · intro slot last rest writes
    obtain ⟨row, hrow, status, execution⟩ := (tells slot).latest last rest writes
    refine ⟨row, hrow, status, execution, ?_⟩
    have error := (tells slot).error
    rw [writes] at error
    change ((w.store.tables.row? _ _).bind _) = _ at error
    rw [hrow] at error
    exact error

/-- Two updates race for their record; the second one is late and falls back. -/
theorem no_status_is_lost_of_pair :
    let w := (updates pairLedger (fun _ => newYear) pairRequest pairStore).run
      ([false, true, false, true, false, true, true].map .serve)
    ∃ row, w.store.tables.row? "findings" ⟨"EC2.1", "f1"⟩ = some row ∧
      row.get? Attribute.remediationStatus = some (.text "SUCCESS") ∧
      row.get? Attribute.executionId = some (.text "e1") ∧
      row.get? Attribute.error = none := by
  obtain ⟨-, -, -, -, tells⟩ := no_status_is_lost pairLedger (fun _ => newYear) pairRequest
    pairStore [false, true, false, true, false, true, true] registered_pairStore
    isValid_pairRequest present_pairRequest fun _ => ⟨_, rfl⟩
  exact tells ⟨"EC2.1", "f1"⟩ _ _ rfl

/-- On the first day of the first year the date in UTC can be one that does not exist, although the
expiry does. -/
theorem update_without_utc_form_breaks_off :
    let w := (updates pairLedger (fun _ => firstMoment) pairRequest pairStore).run
      ([false, false, false, false].map .serve)
    pairLedger.Registered pairStore.tables ∧ (∀ i, (pairRequest i).isValid = true) ∧
      Present pairLedger pairRequest pairStore.tables ∧
      (∃ moment, Retention.expireAt firstMoment pairLedger.settings.historyTtlDays = .ok moment) ∧
      w.result? false = some (.error (.noUtcForm firstMoment)) ∧
      w.store.tables = pairStore.tables :=
  ⟨registered_pairStore, isValid_pairRequest, present_pairRequest, ⟨_, rfl⟩, rfl,
    by decide +kernel⟩

end RemediationLedger.Coordinator

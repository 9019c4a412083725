/-
Many updates of one store.

Every client of the world is now an update, with its own clock and its own
request. As long as both tables are registered, the whole world is then
described by the stage of each client, the tables and the turns so far, and a
schedule is a sequence of steps of the automaton `Served`, one client at a time.
`updates_induction` is this view: a property of stages, tables and turns that
the start has and every step keeps holds at the end of every schedule. The
theorems about races are proved by it and never look at a program.

Two facts hold of every race. An update ends after at most four turns of its own
(`ends_after_four_turns`). And where the findings exist and expiries can be
computed, an update that has ended has succeeded, unless it had to create a
record with a clock that has no UTC form (`course_run`).

* `Present` and `Spares` are the assumptions of undisturbed updates: the
  findings are there, and no move takes one away or touches the history table.
* `spared_induction` is the induction for such schedules, with less to show in
  each step because most ways on are excluded.
* `Course` is what is known of an undisturbed update at each stage, and whether
  it has read its finding. The clock comes in at one place, the way from the
  reading to the record.

The last section has two updates of one finding, with a store, requests and
clocks. Several modules show by them that their assumptions can be met. The two
differ in the status only, and so they race for one record.
-/
import RemediationLedger.Proofs.WrittenRows

namespace RemediationLedger.Coordinator

/-! ## Four turns at most -/

/-- How many calls an update has left at most. -/
def Stage.callsLeft : Stage → Nat
  | .pairing => 4
  | .reading => 3
  | .creating _ => 2
  | .fallingBack => 1
  | .ended _ => 0

theorem callsLeft_transition {c : Coordinator} {now : DateTime} {r : Request}
    {stage next : Stage} {call : Call} {reply : call.Reply}
    (step : Transition c now r stage call reply next) : next.callsLeft < stage.callsLeft := by
  cases step <;> simp [Stage.callsLeft]

section Ending

variable {ι : Type} [DecidableEq ι] {c : Coordinator} {now : DateTime} {r : Request}

/-- A move takes an update one call further if it is its turn, and else leaves it where it is. -/
theorem callsLeft_effect {w w' : World ι (Except Failure Outcome)} {m : Move ι} {i : ι}
    {stage : Stage} (stands : Stands c now r stage (w.pending i)) (effect : w.Effect m w') :
    ∃ next, Stands c now r next (w'.pending i) ∧
      next.callsLeft ≤ stage.callsLeft - if m.client? = some i then 1 else 0 := by
  rcases effect.own_or_elsewhere i with
    ⟨call, cont, reply, s, pending, rfl, -⟩ | ⟨idle, same, -⟩
  · rw [pending] at stands
    obtain ⟨next, step, stands'⟩ := stands.reply reply
    rw [World.pending_afterTurn_self]
    refine ⟨next, stands', ?_⟩
    have := callsLeft_transition step
    split
    · omega
    · omega
  · rw [same]
    refine ⟨stage, stands, ?_⟩
    by_cases own : m.client? = some i
    · -- its turn has come, but it has ended
      obtain ⟨result, ended⟩ := idle own
      rw [ended] at stands
      rw [stands.of_done]
      exact Nat.zero_le _
    · simp [own]

/-- An update ends once it has had its turn four times, whatever the replies and whatever else
happens. -/
theorem ends_after_four_turns {w : World ι (Except Failure Outcome)} {i : ι} {stage : Stage}
    (stands : Stands c now r stage (w.pending i)) (moves : List (Move ι))
    (enough : stage.callsLeft ≤ moves.countP fun m => m.client? = some i) :
    ((w.run moves).result? i).isSome := by
  induction moves generalizing w stage with
  | nil =>
    cases stage with
    | ended result => rw [World.run, List.foldl_nil, stands.result?_eq_some.mpr rfl]; rfl
    | pairing | reading | creating | fallingBack => simp [Stage.callsLeft] at enough
  | cons m moves ih =>
    obtain ⟨next, stands', left⟩ := callsLeft_effect stands (w.effect_step m)
    refine ih stands' ?_
    rw [List.countP_cons] at enough
    by_cases hm : m.client? = some i
    · simp only [hm, decide_true, if_true] at left enough
      omega
    · simp only [hm, decide_false, if_false, Bool.false_eq_true] at left enough
      omega

theorem countP_serve (schedule : List ι) (i : ι) :
    (schedule.map Move.serve).countP (fun m => m.client? = some i) = schedule.count i := by
  rw [List.countP_map, List.count]
  refine List.countP_congr fun j _ => ?_
  simp [Move.client?]

end Ending

/-! ## The findings of all requests -/

variable {ι : Type} {c : Coordinator} {now : ι → DateTime} {req : ι → Request}

def Present (c : Coordinator) (req : ι → Request) (t : Tables) : Prop :=
  ∀ i, (c.findingRow? t (req i)).isSome

theorem Present.served {t : Tables} (present : Present c req t) (reg : c.Registered t) {i : ι}
    {stage next : Stage} {call : Call} {reply : call.Reply}
    (step : Served c (now i) (req i) t stage call reply next) :
    Present c req ((call.carriedOut reply).foldl Tables.write t) :=
  fun j => step.finding_stays reg (present j)

theorem Present.setRow {t : Tables} (present : Present c req t) {table : String}
    (known : (t.names? table).isSome) (slot : Slot) (item : Item) :
    Present c req (t.setRow table slot item) := by
  intro i
  unfold findingRow?
  rw [Tables.row?_setRow known]
  split
  · rfl
  · exact present i

theorem Present.dropRow {t : Tables} (present : Present c req t) {table : String} {slot : Slot}
    (spared : ¬(table = c.settings.findingsTable ∧ ∃ i, slot = (req i).findingSlot)) :
    Present c req (t.dropRow table slot) := by
  intro i
  unfold findingRow?
  rw [Tables.row?_dropRow, if_neg]
  · exact present i
  · rintro ⟨htable, hslot⟩
    exact spared ⟨htable.symm, i, hslot.symm⟩

/-! ## The course of an undisturbed update -/

def Called (turns : List (Turn ι)) (i : ι) (call : Call) : Prop :=
  ∃ t ∈ turns, t.client = i ∧ t.call = call

/-- What is known of an undisturbed update at each stage, by whether it has read its finding. -/
def Course (now : DateTime) (hasRead : Prop) : Stage → Prop
  | .pairing | .reading | .ended (.ok .updatedExisting) => ¬hasRead
  | .creating _ | .fallingBack | .ended (.ok .createdHistory) | .ended (.ok .findingOnly) =>
    hasRead ∧ now.timestamp?.isSome
  | .ended (.error f) => hasRead ∧ now.timestamp? = none ∧ f = .noUtcForm now
  | .ended (.ok .skipped) => False

/-- The automaton stays on course. -/
theorem Course.served {now : DateTime} {r : Request} {t : Tables} {stage next : Stage} {call : Call}
    {reply : call.Reply} {hasRead : Prop}
    (computable : ∃ moment, Retention.expireAt now c.settings.historyTtlDays = .ok moment)
    (present : (c.findingRow? t r).isSome) (step : Served c now r t stage call reply next)
    (h : Course now hasRead stage) : Course now (call = c.readCall r ∨ hasRead) next := by
  cases step with
  | paired | historyMissing => simpa [Course] using h
  | findingMissing finding => rw [finding] at present; cases present
  | built built =>
    obtain ⟨-, -, -, stamp, -, stamped, -⟩ := createFor_eq_ok built
    simp [Course, stamped]
  | notBuilt failed =>
    obtain ⟨unstamped, rfl⟩ := createFor_eq_error computable failed
    simp [Course, unstamped]
  | created | outrun | fellBack => exact ⟨.inr h.1, h.2⟩

/-- An update on course breaks off exactly if its clock has no UTC form and it has read its
finding. -/
theorem Course.broke_off_iff {now : DateTime} {r : Request} {stage : Stage} {hasRead : Prop}
    {w : World ι (Except Failure Outcome)} {i : ι} (stands : Stands c now r stage (w.pending i))
    (course : Course now hasRead stage) :
    w.result? i = some (.error (.noUtcForm now)) ↔ now.timestamp? = none ∧ hasRead := by
  rw [stands.result?_eq_some]
  constructor
  · rintro rfl
    exact ⟨course.2.1, course.1⟩
  · rintro ⟨unstamped, hasRead⟩
    match stage, course with
    | .pairing, notRead => exact absurd hasRead notRead
    | .reading, notRead => exact absurd hasRead notRead
    | .ended (.ok .updatedExisting), notRead => exact absurd hasRead notRead
    | .creating _, ⟨_, stamped⟩ => simp [unstamped] at stamped
    | .fallingBack, ⟨_, stamped⟩ => simp [unstamped] at stamped
    | .ended (.ok .createdHistory), ⟨_, stamped⟩ => simp [unstamped] at stamped
    | .ended (.ok .findingOnly), ⟨_, stamped⟩ => simp [unstamped] at stamped
    | .ended (.error f), ⟨_, _, broke⟩ => rw [broke]

/-- An update on course that has ended has written, or has broken off. -/
theorem Course.result {now : DateTime} {r : Request} {stage : Stage} {hasRead : Prop}
    {w : World ι (Except Failure Outcome)} {i : ι} (stands : Stands c now r stage (w.pending i))
    (course : Course now hasRead stage) {result : Except Failure Outcome}
    (ended : w.result? i = some result) :
    result = .ok .updatedExisting ∨ result = .ok .createdHistory ∨ result = .ok .findingOnly ∨
      result = .error (.noUtcForm now) := by
  rw [stands.result?_eq_some] at ended
  subst ended
  match result, course with
  | .ok .updatedExisting, _ => exact .inl rfl
  | .ok .createdHistory, _ => exact .inr (.inl rfl)
  | .ok .findingOnly, _ => exact .inr (.inr (.inl rfl))
  | .error f, ⟨_, _, broke⟩ => rw [broke]; simp

/-! ## Schedules of updates -/

def Stage.first (r : Request) : Stage := if r.isValid then .pairing else .ended (.ok .skipped)

def updates (c : Coordinator) (now : ι → DateTime) (req : ι → Request) (s : Store) :
    World ι (Except Failure Outcome) :=
  .opening s fun i => c.apply (now i) (req i)

theorem stands_first (c : Coordinator) (now : DateTime) (r : Request) :
    Stands c now r (.first r) (c.apply now r).quiet := by
  unfold Stage.first
  rcases stands_apply c now r with ⟨valid, stands⟩ | ⟨invalid, stands⟩
  · rwa [if_pos valid]
  · rwa [if_neg (by simp [invalid])]

variable [DecidableEq ι]

/-- One client's turn, for all clients. -/
theorem stands_afterTurn {w : World ι (Except Failure Outcome)} {stage : ι → Stage}
    (stands : ∀ i, Stands c (now i) (req i) (stage i) (w.pending i)) {i : ι} {call : Call}
    {cont : call.Reply → Run} (pending : w.pending i = .call call cont) (reply : call.Reply)
    (s : Store) :
    ∃ next, Transition c (now i) (req i) (stage i) call reply next ∧
      ∀ j, Stands c (now j) (req j) (Function.update stage i next j)
        ((w.afterTurn i call cont reply s).pending j) := by
  have here := stands i
  rw [pending] at here
  obtain ⟨next, step, there⟩ := here.reply reply
  refine ⟨next, step, fun j => ?_⟩
  by_cases hj : j = i
  · subst hj
    rw [Function.update_self, World.pending_afterTurn_self]
    exact there
  · rw [Function.update_of_ne hj, World.pending_afterTurn_of_ne w hj]
    exact stands j

/-- A property of stages, tables and turns that every step keeps holds after every schedule. -/
theorem updates_induction (c : Coordinator) (now : ι → DateTime) (req : ι → Request) (s : Store)
    (moves : List (Move ι)) {P : (ι → Stage) → Tables → List (Turn ι) → Prop}
    (reg : c.Registered s.tables)
    (start : P (fun i => .first (req i)) s.tables [])
    (served : ∀ {stage t turns i call} {reply : call.Reply} {next}, c.Registered t →
      (req i).isValid = true → P stage t turns →
      Served c (now i) (req i) t (stage i) call reply next →
      P (Function.update stage i next) ((call.carriedOut reply).foldl Tables.write t)
        (⟨i, call, reply, t, (call.carriedOut reply).foldl Tables.write t⟩ :: turns))
    (refused : ∀ {stage t turns i e call next}, .refuse i e ∈ moves → P stage t turns →
      Transition c (now i) (req i) (stage i) call (call.refusal e) next →
      P (Function.update stage i next) t (⟨i, call, call.refusal e, t, t⟩ :: turns))
    (inserted : ∀ {stage t turns table key attributes}, .insert table key attributes ∈ moves →
      t.names? table = some key.names → P stage t turns →
      P stage (t.setRow table key.slot (key.stamp attributes)) turns)
    (removed : ∀ {stage t turns table key}, .remove table key ∈ moves → P stage t turns →
      P stage (t.dropRow table key.slot) turns) :
    ∃ stage,
      (∀ i, Stands c (now i) (req i) (stage i) (((updates c now req s).run moves).pending i)) ∧
      P stage ((updates c now req s).run moves).store.tables
        ((updates c now req s).run moves).turns := by
  suffices h : ∃ stage,
      (∀ i, Stands c (now i) (req i) (stage i) (((updates c now req s).run moves).pending i)) ∧
      c.Registered ((updates c now req s).run moves).store.tables ∧
      P stage ((updates c now req s).run moves).store.tables
        ((updates c now req s).run moves).turns by
    obtain ⟨stage, stands, -, h⟩ := h
    exact ⟨stage, stands, h⟩
  refine World.run_induction
    (P := fun w => ∃ stage, (∀ i, Stands c (now i) (req i) (stage i) (w.pending i)) ∧
      c.Registered w.store.tables ∧ P stage w.store.tables w.turns) ?_ ?_
  · exact ⟨_, fun i => stands_first c (now i) (req i), reg, start⟩
  · rintro w m w' hm ⟨stage, stands, reg, h⟩ effect
    suffices kept : ∃ stage, (∀ i, Stands c (now i) (req i) (stage i) (w'.pending i)) ∧
        P stage w'.store.tables w'.turns by
      obtain ⟨stage, stands, h⟩ := kept
      exact ⟨stage, stands, reg.effect effect, h⟩
    cases effect with
    | idle => exact ⟨stage, stands, h⟩
    | @served i call cont reply s' pending answered =>
      have here := stands i
      rw [pending] at here
      obtain ⟨next, step, stands'⟩ := stands_afterTurn stands pending reply s'
      have step' := served_of_registered reg here step answered
      refine ⟨_, stands', ?_⟩
      simp only [World.afterTurn, Store.answer_tables answered]
      exact served reg here.valid h step'
    | @refused i e call cont pending =>
      obtain ⟨next, step, stands'⟩ := stands_afterTurn stands pending (call.refusal e) w.store
      exact ⟨_, stands', refused hm h step⟩
    | inserted =>
      exact ⟨stage, stands, Store.insert_kept (P := fun t => P stage t w.turns) h
        fun sound => inserted hm sound h⟩
    | removed =>
      exact ⟨stage, stands, Store.remove_kept (P := fun t => P stage t w.turns) h (removed hm h)⟩

/-! ## Undisturbed updates -/

/-- Moves that leave updates undisturbed: no refusals, nothing foreign in the history table, and no
removal of a finding that is to be updated. -/
def Spares (c : Coordinator) (req : ι → Request) : Move ι → Prop
  | .serve _ => True
  | .refuse .. => False
  | .insert table _ _ => table ≠ c.settings.historyTable
  | .remove table key => table ≠ c.settings.historyTable ∧
      ¬(table = c.settings.findingsTable ∧ ∃ i, key.slot = (req i).findingSlot)

/-- Schedules of undisturbed updates: nothing but the updates' own steps changes the history
table, and no finding goes missing. -/
theorem spared_induction (c : Coordinator) (now : ι → DateTime) (req : ι → Request) (s : Store)
    (moves : List (Move ι)) {P : (ι → Stage) → Tables → List (Turn ι) → Prop}
    (reg : c.Registered s.tables) (present : Present c req s.tables)
    (spares : ∀ m ∈ moves, Spares c req m) (start : P (fun i => .first (req i)) s.tables [])
    (served : ∀ {stage t turns i call} {reply : call.Reply} {next}, c.Registered t →
      Present c req t → P stage t turns → Served c (now i) (req i) t (stage i) call reply next →
      P (Function.update stage i next) ((call.carriedOut reply).foldl Tables.write t)
        (⟨i, call, reply, t, (call.carriedOut reply).foldl Tables.write t⟩ :: turns))
    (foreign : ∀ {stage} {t t' : Tables} {turns},
      (∀ slot, t'.row? c.settings.historyTable slot = t.row? c.settings.historyTable slot) →
      P stage t turns → P stage t' turns) :
    ∃ stage,
      (∀ i, Stands c (now i) (req i) (stage i) (((updates c now req s).run moves).pending i)) ∧
      P stage ((updates c now req s).run moves).store.tables
        ((updates c now req s).run moves).turns := by
  obtain ⟨stage, stands, -, h⟩ := updates_induction c now req s moves
    (P := fun stage t turns => Present c req t ∧ P stage t turns) reg
    ⟨present, start⟩
    (by
      rintro stage t turns i call reply next reg - ⟨present, h⟩ step
      exact ⟨present.served reg step, served reg present h step⟩)
    (by
      intro stage t turns i e call next hm
      exact absurd (spares _ hm) id)
    (by
      rintro stage t turns table key attributes hm sound ⟨present, h⟩
      refine ⟨present.setRow (by simp [sound]) _ _, foreign (fun slot => ?_) h⟩
      rw [Tables.row?_setRow (by simp [sound]), if_neg]
      rintro ⟨htable, -⟩
      exact spares _ hm htable.symm)
    (by
      rintro stage t turns table key hm ⟨present, h⟩
      obtain ⟨elsewhere, spared⟩ := spares _ hm
      refine ⟨present.dropRow spared, foreign (fun slot => ?_) h⟩
      rw [Tables.row?_dropRow, if_neg]
      rintro ⟨htable, -⟩
      exact elsewhere htable.symm)
  exact ⟨stage, stands, h⟩

/-- Every undisturbed update of a valid request stays on course in every schedule. -/
theorem course_run (c : Coordinator) (now : ι → DateTime) (req : ι → Request) (s : Store)
    (moves : List (Move ι)) (reg : c.Registered s.tables)
    (valid : ∀ i, (req i).isValid = true) (present : Present c req s.tables)
    (computable : ∀ i, ∃ moment,
      Retention.expireAt (now i) c.settings.historyTtlDays = .ok moment)
    (spares : ∀ m ∈ moves, Spares c req m) :
    ∃ stage : ι → Stage,
      (∀ i, Stands c (now i) (req i) (stage i) (((updates c now req s).run moves).pending i)) ∧
      ∀ i, Course (now i)
        (Called ((updates c now req s).run moves).turns i (c.readCall (req i))) (stage i) := by
  refine spared_induction c now req s moves
    (P := fun stage _ turns => ∀ i, Course (now i) (Called turns i (c.readCall (req i))) (stage i))
    reg present spares ?_ ?_ ?_
  · intro i
    simp [Stage.first, valid i, Course, Called]
  · intro stage t turns i call reply next reg present h step j
    by_cases hj : j = i
    · subst hj
      simpa [Called] using Course.served (computable j) (present j) step (h j)
    · simpa [Called, hj, Ne.symm hj] using h j
  · intro stage t t' turns _ h
    exact h

/-! ## Two updates of one finding

A small ledger on which the theorems about schedules can be tried: one finding, no history, and two
updates of one execution that are both about to create its record. -/

def pairLedger : Coordinator := ⟨{ findingsTable := "findings", historyTable := "history" }, rfl⟩

def pairStore : Store where
  tables := .ofList [
    ("findings", ⟨⟨Attribute.findingType, Attribute.findingId⟩,
      .ofList [(⟨"EC2.1", "f1"⟩, .empty)]⟩),
    ("history", ⟨⟨Attribute.findingType, Attribute.findingIdExecutionId⟩, .empty⟩)]
  writeCalls := 0

/-- The first update queues the execution, the second one reports its success. -/
def pairRequest (second : Bool) : Request where
  findingId := "f1"
  executionId := "e1"
  findingType := "EC2.1"
  remediationStatus := if second then "SUCCESS" else "QUEUED"

def newYear : DateTime := ⟨⟨2024, 1, 1, by decide⟩, ⟨0, 0, 0, 0, by decide⟩, .utc⟩

theorem stamped_newYear : newYear.timestamp? = some "2024-01-01T00:00:00.000000Z" := by
  decide +kernel

/-- At the start of 2024 any record that is kept for a year can be put together. -/
theorem built_newYear (settings : Settings) (year : settings.historyTtlDays = 365) (r : Request)
    (data : Option FindingData) :
    ∃ record, History.createFor settings r data newYear = .ok record := by
  have computed : Retention.expireAt newYear settings.historyTtlDays = .ok 1735689600 := by
    rw [year]
    rfl
  exact createFor_of_ok computed stamped_newYear r data

/-- The start of the first supported year on a clock ahead of UTC, where it is the year before. -/
def firstMoment : DateTime :=
  ⟨⟨-9999, 1, 1, by decide⟩, ⟨0, 0, 0, 0, by decide⟩, ⟨3600, by decide⟩⟩

theorem registered_pairStore : pairLedger.Registered pairStore.tables :=
  ⟨by decide +kernel, by decide +kernel⟩

theorem present_pairRequest : Present pairLedger pairRequest pairStore.tables := by
  rintro (_ | _) <;> decide +kernel

theorem isValid_pairRequest : ∀ i, (pairRequest i).isValid = true := by
  rintro (_ | _) <;> rfl

end RemediationLedger.Coordinator

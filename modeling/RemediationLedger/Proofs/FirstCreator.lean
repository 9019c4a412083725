/-
Of any number of first updates exactly one creates the history record.

The updates race for one record that does not exist yet. At any moment the race
is open or won (`Race`). While it is open there is no record, and every update
is still on its way to it or has broken off, so none can have reported an
outcome. The race is won by the one step that creates the record: it finds none,
so it was open, and from then on the record stays, so no other creation can go
through. Updates that come late find the record when they update both rows, or
fall back to the finding alone. Each step of an update keeps the race in this
state (`Race.served`), and no schedule leads out of it (`race_run`). That at no
time more than one creation has been committed is read off there, and holds of
all schedules.

What becomes of the race in the end is another question, since a race can stay
open. A clock without a UTC form makes an update break off when it puts its
record together, although the expiry of the record may be one that can be
computed. If this happens to all updates there is no record
(`first_update_without_utc_form_creates_nothing`); if it happens to some, one of
the others creates it. So the race ends with one creator and all others behind
it (`OneCreator`) if and only if no update with such a clock has come to read
its finding, which is the turn at which it breaks off. An update that finds the
record at its first turn never reads the finding, whatever its clock is, so the
condition is one on the run and not on the clocks alone.

The record is created by a put and by nothing else an update sends, so
`Turn.created` can be read off a turn's writes; and a race is counted by the
turns that created. `Race` has the count in it (`Race.countP_le_one`), and what
it says of stages becomes a statement about results once all updates have ended
(`Race.of_ended`, `Race.oneCreator_iff`).
-/
import RemediationLedger.Proofs.Updates

namespace RemediationLedger

/-- Whether a write puts a whole row at a place. -/
def Write.putsAt (w : Write) (table : String) (slot : Slot) : Bool :=
  match w with
  | .put p => p.table == table && p.key.slot == slot
  | .update _ => false

/-- Whether the turn committed a row that was put at a place. -/
def Turn.created {ι : Type} (t : Turn ι) (table : String) (slot : Slot) : Bool :=
  t.committed && t.call.writes.any fun w => w.putsAt table slot

namespace Coordinator

variable {ι : Type} {c : Coordinator}

/-! ## The race -/

/-- Stages of an update that has not met the record. -/
def Stage.beforeRecord : Stage → Prop
  | .pairing | .reading | .creating _ | .ended (.error _) => True
  | .fallingBack | .ended (.ok _) => False

/-- How the race for the record at a slot stands. -/
inductive Race (c : Coordinator) (slot : Slot) (stage : ι → Stage) (t : Tables)
    (turns : List (Turn ι)) : Prop
  | undecided (absent : t.row? c.settings.historyTable slot = none)
      (none_created : turns.countP (fun u => u.created c.settings.historyTable slot) = 0)
      (before : ∀ i, (stage i).beforeRecord)
  | won (winner : ι) (present : (t.row? c.settings.historyTable slot).isSome)
      (one_created : turns.countP (fun u => u.created c.settings.historyTable slot) = 1)
      (wins : stage winner = .ended (.ok .createdHistory))
      (alone : ∀ i, i ≠ winner → stage i ≠ .ended (.ok .createdHistory))

/-- Only the creation of a record puts one. -/
theorem Served.created_iff {now : DateTime} {r : Request} {t : Tables} {stage next : Stage}
    {call : Call} {reply : call.Reply} (step : Served c now r t stage call reply next) (i : ι)
    (after : Tables) :
    (Turn.mk i call reply t after).created c.settings.historyTable r.historySlot = true ↔
      next = .ended (.ok .createdHistory) := by
  cases step with
  | created built =>
    obtain ⟨htable, hkey, -⟩ := createFor_eq_ok built
    simp [Turn.created, Turn.committed, Call.committed, Call.writes, creation, Write.putsAt, htable,
      hkey]
  | paired | fellBack =>
    simp [Turn.created, Turn.committed, Call.committed, Call.writes, pairUpdate, Write.putsAt]
  | findingMissing | historyMissing | built | notBuilt | outrun =>
    simp [Turn.created, Turn.committed, Call.committed]

/-- While there is no record a step creates it, or writes nothing and does not meet it. -/
theorem Served.before_record {now : DateTime} {r : Request} {t : Tables} {stage next : Stage}
    {call : Call} {reply : call.Reply} (step : Served c now r t stage call reply next)
    (present : (c.findingRow? t r).isSome) (absent : c.historyRow? t r = none)
    (before : stage.beforeRecord) :
    next = .ended (.ok .createdHistory) ∨
      (next ≠ .ended (.ok .createdHistory) ∧ next.beforeRecord ∧ call.carriedOut reply = []) := by
  cases step with
  | paired finding history => simp [absent] at history
  | created => exact .inl rfl
  | outrun late =>
    rcases late with missing | history
    · simp [missing] at present
    · simp [absent] at history
  | fellBack => exact before.elim
  | findingMissing | historyMissing | built | notBuilt =>
    exact .inr ⟨by simp, trivial, by simp [Call.carriedOut, Call.committed]⟩

/-- Once there is a record no step creates it. -/
theorem Served.after_record {now : DateTime} {r : Request} {t : Tables} {stage next : Stage}
    {call : Call} {reply : call.Reply} (step : Served c now r t stage call reply next)
    (present : (c.historyRow? t r).isSome) : next ≠ .ended (.ok .createdHistory) := by
  cases step with
  | created built finding history => simp [history] at present
  | paired | findingMissing | historyMissing | built | notBuilt | outrun | fellBack => simp

theorem Served.not_ended {now : DateTime} {r : Request} {t : Tables} {stage next : Stage}
    {call : Call} {reply : call.Reply} (step : Served c now r t stage call reply next)
    (result : Except Failure Outcome) : stage ≠ .ended result := by
  cases step <;> simp

/-- The created record is there. -/
theorem Served.record_created {now : DateTime} {r : Request} {t : Tables} {stage next : Stage}
    {call : Call} {reply : call.Reply} (step : Served c now r t stage call reply next)
    (reg : c.Registered t) (ending : next = .ended (.ok .createdHistory)) :
    (((call.carriedOut reply).foldl Tables.write t).row?
      c.settings.historyTable r.historySlot).isSome := by
  subst ending
  cases step with
  | created built =>
    simp only [Call.carriedOut, Call.committed, Call.writes, if_true]
    rw [reg.historyRow_creation built, if_pos rfl]
    rfl

variable [DecidableEq ι] {slot : Slot} {stage : ι → Stage} {t : Tables} {turns : List (Turn ι)}

/-- The race goes on or is won with each step. -/
theorem Race.served {now : DateTime} {r : Request} {i : ι} {next : Stage} {call : Call}
    {reply : call.Reply} (race : Race c slot stage t turns) (reg : c.Registered t)
    (same : r.historySlot = slot) (present : (c.findingRow? t r).isSome)
    (step : Served c now r t (stage i) call reply next) :
    Race c slot (Function.update stage i next) ((call.carriedOut reply).foldl Tables.write t)
      (⟨i, call, reply, t, (call.carriedOut reply).foldl Tables.write t⟩ :: turns) := by
  subst same
  have created := step.created_iff i ((call.carriedOut reply).foldl Tables.write t)
  cases race with
  | undecided absent none_created before =>
    rcases step.before_record present absent (before i) with wins | ⟨loses, still, nothing⟩
    · refine .won i (step.record_created reg wins) ?_ ?_ ?_
      · rw [List.countP_cons, none_created, if_pos (created.mpr wins)]
      · rw [Function.update_self, wins]
      · intro j hj
        rw [Function.update_of_ne hj]
        intro ended
        have := before j
        rw [ended] at this
        exact this
    · refine .undecided ?_ ?_ ?_
      · rw [nothing]; exact absent
      · rw [List.countP_cons, none_created, if_neg (mt created.mp loses)]
      · intro j
        by_cases hj : j = i
        · subst hj; rw [Function.update_self]; exact still
        · rw [Function.update_of_ne hj]; exact before j
  | won winner present one_created wins alone =>
    have loses := step.after_record present
    have other : winner ≠ i := by
      rintro rfl
      exact step.not_ended _ wins
    refine .won winner (step.record_stays reg present) ?_ ?_ ?_
    · rw [List.countP_cons, one_created, if_neg (mt created.mp loses)]
    · rw [Function.update_of_ne other, wins]
    · intro j hj
      by_cases hi : j = i
      · subst hi; rw [Function.update_self]; exact loses
      · rw [Function.update_of_ne hi]; exact alone j hj

/-! ## Races in every schedule -/

/-- The race stands well after every schedule. -/
theorem race_run (c : Coordinator) (now : ι → DateTime) (req : ι → Request) (s : Store)
    (moves : List (Move ι)) (reg : c.Registered s.tables) (valid : ∀ i, (req i).isValid = true)
    (same : ∀ i, (req i).historySlot = slot) (present : Present c req s.tables)
    (absent : s.tables.row? c.settings.historyTable slot = none)
    (spares : ∀ m ∈ moves, Spares c req m) :
    ∃ stage,
      (∀ i, Stands c (now i) (req i) (stage i) (((updates c now req s).run moves).pending i)) ∧
      Race c slot stage ((updates c now req s).run moves).store.tables
        ((updates c now req s).run moves).turns := by
  refine spared_induction c now req s moves (P := Race c slot) reg present spares ?_ ?_ ?_
  · refine .undecided absent rfl fun i => ?_
    simp [Stage.first, valid i, Stage.beforeRecord]
  · intro stage t turns i call reply next reg present race step
    exact race.served reg (same i) (present i) step
  · intro stage t t' turns unchanged race
    cases race with
    | undecided absent none_created before =>
      exact .undecided (by rw [unchanged]; exact absent) none_created before
    | won winner present one_created wins alone =>
      exact .won winner (by rw [unchanged]; exact present) one_created wins alone

omit [DecidableEq ι] in
/-- However a race stands, at most one turn has created the record. -/
theorem Race.countP_le_one {t : Tables} {turns : List (Turn ι)} (race : Race c slot stage t turns) :
    turns.countP (fun u => u.created c.settings.historyTable slot) ≤ 1 := by
  cases race with
  | undecided _ none_created => rw [none_created]; exact Nat.zero_le 1
  | won _ _ one_created => exact Nat.le_of_eq one_created

/-! ## The end of a race -/

omit [DecidableEq ι] in
/-- When all updates have ended, the race has been won and there is one row, or all of them have
broken off and there is none. -/
theorem Race.of_ended {now : ι → DateTime} {req : ι → Request}
    {w : World ι (Except Failure Outcome)} (race : Race c slot stage w.store.tables w.turns)
    (stands : ∀ i, Stands c (now i) (req i) (stage i) (w.pending i))
    (results : ∀ i result, w.result? i = some result →
      result = .ok .updatedExisting ∨ result = .ok .createdHistory ∨ result = .ok .findingOnly ∨
        result = .error (.noUtcForm (now i)))
    (ended : ∀ i, (w.result? i).isSome) :
    ((∃! i, w.result? i = some (.ok .createdHistory)) ∧
        ∃ row, w.store.tables.rowsAt c.settings.historyTable slot = [row]) ∨
      ((∀ i, w.result? i = some (.error (.noUtcForm (now i)))) ∧
        w.store.tables.rowsAt c.settings.historyTable slot = []) := by
  cases race with
  | undecided absent none_created before =>
    refine .inr ⟨fun i => ?_, by rw [Tables.rowsAt_eq_toList, absent]; rfl⟩
    obtain ⟨result, ending⟩ := Option.isSome_iff_exists.mp (ended i)
    -- whoever has reported an outcome has met the record
    have met := before i
    rw [(stands i).result?_eq_some.mp ending] at met
    rcases results i result ending with rfl | rfl | rfl | rfl
    · exact met.elim
    · exact met.elim
    · exact met.elim
    · exact ending
  | won winner present one_created wins alone =>
    obtain ⟨row, here⟩ := Option.isSome_iff_exists.mp present
    refine .inl ⟨⟨winner, (stands winner).result?_eq_some.mpr wins, fun j created => ?_⟩, row, ?_⟩
    · by_contra other
      exact alone j other ((stands j).result?_eq_some.mp created)
    · rw [Tables.rowsAt_eq_toList, here]
      rfl

/-- A race has one creator: one update has created the record, every other one has found it, and the
table holds one row in its place. -/
def OneCreator (c : Coordinator) (record : Slot) (w : World ι (Except Failure Outcome)) : Prop :=
  ∃ i, w.result? i = some (.ok .createdHistory) ∧
    (∀ j, j ≠ i → w.result? j = some (.ok .updatedExisting) ∨
      w.result? j = some (.ok .findingOnly)) ∧
    ∃ row, w.store.tables.rowsAt c.settings.historyTable record = [row]

omit [DecidableEq ι] in
/-- When all updates have ended, the race has one creator exactly if none of them has broken off. -/
theorem Race.oneCreator_iff [Nonempty ι] {now : ι → DateTime} {req : ι → Request}
    {w : World ι (Except Failure Outcome)} (race : Race c slot stage w.store.tables w.turns)
    (stands : ∀ i, Stands c (now i) (req i) (stage i) (w.pending i))
    (results : ∀ i result, w.result? i = some result →
      result = .ok .updatedExisting ∨ result = .ok .createdHistory ∨ result = .ok .findingOnly ∨
        result = .error (.noUtcForm (now i)))
    (ended : ∀ i, (w.result? i).isSome) :
    OneCreator c slot w ↔ ∀ i, w.result? i ≠ some (.error (.noUtcForm (now i))) := by
  constructor
  · rintro ⟨i, created, others, -⟩ j failed
    by_cases same : j = i
    · subst same
      simp [created] at failed
    · rcases others j same with found | found
      · simp [found] at failed
      · simp [found] at failed
  · intro unbroken
    rcases race.of_ended stands results ended with ⟨⟨i, created, unique⟩, row⟩ | ⟨all, -⟩
    · refine ⟨i, created, fun j other => ?_, row⟩
      obtain ⟨result, ending⟩ := Option.isSome_iff_exists.mp (ended j)
      rcases results j result ending with rfl | rfl | rfl | rfl
      · exact .inl ending
      · exact absurd (unique j ending) other
      · exact .inr ending
      · exact absurd ending (unbroken j)
    · obtain ⟨i⟩ := ‹Nonempty ι›
      exact absurd (all i) (unbroken i)

/-- **Of any number of first updates exactly one creates the history record.** The updates are of
one finding and one record that does not exist yet, with any statuses, clocks and schedule; other
clients may write anywhere but in the history table, and may not remove the finding. At no time has
more than one creation of the record been committed, and each update ends within four turns. It
fails exactly if it has read its finding and its clock has no UTC form, and then it breaks off. When
all have ended, one has created the record, all others have found it and the table holds one row in
its place, exactly if every clock of an update that has read its finding has a UTC form. Otherwise
there is one creator and one row all the same, or all have broken off and there is no row. -/
theorem one_update_creates_the_record [Nonempty ι] (c : Coordinator) (now : ι → DateTime)
    (req : ι → Request) (s : Store) (moves : List (Move ι)) (finding record : Slot)
    (reg : c.Registered s.tables) (valid : ∀ i, (req i).isValid = true)
    (sameFinding : ∀ i, (req i).findingSlot = finding)
    (sameRecord : ∀ i, (req i).historySlot = record)
    (present : (s.tables.row? c.settings.findingsTable finding).isSome)
    (absent : s.tables.row? c.settings.historyTable record = none)
    (computable : ∀ i, ∃ moment,
      Retention.expireAt (now i) c.settings.historyTtlDays = .ok moment)
    (spares : ∀ m ∈ moves, Spares c req m) :
    let w := (updates c now req s).run moves
    w.turns.countP (fun t => t.created c.settings.historyTable record) ≤ 1 ∧
    (∀ i, (4 ≤ moves.countP fun m => m.client? = some i) → (w.result? i).isSome) ∧
    (∀ i f, w.result? i = some (.error f) ↔
      f = .noUtcForm (now i) ∧ (now i).timestamp? = none ∧
        Called w.turns i (c.readCall (req i))) ∧
    ((∀ i, (w.result? i).isSome) →
      (OneCreator c record w ↔
        ∀ i, Called w.turns i (c.readCall (req i)) → (now i).timestamp?.isSome) ∧
      (((∃! i, w.result? i = some (.ok .createdHistory)) ∧
          ∃ row, w.store.tables.rowsAt c.settings.historyTable record = [row]) ∨
        ((∀ i, w.result? i = some (.error (.noUtcForm (now i)))) ∧
          w.store.tables.rowsAt c.settings.historyTable record = []))) := by
  intro w
  have findings : Present c req s.tables := by
    intro i
    rw [findingRow?, sameFinding i]
    exact present
  obtain ⟨stage, stands, race⟩ :=
    race_run c now req s moves reg valid sameRecord findings absent spares
  obtain ⟨stage', stands', course⟩ :=
    course_run c now req s moves reg valid findings computable spares
  change ∀ i, Stands c (now i) (req i) (stage i) (w.pending i) at stands
  change ∀ i, Stands c (now i) (req i) (stage' i) (w.pending i) at stands'
  change Race c record stage w.store.tables w.turns at race
  have results := fun i result (ended : w.result? i = some result) =>
    (course i).result (stands' i) ended
  have broke := fun i => (course i).broke_off_iff (stands' i)
  refine ⟨race.countP_le_one, ?_, ?_, fun ended => ⟨?_, race.of_ended stands results ended⟩⟩
  · intro i often
    refine ends_after_four_turns (stands_first c (now i) (req i)) moves (Nat.le_trans ?_ often)
    simp [Stage.first, valid i, Stage.callsLeft]
  · intro i f
    constructor
    · intro failed
      obtain rfl : f = .noUtcForm (now i) := by simpa using results i _ failed
      exact ⟨rfl, (broke i).mp failed⟩
    · rintro ⟨rfl, read⟩
      exact (broke i).mpr read
  · rw [race.oneCreator_iff stands results ended]
    refine forall_congr' fun i => ?_
    rw [Ne, broke i, Option.isSome_iff_ne_none]
    exact not_and'

/-- Two updates race for their record, and another client writes to their finding in between. -/
theorem one_of_pair_creates_the_record :
    let w := (updates pairLedger (fun _ => newYear) pairRequest pairStore).run
      [.serve false, .serve true, .serve false,
        .insert "findings" (Finding.key "EC2.1" "f1") .empty,
        .serve true, .serve true, .serve false, .serve false]
    w.turns.countP (fun t => t.created "history" ⟨"EC2.1", "f1#e1"⟩) ≤ 1 ∧
      (∀ i, (w.result? i).isSome) ∧ OneCreator pairLedger ⟨"EC2.1", "f1#e1"⟩ w := by
  intro w
  obtain ⟨one, -, -, decided⟩ := one_update_creates_the_record pairLedger (fun _ => newYear)
    pairRequest pairStore
    [.serve false, .serve true, .serve false,
      .insert "findings" (Finding.key "EC2.1" "f1") .empty,
      .serve true, .serve true, .serve false, .serve false]
    ⟨"EC2.1", "f1"⟩ ⟨"EC2.1", "f1#e1"⟩ registered_pairStore isValid_pairRequest
    (by rintro (_ | _) <;> rfl) (by rintro (_ | _) <;> rfl) (by decide +kernel)
    (by decide +kernel) (fun _ => ⟨_, rfl⟩) (by simp [Spares, pairLedger])
  have ended : ∀ i, (w.result? i).isSome := by rintro (_ | _) <;> rfl
  exact ⟨one, ended, (decided ended).1.mpr fun _ _ => by rw [stamped_newYear]; rfl⟩

/-- A single update on a clock without a UTC form: its finding is there, its record is not and the
expiry can be computed, but it breaks off and there is still no record. -/
theorem first_update_without_utc_form_creates_nothing :
    let w := (updates pairLedger (fun _ => firstMoment) (fun _ : Unit => pairRequest false)
      pairStore).run [.serve (), .serve (), .serve (), .serve ()]
    pairLedger.Registered pairStore.tables ∧ (pairRequest false).isValid = true ∧
      (pairStore.tables.row? "findings" (pairRequest false).findingSlot).isSome ∧
      pairStore.tables.row? "history" (pairRequest false).historySlot = none ∧
      (∃ moment, Retention.expireAt firstMoment pairLedger.settings.historyTtlDays = .ok moment) ∧
      w.result? () = some (.error (.noUtcForm firstMoment)) ∧
      ¬OneCreator pairLedger (pairRequest false).historySlot w ∧
      w.store.tables.rowsAt "history" (pairRequest false).historySlot = [] := by
  intro w
  have failed : w.result? () = some (.error (.noUtcForm firstMoment)) := rfl
  refine ⟨registered_pairStore, rfl, by decide +kernel, by decide +kernel, ⟨_, rfl⟩, failed, ?_,
    by decide +kernel⟩
  rintro ⟨i, created, -⟩
  rw [failed] at created
  cases created

end Coordinator

end RemediationLedger

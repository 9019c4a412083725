/-
How an update ends, going by what its transactions met.

On a store with both tables every refusal is a conflict that the protocol
expects, so no update among others fails on the store's account. How it ends is
decided by whether the finding and the record existed at two moments: that of
its first transaction and, if it gets so far, that of its second. `Met` lists
the decisions. It holds of one update in the middle of arbitrary other clients,
whose steps may change any row between two calls of the update.

## Statement

`conflicts_never_surface` is about one update of a valid request, with a clock
that has a UTC form, among arbitrary other programs, with insertions and
removals at any moment and refusals of any calls but its own. After four turns
it has ended. It does not end with an error of the store, and four equivalences
say how it ends, each by what stood in the two rows at its first and at its
second transaction:

* the finding is reported as missing exactly if it was missing at the first
  transaction;
* the settings are blamed exactly if the finding was there, the record was not,
  and no expiry can be computed;
* it succeeds in all other cases;
* it comes down to the finding alone exactly if at the second transaction the
  record had appeared or the finding had gone.

`Met` has one constructor for each stage, with the transactions so far. Its step
(`Met.served`) follows the ways of `Served`, which name what they find.
-/
import RemediationLedger.Proofs.Updates

namespace RemediationLedger

/-! ## The transactions of a client -/

def Turn.transaction? {ι : Type} (t : Turn ι) : Option (List Write × Tables) :=
  match t.call with
  | .transact writes => some (writes, t.before)
  | .get .. | .update _ => none

namespace World

variable {ι α : Type} [DecidableEq ι]

/-- The transactions of a client in order, each with the tables that it met. -/
def transactionsOf (w : World ι α) (i : ι) : List (List Write × Tables) :=
  (w.turns.reverse.filter fun t => t.client = i).filterMap Turn.transaction?

theorem transactionsOf_afterTurn_self (w : World ι α) (i : ι) (c : Call)
    (cont : c.Reply → Program α) (reply : c.Reply) (s : Store) :
    (w.afterTurn i c cont reply s).transactionsOf i =
      w.transactionsOf i ++
        (Turn.mk i c reply w.store.tables s.tables).transaction?.toList := by
  have own : ([⟨i, c, reply, w.store.tables, s.tables⟩] : List (Turn ι)).filter
      (fun t => t.client = i) = [⟨i, c, reply, w.store.tables, s.tables⟩] := by simp
  simp only [transactionsOf, afterTurn, List.reverse_cons, List.filter_append,
    List.filterMap_append, own]
  cases c <;> rfl

theorem transactionsOf_eq_of_elsewhere {w w' : World ι α} {i : ι}
    (elsewhere : w'.turns = w.turns ∨ ∃ t : Turn ι, t.client ≠ i ∧ w'.turns = t :: w.turns) :
    w'.transactionsOf i = w.transactionsOf i := by
  rcases elsewhere with same | ⟨t, other, turns⟩
  · simp [transactionsOf, same]
  · simp [transactionsOf, turns, other]

end World

namespace Coordinator

variable {c : Coordinator} {now : DateTime} {r : Request}

/-! ## What the transactions of an update met -/

def RecordDue (c : Coordinator) (t : Tables) (r : Request) : Prop :=
  (c.findingRow? t r).isSome ∧ c.historyRow? t r = none

/-- The stages of an update, with the transactions that lead there and what they met. -/
inductive Met (c : Coordinator) (now : DateTime) (r : Request) :
    Stage → List (List Write × Tables) → Prop
  | start : Met c now r .pairing []
  | both {first : Tables} (finding : (c.findingRow? first r).isSome)
      (history : (c.historyRow? first r).isSome) :
      Met c now r (.ended (.ok .updatedExisting)) [(c.pairUpdate r, first)]
  | missing {first : Tables} (finding : c.findingRow? first r = none) :
      Met c now r (.ended (.error (.reported (.findingMissing r.findingType r.findingId))))
        [(c.pairUpdate r, first)]
  | reading {first : Tables} (due : c.RecordDue first r) :
      Met c now r .reading [(c.pairUpdate r, first)]
  | unbuilt {first : Tables} (due : c.RecordDue first r) {data : Option FindingData}
      {f : Failure} (failed : History.createFor c.settings r data now = .error f) :
      Met c now r (.ended (.error f)) [(c.pairUpdate r, first)]
  | creating {first : Tables} (due : c.RecordDue first r) {data : Option FindingData}
      {record : Put} (built : History.createFor c.settings r data now = .ok record) :
      Met c now r (.creating record) [(c.pairUpdate r, first)]
  | created {first second : Tables} (due : c.RecordDue first r) {data : Option FindingData}
      {record : Put} (built : History.createFor c.settings r data now = .ok record)
      (still : c.RecordDue second r) :
      Met c now r (.ended (.ok .createdHistory))
        [(c.pairUpdate r, first), (c.creation r record, second)]
  | fallingBack {first second : Tables} (due : c.RecordDue first r) {data : Option FindingData}
      {record : Put} (built : History.createFor c.settings r data now = .ok record)
      (late : c.findingRow? second r = none ∨ (c.historyRow? second r).isSome) :
      Met c now r .fallingBack [(c.pairUpdate r, first), (c.creation r record, second)]
  | fellBack {first second : Tables} (due : c.RecordDue first r) {data : Option FindingData}
      {record : Put} (built : History.createFor c.settings r data now = .ok record)
      (late : c.findingRow? second r = none ∨ (c.historyRow? second r).isSome) :
      Met c now r (.ended (.ok .findingOnly))
        [(c.pairUpdate r, first), (c.creation r record, second)]

/-- Each step of an update adds its transaction to those that it has met. -/
theorem Met.served {ι : Type} {i : ι} {t after : Tables} {stage next : Stage} {call : Call}
    {reply : call.Reply} {met : List (List Write × Tables)} (h : Met c now r stage met)
    (step : Served c now r t stage call reply next) :
    Met c now r next (met ++ (Turn.mk i call reply t after).transaction?.toList) := by
  cases step with
  | paired finding history => cases h; exact .both finding history
  | findingMissing finding => cases h; exact .missing finding
  | historyMissing finding history => cases h; exact .reading ⟨finding, history⟩
  | built built => cases h with | reading due => exact .creating due built
  | notBuilt failed => cases h with | reading due => exact .unbuilt due failed
  | created _ finding history =>
    cases h with | creating due built => exact .created due built ⟨finding, history⟩
  | outrun late => cases h with | creating due built => exact .fallingBack due built late
  | fellBack => cases h with | fallingBack due built late => exact .fellBack due built late

variable {ι : Type} [DecidableEq ι]

/-- The update of a valid request starts with both rows. -/
theorem stands_opening (c : Coordinator) (now : DateTime) (valid : r.isValid = true) (s : Store)
    (others : ι → Run) (i : ι) :
    Stands c now r .pairing
      ((World.opening s (Function.update others i (c.apply now r))).pending i) := by
  rw [World.pending_opening, Function.update_self]
  rcases stands_apply c now r with ⟨-, stands⟩ | ⟨invalid, -⟩
  · exact stands
  · simp [valid] at invalid

/-- An update meets what `Met` lists in every world, as long as none of its own calls is refused. -/
theorem met_run (c : Coordinator) (now : DateTime) (r : Request) (s : Store) (others : ι → Run)
    (i : ι) (moves : List (Move ι)) (reg : c.Registered s.tables) (valid : r.isValid = true)
    (unrefused : ∀ e, Move.refuse i e ∉ moves) :
    let w := (World.opening s (Function.update others i (c.apply now r))).run moves
    ∃ stage, Stands c now r stage (w.pending i) ∧ Met c now r stage (w.transactionsOf i) := by
  suffices h : ∀ w, w = (World.opening s (Function.update others i (c.apply now r))).run moves →
      c.Registered w.store.tables ∧
        ∃ stage, Stands c now r stage (w.pending i) ∧ Met c now r stage (w.transactionsOf i) from
    (h _ rfl).2
  rintro w rfl
  refine World.run_induction
    (P := fun w => c.Registered w.store.tables ∧
      ∃ stage, Stands c now r stage (w.pending i) ∧ Met c now r stage (w.transactionsOf i)) ?_ ?_
  · exact ⟨reg, .pairing, stands_opening c now valid s others i, .start⟩
  · rintro w m w' hm ⟨reg, stage, stands, met⟩ effect
    refine ⟨reg.effect effect, ?_⟩
    rcases effect.own_or_elsewhere i with
      ⟨call, cont, reply, s', pending, rfl, answered⟩ | ⟨-, same, elsewhere⟩
    · have answered := answered.resolve_right (by rintro ⟨e, rfl⟩; exact unrefused e hm)
      rw [pending] at stands
      obtain ⟨next, step, stands'⟩ := stands.reply reply
      rw [World.pending_afterTurn_self, World.transactionsOf_afterTurn_self]
      exact ⟨next, stands', met.served (served_of_registered reg stands step answered)⟩
    · rw [same, World.transactionsOf_eq_of_elsewhere elsewhere]
      exact ⟨stage, stands, met⟩

/-! ## How an update ends -/

/-- A record is put together only with an expiry. -/
theorem computed_of_built {data : Option FindingData} {record : Put}
    (built : History.createFor c.settings r data now = .ok record) :
    ∃ moment, Retention.expireAt now c.settings.historyTtlDays = .ok moment := by
  cases computed : Retention.expireAt now c.settings.historyTtlDays with
  | ok moment => exact ⟨moment, rfl⟩
  | error f =>
    rw [createFor_of_error computed] at built
    cases built

/-- Where the clock has a UTC form, only a missing expiry keeps a record from being put together. -/
theorem reported_of_unbuilt {stamp : String} (stamped : now.timestamp? = some stamp)
    {data : Option FindingData} {f : Failure}
    (failed : History.createFor c.settings r data now = .error f) :
    (¬∃ moment, Retention.expireAt now c.settings.historyTtlDays = .ok moment) ∧
      f = .reported (.settings (.expiryOutOfRange c.settings.historyTtlDays stamp)) := by
  cases computed : Retention.expireAt now c.settings.historyTtlDays with
  | ok moment =>
    obtain ⟨record, built⟩ := createFor_of_ok computed stamped r data
    rw [built] at failed
    cases failed
  | error f' =>
    rw [createFor_of_error computed] at failed
    cases failed
    exact ⟨by simp, expireAt_eq_error stamped computed⟩

/-- **Conflicts never surface as faults of the store.** A valid request is applied to a store with
both tables, with a clock that has a UTC form, among arbitrary other clients, insertions and
removals. It ends within four turns of its own. It never reports the store. It reports its finding
as missing exactly if that is so when its first transaction runs, whatever the history holds; it
reports its settings exactly if the record is due then and has no expiry; it succeeds otherwise.
And it updates the finding alone exactly if the record is due then, and no longer due when the second
transaction runs, because it exists by now or its finding is gone. -/
theorem conflicts_never_surface (c : Coordinator) (now : DateTime) (r : Request) (s : Store)
    (others : ι → Run) (i : ι) (moves : List (Move ι)) (reg : c.Registered s.tables)
    (valid : r.isValid = true) (stamped : now.timestamp?.isSome)
    (unrefused : ∀ e, Move.refuse i e ∉ moves) :
    let w := (World.opening s (Function.update others i (c.apply now r))).run moves
    (4 ≤ moves.countP (fun m => m.client? = some i) → (w.result? i).isSome) ∧
    ∀ result, w.result? i = some result →
      (∀ tier findingType findingId executionId e,
        result ≠ .error (.reported (.store tier findingType findingId executionId e))) ∧
      ∃ first later, w.transactionsOf i = (c.pairUpdate r, first) :: later ∧
        (result = .error (.reported (.findingMissing r.findingType r.findingId)) ↔
          c.findingRow? first r = none) ∧
        ((∃ e, result = .error (.reported (.settings e))) ↔
          (c.findingRow? first r).isSome ∧ c.historyRow? first r = none ∧
            ¬∃ moment, Retention.expireAt now c.settings.historyTtlDays = .ok moment) ∧
        ((∃ outcome, result = .ok outcome) ↔
          (c.findingRow? first r).isSome ∧ ((c.historyRow? first r).isSome ∨
            ∃ moment, Retention.expireAt now c.settings.historyTtlDays = .ok moment)) ∧
        (result = .ok .findingOnly ↔
          (c.findingRow? first r).isSome ∧ c.historyRow? first r = none ∧
            ∃ record second, later = [(c.creation r record, second)] ∧
              ((c.historyRow? second r).isSome ∨ c.findingRow? second r = none)) := by
  intro w
  refine ⟨fun enough => ?_, fun result ended => ?_⟩
  · exact ends_after_four_turns (stands_opening c now valid s others i) moves enough
  obtain ⟨stamp, stamped⟩ := Option.isSome_iff_exists.mp stamped
  obtain ⟨stage, stands, met⟩ := met_run c now r s others i moves reg valid unrefused
  change Met c now r stage (w.transactionsOf i) at met
  -- the result fixes the stage, and the stage what the transactions met
  rw [stands.result?_eq_some.mp ended] at met
  generalize w.transactionsOf i = transactions at met
  cases met with
  | both finding history =>
    obtain ⟨record, hrecord⟩ := Option.isSome_iff_exists.mp history
    refine ⟨by simp, _, _, rfl, ?_⟩
    simp [finding, hrecord, Option.ne_none_iff_isSome.mpr finding]
  | missing finding =>
    refine ⟨by simp, _, _, rfl, ?_⟩
    simp [finding]
  | unbuilt due failed =>
    obtain ⟨incomputable, rfl⟩ := reported_of_unbuilt stamped failed
    refine ⟨by simp, _, _, rfl, ?_⟩
    simp [due.1, due.2, incomputable, Option.ne_none_iff_isSome.mpr due.1]
  | created due built still =>
    have computed := computed_of_built built
    refine ⟨by simp, _, _, rfl, ?_⟩
    simp [due.1, due.2, computed, still.2, Option.ne_none_iff_isSome.mpr due.1,
      Option.ne_none_iff_isSome.mpr still.1]
  | fellBack due built late =>
    have computed := computed_of_built built
    refine ⟨by simp, _, _, rfl, ?_, ?_, ?_, ?_⟩
    · simp [Option.ne_none_iff_isSome.mpr due.1]
    · simp [computed]
    · simp [due.1, computed]
    · exact ⟨fun _ => ⟨due.1, due.2, _, _, rfl, late.symm⟩, fun _ => rfl⟩

/-- Between the transactions of one update another one creates the record, so the late one falls
back. -/
theorem conflicts_never_surface_of_pair :
    let w := (World.opening pairStore
      (Function.update (fun i => pairLedger.apply newYear (pairRequest i)) true
        (pairLedger.apply newYear (pairRequest true)))).run
      ([true, true, false, false, false, true, true].map .serve)
    w.result? true = some (.ok .findingOnly) ∧
    ∃ first record second,
      w.transactionsOf true = [(pairLedger.pairUpdate (pairRequest true), first),
        (pairLedger.creation (pairRequest true) record, second)] ∧
      ((pairLedger.historyRow? second (pairRequest true)).isSome ∨
        pairLedger.findingRow? second (pairRequest true) = none) := by
  intro w
  obtain ⟨-, verdict⟩ := conflicts_never_surface pairLedger newYear (pairRequest true) pairStore
    (fun i => pairLedger.apply newYear (pairRequest i)) true
    ([true, true, false, false, false, true, true].map .serve) registered_pairStore rfl
    (by decide +kernel) (by simp)
  have ended : w.result? true = some (.ok .findingOnly) := rfl
  obtain ⟨-, first, later, transactions, -, -, -, findingOnly⟩ := verdict _ ended
  obtain ⟨-, -, record, second, rfl, late⟩ := findingOnly.mp rfl
  exact ⟨ended, first, record, second, transactions, late⟩

end Coordinator

end RemediationLedger

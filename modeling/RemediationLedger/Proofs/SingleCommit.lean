/-
An update commits at most one write, and its outcome names it.

The update runs among arbitrary other clients, under arbitrary insertions and
removals between its calls, and each of its calls may be refused in the store's
place. None of this matters to the account that an update keeps of itself: while
it is under way it has committed nothing, and it ends with exactly one committed
call if it reports one of the three tiers and with none otherwise (`Settled`).
The account depends on the replies alone, so `settled_transition` is about the
automaton, and `settled_run` carries it into every world.

## How the proof goes

An account is kept by stage (`Settled`). At each of the four stages that wait
for a reply nothing has been committed, and at the end the committed calls are
those of the outcome: none, or one call with the writes of the tier that is
reported. `settled_transition` goes through the ways of the automaton, in which
a reply that carries out writes is always one that ends the update.

`client_induction` is the general part. It is about any property of a client
that goes from reply to reply by the calls committed so far, and it says that
such a property holds in every world, since the moves of others leave the
client's turns alone.

`apply_commits_at_most_once` reads the outcomes off the account in both
directions: the result tells which call was committed, and the committed call
tells the result. An update that ends with an error has changed nothing.
-/
import RemediationLedger.Proofs.Stages

namespace RemediationLedger

/-! ## The calls of one client -/

namespace World

variable {ι α : Type} [DecidableEq ι]

theorem commitsOf_afterTurn_self (w : World ι α) (i : ι) (c : Call)
    (cont : c.Reply → Program α) (reply : c.Reply) (s : Store) :
    (w.afterTurn i c cont reply s).commitsOf i =
      if c.committed reply then c :: w.commitsOf i else w.commitsOf i := by
  by_cases h : c.committed reply = true
  · simp [commitsOf, afterTurn, Turn.committed, h]
  · simp [commitsOf, afterTurn, Turn.committed, h]

theorem commitsOf_eq_of_elsewhere {w w' : World ι α} {i : ι}
    (elsewhere : w'.turns = w.turns ∨ ∃ t : Turn ι, t.client ≠ i ∧ w'.turns = t :: w.turns) :
    w'.commitsOf i = w.commitsOf i := by
  rcases elsewhere with same | ⟨t, other, turns⟩
  · simp [commitsOf, same]
  · simp [commitsOf, turns, other]

/-- A client that has committed nothing has changed nothing. -/
theorem unchanged_of_commitsOf_eq_nil {w : World ι α} {i : ι}
    (faithful : ∀ t ∈ w.turns, t.Faithful) (h : w.commitsOf i = []) :
    ∀ t ∈ w.turns, t.client = i → t.after = t.before := by
  intro t ht hi
  refine (faithful t ht).unchanged ?_
  by_contra hc
  have hmem : t.call ∈ w.commitsOf i := by
    refine List.mem_map_of_mem (List.mem_filter.mpr ⟨ht, ?_⟩)
    simpa [hi] using hc
  rw [h] at hmem
  cases hmem

/-- What a client keeps from reply to reply, going by the calls that it has committed, it keeps
in every world: the other clients and the rest of a schedule have no part in it. -/
theorem client_induction {Q : Program α → List Call → Prop} {p : Program α}
    (start : Q p.quiet [])
    (kept : ∀ (call : Call) (cont : call.Reply → Program α) (reply : call.Reply)
      (commits : List Call), Q (.call call cont) commits →
        Q (cont reply).quiet (if call.committed reply then call :: commits else commits))
    (s : Store) (others : ι → Program α) (i : ι) (moves : List (Move ι)) :
    Q (((opening s (Function.update others i p)).run moves).pending i)
      (((opening s (Function.update others i p)).run moves).commitsOf i) := by
  refine run_induction (P := fun w => Q (w.pending i) (w.commitsOf i)) ?_ ?_
  · rw [pending_opening, Function.update_self]; exact start
  · intro w m w' _ hw effect
    rcases effect.own_or_elsewhere i with
      ⟨call, cont, reply, s, pending, rfl, -⟩ | ⟨-, same, elsewhere⟩
    · rw [pending] at hw
      rw [pending_afterTurn_self, commitsOf_afterTurn_self]
      exact kept call cont reply _ hw
    · rw [same, commitsOf_eq_of_elsewhere elsewhere]
      exact hw

end World

namespace Coordinator

variable {c : Coordinator} {now : DateTime} {r : Request}

/-! ## What an update has committed at each stage -/

/-- The committed calls that go with a stage. -/
def Settled (c : Coordinator) (now : DateTime) (r : Request) : Stage → List Call → Prop
  | .ended (.ok .updatedExisting), commits => commits = [.transact (c.pairUpdate r)]
  | .ended (.ok .createdHistory), commits =>
    ∃ data record, History.createFor c.settings r data now = .ok record ∧
      commits = [.transact (c.creation r record)]
  | .ended (.ok .findingOnly), commits => commits = [.update (c.findingUpdate r none)]
  | _, commits => commits = []

/-- No stage goes with more than one committed call. -/
theorem Settled.length_le_one {stage : Stage} {commits : List Call}
    (h : Settled c now r stage commits) : commits.length ≤ 1 := by
  unfold Settled at h
  split at h
  · simp [h]
  · obtain ⟨data, record, -, rfl⟩ := h; simp
  · simp [h]
  · simp [h]

/-- Each way on keeps the account, given that a record to be created was put together. -/
theorem settled_transition {stage next : Stage} {call : Call} {reply : call.Reply}
    {commits : List Call} {p : Run} (stands : Stands c now r stage p)
    (step : Transition c now r stage call reply next) (h : Settled c now r stage commits) :
    Settled c now r next (if call.committed reply then call :: commits else commits) := by
  cases step with
  | created =>
    cases stands with
    | creating valid built =>
      obtain rfl : commits = [] := h
      exact ⟨_, _, built, rfl⟩
  | paired | fellBack =>
    obtain rfl : commits = [] := h
    rfl
  | findingMissing | historyMissing | pairingFault | built | notBuilt | outrun | creationFault
  | fallbackFault => exact h

/-- Two updates of rows are no update of a row and a put. -/
theorem pairUpdate_ne_creation (r : Request) (record : Put) :
    c.pairUpdate r ≠ c.creation r record := by
  simp [pairUpdate, creation]

theorem Settled.of_pairUpdate {stage : Stage}
    (h : Settled c now r stage [.transact (c.pairUpdate r)]) :
    stage = .ended (.ok .updatedExisting) := by
  unfold Settled at h
  split at h
  · rfl
  · obtain ⟨data, record, -, h⟩ := h
    simp only [List.cons.injEq, and_true, Call.transact.injEq] at h
    exact absurd h (pairUpdate_ne_creation r record)
  · simp at h
  · simp at h

theorem Settled.of_creation {stage : Stage} {record : Put}
    (h : Settled c now r stage [.transact (c.creation r record)]) :
    stage = .ended (.ok .createdHistory) := by
  unfold Settled at h
  split at h
  · simp only [List.cons.injEq, and_true, Call.transact.injEq] at h
    exact absurd h.symm (pairUpdate_ne_creation r record)
  · rfl
  · simp at h
  · simp at h

theorem Settled.of_findingUpdate {stage : Stage}
    (h : Settled c now r stage [.update (c.findingUpdate r none)]) :
    stage = .ended (.ok .findingOnly) := by
  unfold Settled at h
  split at h
  · simp at h
  · obtain ⟨data, record, -, h⟩ := h
    simp at h
  · rfl
  · simp at h

variable {ι : Type} [DecidableEq ι]

/-- An update keeps its account among arbitrary clients, under every interference. -/
theorem settled_run (c : Coordinator) (now : DateTime) (r : Request) (s : Store)
    (others : ι → Run) (i : ι) (moves : List (Move ι)) :
    ∃ stage,
      Stands c now r stage
        (((World.opening s (Function.update others i (c.apply now r))).run moves).pending i) ∧
      Settled c now r stage
        (((World.opening s (Function.update others i (c.apply now r))).run moves).commitsOf i) := by
  refine World.client_induction
    (Q := fun p commits => ∃ stage, Stands c now r stage p ∧ Settled c now r stage commits)
    ?_ ?_ s others i moves
  · rcases stands_apply c now r with ⟨-, h⟩ | ⟨-, h⟩
    · exact ⟨.pairing, h, rfl⟩
    · exact ⟨_, h, rfl⟩
  · rintro call cont reply commits ⟨stage, stands, settled⟩
    obtain ⟨next, step, stands'⟩ := stands.reply reply
    exact ⟨next, stands', settled_transition stands step settled⟩

/-! ## The outcome names the commit -/

/-- **An update commits at most one write, and its outcome says which.** It ends as updated
exactly if its update of both rows was committed, as created exactly if the creation of the
record was, as finding only exactly if the update of the finding alone was; and if it is skipped
or fails in any way, none of its own calls changed a table. Here `others` are arbitrary programs
and `moves` an arbitrary schedule of calls, refusals, insertions and removals. -/
theorem apply_commits_at_most_once (c : Coordinator) (now : DateTime) (r : Request) (s : Store)
    (others : ι → Run) (i : ι) (moves : List (Move ι)) :
    let w := (World.opening s (Function.update others i (c.apply now r))).run moves
    (w.commitsOf i).length ≤ 1 ∧
    (∀ t ∈ w.turns, t.client = i → t.Faithful) ∧
    (w.result? i = some (.ok .updatedExisting) ↔
      w.commitsOf i = [.transact (c.pairUpdate r)]) ∧
    (w.result? i = some (.ok .createdHistory) ↔
      ∃ data record, History.createFor c.settings r data now = .ok record ∧
        w.commitsOf i = [.transact (c.creation r record)]) ∧
    (w.result? i = some (.ok .findingOnly) ↔
      w.commitsOf i = [.update (Finding.updateFor c.settings r none)]) ∧
    ((w.result? i = some (.ok .skipped) ∨ ∃ f, w.result? i = some (.error f)) →
      ∀ t ∈ w.turns, t.client = i → t.after = t.before) := by
  intro w
  obtain ⟨stage, stands, settled⟩ := settled_run c now r s others i moves
  change Stands c now r stage (w.pending i) at stands
  change Settled c now r stage (w.commitsOf i) at settled
  have faithful : ∀ t ∈ w.turns, t.Faithful := World.faithful_run s _ moves
  -- a result fixes the stage and with it the commits, and the commits fix the stage in turn
  have of_result : ∀ result, w.result? i = some result →
      Settled c now r (.ended result) (w.commitsOf i) := by
    intro result h
    obtain rfl := stands.result?_eq_some.mp h
    exact settled
  refine ⟨settled.length_le_one, fun t ht _ => faithful t ht, ⟨of_result _, ?_⟩,
    ⟨of_result _, ?_⟩, ⟨of_result _, ?_⟩, ?_⟩
  · intro h
    rw [h] at settled
    exact stands.result?_eq_some.mpr settled.of_pairUpdate
  · rintro ⟨data, record, -, h⟩
    rw [h] at settled
    exact stands.result?_eq_some.mpr settled.of_creation
  · intro h
    rw [h] at settled
    exact stands.result?_eq_some.mpr settled.of_findingUpdate
  · intro failed
    refine World.unchanged_of_commitsOf_eq_nil faithful ?_
    rcases failed with h | ⟨f, h⟩
    · exact of_result _ h
    · exact of_result _ h

end Coordinator

end RemediationLedger

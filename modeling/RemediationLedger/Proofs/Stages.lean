/-
The status protocol as an automaton.

An update is a program with at most four calls. Between two of them it stands at
one of five stages, and `Transition` lists every way on: from a stage, with a
reply to the call of that stage, to the next stage. The replies are arbitrary
here, so this is the protocol against every store.

`Stands` ties a stage to the program that is left there. The stages start where
the program starts (`stands_apply`), and a reply takes the program where the
automaton says (`Stands.reply`). The theory of updates never opens the program
again.

## The five stages

1. *pairing*: both rows are to be updated. A success ends the update, a conflict
   leads on, any other refusal ends it.
2. *reading*: the finding is to be read for what it tells. Whatever comes back
   leads on, or to the end where no record can be put together.
3. *creating*: the record is to be created with what was read.
4. *falling back*: the finding is to be updated alone.
5. *ended*, with a result.

A stage carries what the program still needs and no more: the third one has the
record and the others have nothing. So two updates of one request with one clock
that stand at the same stage will go on alike, wherever they come from. The
lemmas from `stands_apply` to `Stands.reply` are equations between programs and
are proved by computation.
-/
import RemediationLedger.Coordinator
import RemediationLedger.Proofs.Interleaving

namespace RemediationLedger.Coordinator

inductive Stage where
  /-- Both rows are to be updated. -/
  | pairing
  /-- The finding is to be read. -/
  | reading
  /-- The history record is put together and is to be created. -/
  | creating (record : Put)
  /-- The finding alone is to be updated. -/
  | fallingBack
  | ended (result : Except Failure Outcome)

def dataOf (c : Coordinator) : Except StoreError (Option Item) → Option FindingData
  | .ok item => item.map (Finding.extract c.settings)
  | .error _ => none

def fault (r : Request) (tier : Tier) (e : StoreError) : Except Failure Outcome :=
  .error (.reported (.store tier r.findingType r.findingId r.executionId e))

section Automaton

variable (c : Coordinator) (now : DateTime) (r : Request)

/-- The update of the finding that every stage of the protocol makes, under different
conditions. -/
abbrev findingUpdate (condition : Option Condition) : Update :=
  Finding.updateFor c.settings r condition

abbrev readCall : Call :=
  .get c.settings.findingsTable (Finding.key r.findingType r.findingId)

/-- The program that is left of an update at each stage. -/
inductive Stands : Stage → Run → Prop
  | pairing (valid : r.isValid = true) :
      Stands .pairing (.call (.transact (c.pairUpdate r)) (c.afterPairUpdate now r))
  | reading (valid : r.isValid = true) {cont : (c.readCall r).Reply → Run}
      (goesOn : ∀ reply, (cont reply).quiet = (c.createRecord now r (c.dataOf reply)).quiet) :
      Stands .reading (.call (c.readCall r) cont)
  | creating (valid : r.isValid = true) {data : Option FindingData} {record : Put}
      (built : History.createFor c.settings r data now = .ok record) :
      Stands (.creating record) (.call (.transact (c.creation r record)) (c.afterCreation r))
  | fallingBack (valid : r.isValid = true) :
      Stands .fallingBack (.call (.update (c.findingUpdate r none)) (afterFindingUpdate r))
  | ended (result : Except Failure Outcome) : Stands (.ended result) (.done result)

/-- Every way on from a stage, by the reply to its call. -/
inductive Transition : Stage → (call : Call) → call.Reply → Stage → Prop
  | paired :
      Transition .pairing (.transact (c.pairUpdate r)) (.ok ()) (.ended (.ok .updatedExisting))
  | findingMissing {e : StoreError} (conflict : Conflict.afterUpdateUpdate e = .findingMissing) :
      Transition .pairing (.transact (c.pairUpdate r)) (.error e)
        (.ended (.error (.reported (.findingMissing r.findingType r.findingId))))
  | historyMissing {e : StoreError} (conflict : Conflict.afterUpdateUpdate e = .historyMissing) :
      Transition .pairing (.transact (c.pairUpdate r)) (.error e) .reading
  | pairingFault {e : StoreError}
      (conflict : Conflict.afterUpdateUpdate e ≠ .findingMissing ∧
        Conflict.afterUpdateUpdate e ≠ .historyMissing) :
      Transition .pairing (.transact (c.pairUpdate r)) (.error e)
        (.ended (fault r .updateUpdate e))
  | built {reply : (c.readCall r).Reply} {record : Put}
      (built : History.createFor c.settings r (c.dataOf reply) now = .ok record) :
      Transition .reading (c.readCall r) reply (.creating record)
  | notBuilt {reply : (c.readCall r).Reply} {f : Failure}
      (failed : History.createFor c.settings r (c.dataOf reply) now = .error f) :
      Transition .reading (c.readCall r) reply (.ended (.error f))
  | created {record : Put} :
      Transition (.creating record) (.transact (c.creation r record)) (.ok ())
        (.ended (.ok .createdHistory))
  | outrun {record : Put} {e : StoreError}
      (conflict : Conflict.afterCreateHistory e = .historyAlreadyExists ∨
        Conflict.afterCreateHistory e = .findingMissing) :
      Transition (.creating record) (.transact (c.creation r record)) (.error e) .fallingBack
  | creationFault {record : Put} {e : StoreError}
      (conflict : Conflict.afterCreateHistory e ≠ .historyAlreadyExists ∧
        Conflict.afterCreateHistory e ≠ .findingMissing) :
      Transition (.creating record) (.transact (c.creation r record)) (.error e)
        (.ended (fault r .createHistory e))
  | fellBack :
      Transition .fallingBack (.update (c.findingUpdate r none)) (.ok ())
        (.ended (.ok .findingOnly))
  | fallbackFault {e : StoreError} :
      Transition .fallingBack (.update (c.findingUpdate r none)) (.error e)
        (.ended (fault r .findingOnly e))

end Automaton

variable {c : Coordinator} {now : DateTime} {r : Request}

/-! ## The automaton is the program -/

/-- An update starts with both rows, or ends at once if its request is not valid. -/
theorem stands_apply (c : Coordinator) (now : DateTime) (r : Request) :
    (r.isValid = true ∧ Stands c now r .pairing (c.apply now r).quiet) ∨
      (r.isValid = false ∧ Stands c now r (.ended (.ok .skipped)) (c.apply now r).quiet) := by
  unfold apply
  by_cases valid : r.isValid = true
  · rw [if_pos valid]
    exact .inl ⟨valid, .pairing valid⟩
  · rw [if_neg valid]
    exact .inr ⟨by simpa using valid, .ended _⟩

/-- The second stage reads the finding, and whatever comes back it goes on to the record. -/
theorem stands_createHistory (valid : r.isValid = true) :
    Stands c now r .reading (c.createHistory now r).quiet := by
  refine .reading valid fun reply => ?_
  rcases reply with e | item
  · rfl
  · cases item <;> rfl

/-- The record is created if it can be put together, and otherwise the update has ended. -/
theorem stands_createRecord (valid : r.isValid = true) (data : Option FindingData) :
    (∃ record, History.createFor c.settings r data now = .ok record ∧
        Stands c now r (.creating record) (c.createRecord now r data).quiet) ∨
      ∃ f, History.createFor c.settings r data now = .error f ∧
        Stands c now r (.ended (.error f)) (c.createRecord now r data).quiet := by
  unfold createRecord
  cases h : History.createFor c.settings r data now with
  | ok record => exact .inl ⟨record, rfl, .creating valid h⟩
  | error f =>
    refine .inr ⟨f, rfl, ?_⟩
    cases f <;> exact .ended _

/-- Only an update of a valid request has a call pending. -/
theorem Stands.valid {stage : Stage} {call : Call} {cont : call.Reply → Run}
    (h : Stands c now r stage (.call call cont)) : r.isValid = true := by
  cases h <;> assumption

/-- A reply takes an update where the automaton says. -/
theorem Stands.reply {stage : Stage} {call : Call} {cont : call.Reply → Run}
    (h : Stands c now r stage (.call call cont)) (reply : call.Reply) :
    ∃ next, Transition c now r stage call reply next ∧ Stands c now r next (cont reply).quiet := by
  cases h with
  | pairing valid =>
    rcases reply with e | ⟨⟩
    · simp only [afterPairUpdate]
      split
      · rename_i conflict
        exact ⟨_, .historyMissing conflict, stands_createHistory valid⟩
      · rename_i conflict
        exact ⟨_, .findingMissing conflict, .ended _⟩
      · rename_i notHistory notFinding
        exact ⟨_, .pairingFault ⟨notFinding, notHistory⟩, .ended _⟩
    · exact ⟨_, .paired, .ended _⟩
  | reading valid goesOn =>
    rw [goesOn reply]
    rcases stands_createRecord valid (c.dataOf reply) with ⟨record, built, h⟩ | ⟨f, failed, h⟩
    · exact ⟨_, .built built, h⟩
    · exact ⟨_, .notBuilt failed, h⟩
  | creating valid built =>
    rcases reply with e | ⟨⟩
    · simp only [afterCreation]
      split
      · rename_i conflict
        exact ⟨_, .outrun (.inl conflict), .fallingBack valid⟩
      · rename_i conflict
        exact ⟨_, .outrun (.inr conflict), .fallingBack valid⟩
      · rename_i notThere notFinding
        exact ⟨_, .creationFault ⟨notThere, notFinding⟩, .ended _⟩
    · exact ⟨_, .created, .ended _⟩
  | fallingBack valid =>
    rcases reply with e | ⟨⟩
    · exact ⟨_, .fallbackFault, .ended _⟩
    · exact ⟨_, .fellBack, .ended _⟩

/-- An update that has ended has the result that its stage names. -/
theorem Stands.of_done {stage : Stage} {result : Except Failure Outcome}
    (h : Stands c now r stage (.done result)) : stage = .ended result := by
  cases h; rfl

theorem Stands.of_ended {result : Except Failure Outcome} {p : Run}
    (h : Stands c now r (.ended result) p) : p = .done result := by
  cases h; rfl

/-- A client that stands somewhere in an update has a result exactly at the end of it. -/
theorem Stands.result?_eq_some {ι : Type} {w : World ι (Except Failure Outcome)} {i : ι}
    {stage : Stage} (h : Stands c now r stage (w.pending i)) {result : Except Failure Outcome} :
    w.result? i = some result ↔ stage = .ended result := by
  rw [World.result?_eq_some]
  constructor
  · intro hp; rw [hp] at h; exact h.of_done
  · rintro rfl; exact h.of_ended

end RemediationLedger.Coordinator

/-
What an update logs, against any store.

An update tells of itself in events on its way from call to call, and every way
through it ends with at most one event that matters: an error that names the
request if the caller gets a failure, the news of a record if one was created,
nothing else. `Tells` says this of a program, constructor by constructor, with
the number of warnings on the way; it holds of every stage (`tells_createRecord`
and the lemmas before it), and it fixes how many events of each level a run has,
whatever the store replies (`Tells.tally`).

The warnings depend on replies, and on two of them only: the one to the update
of both rows and the one to the reading. What comes after the reading warns of
nothing.

`failures_are_logged_once` is for every backend and has all counts at once. A
caller that gets a failure, or the news that its request was skipped, finds one
error in the log with the three ids of the request, and whoever gets another
result finds none. The news of a record is logged exactly if the result says
that one was created. The number of warnings is the number of replies that call
for one (`warnings`), and a program that breaks off for want of a UTC form has
logged no error: there is no failure that it could have reported.

`Tells` is an inductive predicate over programs and not over runs, so the stages
are gone through once, as trees, and the store comes in only when `Tells.tally`
counts along one path.
-/
import RemediationLedger.Proofs.UnreadFinding
import RemediationLedger.Proofs.Discipline

namespace RemediationLedger

def Program.events {α σ : Type} (b : Backend σ) : Program α → σ → List Event
  | done _, _ => []
  | note e rest, s => e :: rest.events b (b.note e s)
  | call c rest, s =>
    match b.answer c s with
    | (reply, s') => (rest reply).events b s'

/-- The store in memory takes down the events of a program as they come. -/
theorem Program.events_run {α : Type} (p : Program α) (s : LoggedStore) :
    (p.run LoggedStore.backend s).2.events = s.events ++ p.events LoggedStore.backend s := by
  induction p generalizing s with
  | done result => simp [run, events]
  | note e rest ih =>
    rw [run, ih, events]
    simp [LoggedStore.backend]
  | call c rest ih =>
    rw [run, events, ih]
    rfl

def countLevel (level : Level) (events : List Event) : Nat :=
  events.countP fun e => e.level = level

@[simp] theorem countLevel_nil (level : Level) : countLevel level [] = 0 := rfl

theorem countLevel_cons (level : Level) (e : Event) (events : List Event) :
    countLevel level (e :: events) =
      countLevel level events + if e.level = level then 1 else 0 := by
  simp [countLevel, List.countP_cons]

def Exchange.failedReading : Exchange → Bool
  | ⟨.get .., .error _⟩ => true
  | _ => false

/-- A program that reads nothing fails no reading. -/
theorem Program.ReadsNothing.no_failedReading {α σ : Type} {p : Program α} (h : p.ReadsNothing)
    (b : Backend σ) (s : σ) : (p.exchanges b s).any Exchange.failedReading = false := by
  induction h generalizing s with
  | done result => rfl
  | note event later ih => exact ih _
  | transact writes later ih => exact ih _ _
  | update u later ih => exact ih _ _

namespace Coordinator

variable {c : Coordinator} {now : DateTime} {r : Request}

/-! ## What is told -/

/-- Whether the caller gets a failure: an error, or the news that the request was skipped. -/
def isFailure : Except Failure Outcome → Bool
  | .error (.reported _) => true
  | .ok .skipped => true
  | _ => false

structure Names (r : Request) (event : Event) : Prop where
  finding : event.fields.lookup "finding_id" = some r.findingId
  execution : event.fields.lookup "execution_id" = some r.executionId
  type : event.fields.lookup "finding_type" = some r.findingType

theorem names_of_ids {event : Event} {more : List (String × String)}
    (fields : event.fields = r.ids.fields ++ more) : Names r event := by
  constructor <;> rw [fields] <;> rfl

/-- What a program tells on its way, with the number of warnings: any details, and last an error if
it fails or the news of a record that it has created. -/
inductive Tells (r : Request) : Nat → Run → Prop
  | silent {result : Except Failure Outcome} (noFailure : isFailure result = false)
      (notNew : result ≠ .ok .createdHistory) : Tells r 0 (.done result)
  | failed {event : Event} {result : Except Failure Outcome} (level : event.level = .error)
      (names : Names r event) (failure : isFailure result = true) :
      Tells r 0 (.note event (.done result))
  | created {event : Event} (level : event.level = .info) :
      Tells r 0 (.note event (.done (.ok .createdHistory)))
  | detail {event : Event} {warnings : Nat} {rest : Run} (level : event.level = .debug)
      (later : Tells r warnings rest) : Tells r warnings (.note event rest)
  | warning {event : Event} {warnings : Nat} {rest : Run} (level : event.level = .warn)
      (later : Tells r warnings rest) : Tells r (warnings + 1) (.note event rest)
  | call {call : Call} {warnings : Nat} {rest : call.Reply → Run}
      (later : ∀ reply, Tells r warnings (rest reply)) : Tells r warnings (.call call rest)

structure Tally (r : Request) (warnings : Nat) (events : List Event)
    (result : Except Failure Outcome) : Prop where
  errors : countLevel .error events = if isFailure result then 1 else 0
  named : ∀ e ∈ events, e.level = .error → Names r e
  infos : countLevel .info events = if result = .ok .createdHistory then 1 else 0
  warnings : countLevel .warn events = warnings

/-- An event of another level changes none of the counts, and names nobody. -/
theorem Tally.cons {warnings : Nat} {events : List Event} {result : Except Failure Outcome}
    (h : Tally r warnings events result) {event : Event} (notError : event.level ≠ .error)
    (notInfo : event.level ≠ .info) :
    Tally r (warnings + if event.level = .warn then 1 else 0) (event :: events) result := by
  constructor
  · rw [countLevel_cons, h.errors, if_neg notError, Nat.add_zero]
  · intro e he level
    rcases List.mem_cons.mp he with rfl | he
    · exact absurd level notError
    · exact h.named e he level
  · rw [countLevel_cons, h.infos, if_neg notInfo, Nat.add_zero]
  · rw [countLevel_cons, h.warnings]

/-- A program tells the same in every run. -/
theorem Tells.tally {warnings : Nat} {p : Run} (h : Tells r warnings p) {σ : Type} (b : Backend σ)
    (s : σ) : Tally r warnings (p.events b s) (p.run b s).1 := by
  induction h generalizing s with
  | @silent result noFailure notNew =>
    simp only [Program.events, Program.run]
    constructor <;> simp [noFailure, notNew]
  | @failed event result level names failure =>
    have notNew : result ≠ .ok .createdHistory := by rintro rfl; cases failure
    simp only [Program.events, Program.run]
    constructor <;> simp [countLevel_cons, level, failure, notNew, names]
  | @created event level =>
    simp only [Program.events, Program.run]
    constructor <;> simp [countLevel_cons, level, isFailure]
  | @detail event warnings rest level later ih =>
    have notError : event.level ≠ .error := by simp [level]
    have notInfo : event.level ≠ .info := by simp [level]
    simpa [level, Program.events, Program.run] using (ih (b.note event s)).cons notError notInfo
  | @warning event warnings rest level later ih =>
    have notError : event.level ≠ .error := by simp [level]
    have notInfo : event.level ≠ .info := by simp [level]
    simpa [level, Program.events, Program.run] using (ih (b.note event s)).cons notError notInfo
  | call later ih => exact ih _ _

/-! ## The stages -/

theorem tells_giveUp (r : Request) (tier : Tier) (e : StoreError) : Tells r 0 (giveUp r tier e) :=
  .failed rfl (names_of_ids rfl) rfl

theorem tells_updateFinding (c : Coordinator) (r : Request) : Tells r 0 (c.updateFinding r) := by
  refine .call fun reply => ?_
  cases reply with
  | ok => exact .detail rfl (.silent rfl (by simp))
  | error e => exact tells_giveUp r _ e

theorem tells_afterCreation (c : Coordinator) (r : Request) (reply : Except StoreError Unit) :
    Tells r 0 (c.afterCreation r reply) := by
  cases reply with
  | ok => exact .created rfl
  | error e =>
    simp only [afterCreation]
    split
    · exact .detail rfl (tells_updateFinding c r)
    · exact .detail rfl (tells_updateFinding c r)
    · exact tells_giveUp r _ e

/-- A record that cannot be put together is an error, unless there is no telling it. -/
theorem tells_createRecord (c : Coordinator) (now : DateTime) (r : Request)
    (data : Option FindingData) : Tells r 0 (c.createRecord now r data) := by
  unfold createRecord
  cases History.createFor c.settings r data now with
  | ok record => exact .call fun reply => tells_afterCreation c r reply
  | error f =>
    cases f with
    | reported e => exact .failed rfl (names_of_ids rfl) rfl
    | noUtcForm moment => exact .silent rfl (by simp)

theorem tells_afterRead (c : Coordinator) (now : DateTime) (r : Request)
    (data : Option FindingData) : Tells r 0 (c.afterRead now r data) := by
  cases data with
  | none => exact .detail rfl (tells_createRecord c now r none)
  | some d => exact tells_createRecord c now r (some d)

theorem readsNothing_afterRead (c : Coordinator) (now : DateTime) (r : Request)
    (data : Option FindingData) : (c.afterRead now r data).ReadsNothing := by
  cases data with
  | none => exact .note _ (readsNothing_createRecord c now r none)
  | some d => exact readsNothing_createRecord c now r (some d)

/-- The second stage starts with the reading. It warns of a reading that fails and of nothing
else, and it reads no more. -/
theorem createHistory_eq (c : Coordinator) (now : DateTime) (r : Request) :
    ∃ rest, c.createHistory now r = .call (c.readCall r) rest ∧
      ∀ reply,
        Tells r (if Exchange.failedReading ⟨c.readCall r, reply⟩ then 1 else 0) (rest reply) ∧
        (rest reply).ReadsNothing := by
  refine ⟨_, rfl, fun reply => ?_⟩
  cases reply with
  | ok item => exact ⟨tells_afterRead c now r _, readsNothing_afterRead c now r _⟩
  | error e =>
    exact ⟨.warning rfl (tells_afterRead c now r none),
      .note _ (readsNothing_afterRead c now r none)⟩

/-- Unless the record is missing the update ends after the first stage. -/
theorem ends_of_not_missing (c : Coordinator) (now : DateTime) (r : Request)
    {reply : Except StoreError Unit}
    (final : ∀ e, reply = .error e → Conflict.afterUpdateUpdate e ≠ .historyMissing) :
    Tells r 0 (c.afterPairUpdate now r reply) ∧
      ∀ (σ : Type) (b : Backend σ) (s : σ), (c.afterPairUpdate now r reply).exchanges b s = [] := by
  cases reply with
  | ok => exact ⟨.silent rfl (by simp), fun _ _ _ => rfl⟩
  | error e =>
    simp only [afterPairUpdate]
    split
    · rename_i missing
      exact absurd missing (final e rfl)
    · exact ⟨.failed rfl (names_of_ids rfl) rfl, fun _ _ _ => rfl⟩
    · exact ⟨tells_giveUp r _ e, fun _ _ _ => rfl⟩

/-! ## Whole updates -/

/-- The warnings of an update, by its conversation: one if both rows could not be updated for want
of the record, and one if a reading failed. -/
def warnings (l : List Exchange) : Nat :=
  (if (failure l 0).map Conflict.afterUpdateUpdate = some .historyMissing then 1 else 0) +
    if l.any Exchange.failedReading then 1 else 0

/-- What is told behind the first stage, if the record is missing. -/
theorem tally_ofMissing {e : StoreError} (missing : Conflict.afterUpdateUpdate e = .historyMissing)
    {read : Exchange} {p : Run} (tells : Tells r (if read.failedReading then 1 else 0) p)
    (silent : p.ReadsNothing) {σ : Type} (b : Backend σ) (s : σ) :
    Tally r
      (warnings (⟨.transact (c.pairUpdate r), .error e⟩ :: read :: p.exchanges b s))
      (.historyMissing r.ids :: p.events b s) (p.run b s).1 := by
  have count : warnings (⟨.transact (c.pairUpdate r), .error e⟩ :: read :: p.exchanges b s) =
      (if read.failedReading then 1 else 0) +
        if (Event.historyMissing r.ids).level = .warn then 1 else 0 := by
    have refused (l) : failure (⟨.transact (c.pairUpdate r), .error e⟩ :: l) 0 = some e := rfl
    have noReading : Exchange.failedReading ⟨.transact (c.pairUpdate r), .error e⟩ = false := rfl
    simp [warnings, refused, missing, noReading, silent.no_failedReading, Event.level, Nat.add_comm]
  rw [count]
  exact (tells.tally b s).cons (by simp [Event.level]) (by simp [Event.level])

/-- What is told behind the first stage. -/
theorem tally_afterPairUpdate (c : Coordinator) (now : DateTime) (r : Request)
    (reply : Except StoreError Unit) {σ : Type} (b : Backend σ) (s : σ) :
    Tally r
      (warnings
        (⟨.transact (c.pairUpdate r), reply⟩ :: (c.afterPairUpdate now r reply).exchanges b s))
      ((c.afterPairUpdate now r reply).events b s) ((c.afterPairUpdate now r reply).run b s).1 := by
  by_cases missing : ∃ e, reply = .error e ∧ Conflict.afterUpdateUpdate e = .historyMissing
  · -- only here is anything read
    obtain ⟨e, rfl, missing⟩ := missing
    obtain ⟨rest, reading, tells⟩ := createHistory_eq c now r
    simp only [afterPairUpdate, missing, reading, Program.exchanges, Program.events, Program.run]
    exact tally_ofMissing missing (tells _).1 (tells _).2 b _
  · have final : ∀ e, reply = .error e → Conflict.afterUpdateUpdate e ≠ .historyMissing := by
      simpa using missing
    obtain ⟨tells, silence⟩ := ends_of_not_missing c now r final
    have none : warnings [⟨.transact (c.pairUpdate r), reply⟩] = 0 := by
      cases reply with
      | ok => rfl
      | error e => simp [warnings, failure, Exchange.failedReading, final e rfl]
    rw [silence, none]
    exact tells.tally b s

/-- **An update logs a failure exactly once.** Whatever a store replies, there is one error among
the events if the caller gets an error or the request is skipped, and none otherwise, and it has the
three ids of the request. There is one event of level INFO if a record was created, and none
otherwise. And there is one warning if both rows could not be updated for want of the record, and
one more if the finding could not be read. These are the events that the store in memory takes
down. -/
theorem failures_are_logged_once (c : Coordinator) (now : DateTime) (r : Request) {σ : Type}
    (b : Backend σ) (s : σ) :
    (let events := (c.apply now r).events b s
      let result := ((c.apply now r).run b s).1
      let exchanges := (c.apply now r).exchanges b s
      countLevel .error events = (if isFailure result then 1 else 0) ∧
      (∀ e ∈ events, e.level = .error → Names r e) ∧
      countLevel .info events = (if result = .ok .createdHistory then 1 else 0) ∧
      countLevel .warn events = warnings exchanges) ∧
    ∀ store : Store, ((c.apply now r).runOn store).2.events =
      (c.apply now r).events LoggedStore.backend ⟨store, []⟩ := by
  suffices tally : Tally r (warnings ((c.apply now r).exchanges b s)) ((c.apply now r).events b s)
      ((c.apply now r).run b s).1 from
    ⟨⟨tally.errors, tally.named, tally.infos, tally.warnings⟩, fun store =>
      (Program.events_run _ ⟨store, []⟩).trans (List.nil_append _)⟩
  by_cases valid : r.isValid = true
  · rw [apply, if_pos valid]
    have notError : (Event.attemptingUpdate r.ids r.remediationStatus).level ≠ .error := by
      simp [Event.level]
    have notInfo : (Event.attemptingUpdate r.ids r.remediationStatus).level ≠ .info := by
      simp [Event.level]
    exact (tally_afterPairUpdate c now r _ b _).cons notError notInfo
  · rw [apply, if_neg valid]
    exact (Tells.failed rfl (names_of_ids rfl) rfl).tally b s

end Coordinator

end RemediationLedger

/-
What an update says to a store, whatever the store replies.

A store is here anything that answers calls, so nothing is known of a reply but
its type. `Program.exchanges` is the whole conversation of a client with such a
store, and `Conversation` is what the automaton of the protocol allows; that the
one is an instance of the other (`conversation_run`) is an induction on the
program, with the place where it stands in the automaton.

`Disciplined` is the protocol as a caller knows it. It speaks of positions in
the conversation, not of stages: which four calls there are, exactly when the
next one is made, and what the last reply means for the result. The automaton
has nine ways to its end, so nine lists have to be looked at
(`Conversation.disciplined`).

## Statements

`update_keeps_to_the_protocol` is for every backend, with any state and any
replies, and for every request. It says of the conversation of an update that it
is disciplined, and of the script which tables its calls go to, under which keys
and on which conditions (`Write.terms`). A backend may refuse a call without
having looked at it, may lie, or may carry out half of a transaction; the
conversation is disciplined all the same, since the update knows no more than
the replies.

The order of the clauses in `Disciplined` is that of the conversation, and each
clause reads a position by `script`. So the statement can be checked against the
protocol without knowing that there is an automaton at all; the automaton is in
the proof, because a conversation that is followed reply by reply can only be
one of its runs.
-/
import RemediationLedger.Proofs.Footprint
import RemediationLedger.Proofs.Updates

namespace RemediationLedger

structure Exchange where
  call : Call
  reply : call.Reply

/-- Where a write goes, and on what condition. -/
def Write.terms (w : Write) : Location × Option Condition := (w.location, w.condition)

def Call.error? : (c : Call) → c.Reply → Option StoreError
  | get .., .ok _ => none
  | get .., .error e => some e
  | transact _, .ok () => none
  | transact _, .error e => some e
  | update _, .ok () => none
  | update _, .error e => some e

@[simp] theorem Call.error?_transact_ok (writes : List Write) :
    (transact writes).error? (.ok ()) = none := rfl

@[simp] theorem Call.error?_transact_error (writes : List Write) (e : StoreError) :
    (transact writes).error? (.error e) = some e := rfl

/-- What a program and a store say to each other until the program ends. -/
def Program.exchanges {α σ : Type} (b : Backend σ) : Program α → σ → List Exchange
  | done _, _ => []
  | note e rest, s => rest.exchanges b (b.note e s)
  | call c rest, s =>
    match b.answer c s with
    | (reply, s') => ⟨c, reply⟩ :: (rest reply).exchanges b s'

namespace Coordinator

section Protocol

variable (c : Coordinator) (now : DateTime) (r : Request)

/-! ## The automaton against any store -/

/-- The conversations that the automaton allows from a stage on, with the result of each. -/
inductive Conversation : Stage → List Exchange → Except Failure Outcome → Prop
  | ended (result : Except Failure Outcome) : Conversation (.ended result) [] result
  | step {stage next : Stage} {call : Call} {reply : call.Reply} {rest : List Exchange}
      {result : Except Failure Outcome} (transition : Transition c now r stage call reply next)
      (goesOn : Conversation next rest result) :
      Conversation stage (⟨call, reply⟩ :: rest) result

/-! ## The protocol as a caller knows it -/

def script (record : Put) : List Call :=
  [.transact (c.pairUpdate r), c.readCall r, .transact (c.creation r record),
    .update (c.findingUpdate r none)]

def failure (l : List Exchange) (n : Nat) : Option StoreError :=
  l[n]?.bind fun x => x.call.error? x.reply

/-- What the second reply tells about the finding. A reading that failed tells nothing. -/
def told (l : List Exchange) : Option FindingData :=
  l[1]?.bind fun
    | ⟨.get _ _, reply⟩ => c.dataOf reply
    | _ => none

/-- The result of an update that ends with a stage, by the error in the reply to its call. -/
def verdict (tier : Tier) (outcome : Outcome) : Option StoreError → Except Failure Outcome
  | none => .ok outcome
  | some e => fault r tier e

/-- The first stage also ends with the news that there is no finding. -/
def pairingVerdict (error : Option StoreError) : Except Failure Outcome :=
  if error.map Conflict.afterUpdateUpdate = some .findingMissing then
    .error (.reported (.findingMissing r.findingType r.findingId))
  else verdict r .updateUpdate .updatedExisting error

/-- A conversation keeps to the protocol. -/
structure Disciplined (l : List Exchange) (result : Except Failure Outcome) : Prop where
  /-- The calls are those of the script, in its order, as far as they go. -/
  calls : ∀ record,
    (2 < l.length → History.createFor c.settings r (c.told l) now = .ok record) →
      l.map Exchange.call <+: c.script r record
  starts : 0 < l.length ↔ r.isValid = true
  reads : 1 < l.length ↔
    ∃ e, failure l 0 = some e ∧ Conflict.afterUpdateUpdate e = .historyMissing
  creates : 2 < l.length ↔
    1 < l.length ∧ ∃ record, History.createFor c.settings r (c.told l) now = .ok record
  fallsBack : 3 < l.length ↔ ∃ e, failure l 2 = some e ∧
    (Conflict.afterCreateHistory e = .historyAlreadyExists ∨
      Conflict.afterCreateHistory e = .findingMissing)
  afterNone : l.length = 0 → result = .ok .skipped
  afterPairing : l.length = 1 → result = pairingVerdict r (failure l 0)
  afterReading : l.length = 2 →
    ∃ f, History.createFor c.settings r (c.told l) now = .error f ∧ result = .error f
  afterCreating : l.length = 3 → result = verdict r .createHistory .createdHistory (failure l 2)
  afterFallback : l.length = 4 → result = verdict r .findingOnly .findingOnly (failure l 3)

end Protocol

variable {c : Coordinator} {now : DateTime} {r : Request}

/-! ## The program keeps to the protocol -/

/-- Whatever a store replies, the conversation is one of the automaton. -/
theorem conversation_run {σ : Type} (b : Backend σ) {p : Run} {stage : Stage}
    (stands : Stands c now r stage p.quiet) (s : σ) :
    Conversation c now r stage (p.exchanges b s) (p.run b s).1 := by
  induction p generalizing stage s with
  | done result =>
    obtain rfl := stands.of_done
    exact .ended result
  | note event rest ih => exact ih stands (b.note event s)
  | call call cont ih =>
    obtain ⟨next, transition, there⟩ := stands.reply (b.answer call s).1
    exact .step transition (ih (b.answer call s).1 there (b.answer call s).2)

theorem Conversation.of_ended {result result' : Except Failure Outcome} {l : List Exchange}
    (h : Conversation c now r (.ended result) l result') : l = [] ∧ result' = result := by
  cases h with
  | ended => exact ⟨rfl, rfl⟩
  | step transition => cases transition

/-! ### Stage by stage -/

theorem Conversation.of_fallingBack {result : Except Failure Outcome} {l : List Exchange}
    (h : Conversation c now r .fallingBack l result) :
    ∃ reply, l = [⟨.update (c.findingUpdate r none), reply⟩] ∧
      result = verdict r .findingOnly .findingOnly (Call.error? _ reply) := by
  cases h with
  | step transition rest =>
    cases transition with
    | fellBack | fallbackFault =>
      obtain ⟨rfl, rfl⟩ := rest.of_ended
      exact ⟨_, rfl, rfl⟩

theorem Conversation.of_creating {record : Put} {result : Except Failure Outcome}
    {l : List Exchange} (h : Conversation c now r (.creating record) l result) :
    ∃ reply rest, l = ⟨.transact (c.creation r record), reply⟩ :: rest ∧
      ((∃ e, reply = .error e ∧ (Conflict.afterCreateHistory e = .historyAlreadyExists ∨
          Conflict.afterCreateHistory e = .findingMissing) ∧
          Conversation c now r .fallingBack rest result) ∨
        (∀ e, Call.error? _ reply = some e →
          Conflict.afterCreateHistory e ≠ .historyAlreadyExists ∧
            Conflict.afterCreateHistory e ≠ .findingMissing) ∧
          rest = [] ∧ result = verdict r .createHistory .createdHistory (Call.error? _ reply)) := by
  cases h with
  | step transition rest =>
    cases transition with
    | created =>
      obtain ⟨rfl, rfl⟩ := rest.of_ended
      exact ⟨_, _, rfl, .inr ⟨by simp, rfl, rfl⟩⟩
    | outrun conflict => exact ⟨_, _, rfl, .inl ⟨_, rfl, conflict, rest⟩⟩
    | creationFault conflict =>
      obtain ⟨rfl, rfl⟩ := rest.of_ended
      refine ⟨_, _, rfl, .inr ⟨fun e same => ?_, rfl, rfl⟩⟩
      obtain rfl := Option.some.inj same
      exact conflict

theorem Conversation.of_reading {result : Except Failure Outcome} {l : List Exchange}
    (h : Conversation c now r .reading l result) :
    ∃ reply rest, l = ⟨c.readCall r, reply⟩ :: rest ∧
      ((∃ record, History.createFor c.settings r (c.dataOf reply) now = .ok record ∧
          Conversation c now r (.creating record) rest result) ∨
        ∃ f, History.createFor c.settings r (c.dataOf reply) now = .error f ∧
          rest = [] ∧ result = .error f) := by
  cases h with
  | step transition rest =>
    cases transition with
    | built built => exact ⟨_, _, rfl, .inl ⟨_, built, rest⟩⟩
    | notBuilt failed =>
      obtain ⟨rfl, rfl⟩ := rest.of_ended
      exact ⟨_, _, rfl, .inr ⟨_, failed, rfl, rfl⟩⟩

theorem Conversation.of_pairing {result : Except Failure Outcome} {l : List Exchange}
    (h : Conversation c now r .pairing l result) :
    ∃ reply rest, l = ⟨.transact (c.pairUpdate r), reply⟩ :: rest ∧
      ((∃ e, reply = .error e ∧ Conflict.afterUpdateUpdate e = .historyMissing ∧
          Conversation c now r .reading rest result) ∨
        (∀ e, Call.error? _ reply = some e → Conflict.afterUpdateUpdate e ≠ .historyMissing) ∧
          rest = [] ∧ result = pairingVerdict r (Call.error? _ reply)) := by
  cases h with
  | step transition rest =>
    cases transition with
    | paired =>
      obtain ⟨rfl, rfl⟩ := rest.of_ended
      exact ⟨_, _, rfl, .inr ⟨by simp, rfl, rfl⟩⟩
    | historyMissing conflict => exact ⟨_, _, rfl, .inl ⟨_, rfl, conflict, rest⟩⟩
    | findingMissing conflict =>
      obtain ⟨rfl, rfl⟩ := rest.of_ended
      refine ⟨_, _, rfl, .inr ⟨fun e same => ?_, rfl, by simp [pairingVerdict, conflict]⟩⟩
      obtain rfl := Option.some.inj same
      simp [conflict]
    | pairingFault conflict =>
      obtain ⟨rfl, rfl⟩ := rest.of_ended
      refine ⟨_, _, rfl, .inr ⟨fun e same => ?_, rfl, ?_⟩⟩
      · obtain rfl := Option.some.inj same
        exact conflict.2
      · simp [pairingVerdict, conflict.1, verdict]

/-! ### The whole conversation -/

/-- The conversations of the automaton keep to the protocol: there is one case for each number of
calls. -/
theorem Conversation.disciplined {result : Except Failure Outcome} {l : List Exchange}
    (h : Conversation c now r (.first r) l result) : Disciplined c now r l result := by
  unfold Stage.first at h
  by_cases valid : r.isValid = true
  case neg =>
    rw [if_neg valid] at h
    obtain ⟨rfl, rfl⟩ := h.of_ended
    constructor <;> simp [valid, failure]
  rw [if_pos valid] at h
  obtain ⟨first, rest, rfl, ⟨e, rfl, missing, h⟩ | ⟨final, rfl, rfl⟩⟩ := h.of_pairing
  case inr =>
    constructor <;> simp [valid, failure, script]
    exact final
  obtain ⟨second, rest, rfl, ⟨record, built, h⟩ | ⟨f, failed, rfl, rfl⟩⟩ := h.of_reading
  case inr =>
    constructor <;> simp [valid, failure, script, told, missing, failed]
  obtain ⟨third, rest, rfl, ⟨e', rfl, outrun, h⟩ | ⟨final, rfl, rfl⟩⟩ := h.of_creating
  case inr =>
    constructor <;> simp [valid, failure, script, told, missing, built]
    exact final
  obtain ⟨fourth, rfl, rfl⟩ := h.of_fallingBack
  constructor <;> simp [valid, failure, script, told, missing, built, outrun]

/-! ### The writes of the script -/

theorem terms_findingUpdate (c : Coordinator) (r : Request) (condition : Option Condition) :
    (Write.update (c.findingUpdate r condition)).terms =
      ((c.settings.findingsTable, r.findingSlot), condition) := by
  rw [Write.terms, location_findingUpdate]
  rfl

theorem terms_pairUpdate (c : Coordinator) (r : Request) :
    (c.pairUpdate r).map Write.terms =
      [((c.settings.findingsTable, r.findingSlot), some .keyExists),
        ((c.settings.historyTable, r.historySlot), some .keyExists)] := by
  have history : (Write.update (History.updateFor c.settings r)).terms =
      ((c.settings.historyTable, r.historySlot), some .keyExists) := by
    rw [Write.terms, location_historyUpdate]
    rfl
  rw [pairUpdate, List.map_cons, List.map_cons, terms_findingUpdate, history, List.map_nil]

theorem terms_creation {data : Option FindingData} {record : Put}
    (built : History.createFor c.settings r data now = .ok record) :
    (c.creation r record).map Write.terms =
      [((c.settings.findingsTable, r.findingSlot), some .keyExists),
        ((c.settings.historyTable, r.historySlot), some .keyNotExists)] := by
  obtain ⟨-, -, condition, -⟩ := createFor_eq_ok built
  have history : (Write.put record).terms =
      ((c.settings.historyTable, r.historySlot), some .keyNotExists) := by
    rw [Write.terms, location_record built, Write.condition, condition]
  rw [creation, List.map_cons, List.map_cons, terms_findingUpdate, history, List.map_nil]

/-- **What an update says to a store, whatever the store replies.** Its calls are the first ones of
four: the update of both rows, each on condition that it exists; the reading of the finding; the
update of the finding, if it exists, with a put of the record, if it does not; and the update of the
finding alone, without a condition. A request that is not valid makes no call. The second call is
made exactly if the first one failed for want of the record, the third one exactly if the record can
be put together from what the finding tells, where a reading that failed tells nothing, and the
fourth one exactly if the third one failed because the record exists or the finding does not. The
last reply decides the result: a write that went through is a success of its stage, an update of
both rows that fails for want of the finding reports that, a record that cannot be put together is
reported as such, and any other failure is handed on unchanged with the name of its stage. -/
theorem update_keeps_to_the_protocol (c : Coordinator) (now : DateTime) (r : Request) {σ : Type}
    (b : Backend σ) (s : σ) :
    Disciplined c now r ((c.apply now r).exchanges b s) ((c.apply now r).run b s).1 ∧
    (c.pairUpdate r).map Write.terms =
      [((c.settings.findingsTable, r.findingSlot), some .keyExists),
        ((c.settings.historyTable, r.historySlot), some .keyExists)] ∧
    (∀ data record, History.createFor c.settings r data now = .ok record →
      (c.creation r record).map Write.terms =
        [((c.settings.findingsTable, r.findingSlot), some .keyExists),
          ((c.settings.historyTable, r.historySlot), some .keyNotExists)]) ∧
    (Write.update (c.findingUpdate r none)).terms =
      ((c.settings.findingsTable, r.findingSlot), none) :=
  ⟨(conversation_run b (stands_first c now r) s).disciplined, terms_pairUpdate c r,
    fun _ _ built => terms_creation built, terms_findingUpdate c r none⟩

end Coordinator

end RemediationLedger

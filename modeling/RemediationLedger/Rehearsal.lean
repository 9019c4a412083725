/-
Running programs under interference.

A rehearsal keeps a protocol of the calls that reach the store. Before a call is
answered, others may act on the store, up to applying whole requests of their
own, and the call itself may be refused in the store's place. So every race
between two calls of one program can be played through, one by one.

* `Interference` is what befalls one call: the actions of others, then maybe a
  refusal. A plan gives one for every call number.
* `act` does one foreign action. A request that another client applies runs to
  its end there; a race in which two updates take turns more finely than that is
  the business of `Proofs.Interleaving`.
* `backend` puts this in front of the store in memory, so that any program can
  be rehearsed, and `play` runs one.

A rehearsal fixes one schedule and is a way to try it out. It serves to compare;
what is proved about updates among others is proved for all schedules.
-/
import RemediationLedger.Coordinator

namespace RemediationLedger

inductive ForeignAction where
  | insert (table : String) (key : Key) (attributes : Item)
  | remove (table : String) (key : Key)
  | apply (r : Request)

/-- What befalls one call: others act first, and then it may be refused. -/
structure Interference where
  actions : List ForeignAction := []
  refusal : Option StoreError := none

/-- A call with its reply, and the result of the last request that others applied before it. -/
structure CallRecord where
  call : Call
  reply : call.Reply
  foreign : Option (Except Failure Outcome)

structure Rehearsal where
  store : Store
  events : List Event := []
  /-- The calls so far, in order. -/
  calls : List CallRecord := []

namespace Rehearsal

/-- A foreign action, with the result of the request if it applies one. -/
def act (c : Coordinator) (now : DateTime) (action : ForeignAction) (s : Rehearsal) :
    Option (Except Failure Outcome) × Rehearsal :=
  match action with
  | .insert table key attributes =>
    (none, { s with store := (s.store.insert table key attributes).2 })
  | .remove table key => (none, { s with store := (s.store.remove table key).2 })
  | .apply r =>
    match (c.apply now r).runOn s.store with
    | (result, after) =>
      (some result, { s with store := after.store, events := s.events ++ after.events })

/-- Foreign actions in order, with the result of the last request that they apply. One that breaks
off is the last. -/
def actAll (c : Coordinator) (now : DateTime) :
    List ForeignAction → Rehearsal → Option (Except Failure Outcome) × Rehearsal
  | [], s => (none, s)
  | action :: rest, s =>
    match s.act c now action with
    | (some (.error (.noUtcForm moment)), s') => (some (.error (.noUtcForm moment)), s')
    | (result, s') =>
      match actAll c now rest s' with
      | (later, s'') => (later <|> result, s'')

/-- Answers the next call, where `plan n` is what befalls call number `n`. -/
def answer (c : Coordinator) (now : DateTime) (plan : Nat → Interference) (call : Call)
    (s : Rehearsal) : call.Reply × Rehearsal :=
  let befalls := plan s.calls.length
  match s.actAll c now befalls.actions with
  | (foreign, s') =>
    match befalls.refusal with
    | some e =>
      (call.refusal e, { s' with calls := s'.calls ++ [⟨call, call.refusal e, foreign⟩] })
    | none =>
      match s'.store.answer call with
      | (reply, store) =>
        (reply, { s' with store, calls := s'.calls ++ [⟨call, reply, foreign⟩] })

def backend (c : Coordinator) (now : DateTime) (plan : Nat → Interference) : Backend Rehearsal where
  answer call s := s.answer c now plan call
  note e s := { s with events := s.events ++ [e] }

def play {α : Type} (c : Coordinator) (now : DateTime) (plan : Nat → Interference)
    (p : Program α) (store : Store) : α × Rehearsal :=
  p.run (backend c now plan) { store }

end Rehearsal

end RemediationLedger

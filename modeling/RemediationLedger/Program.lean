/-
Clients of a record store.

A client is a program that makes one call at a time, goes on with the reply, and
logs events in between. Nothing is said about where the replies come from: the
same program runs alone against the store in memory, against a store that
refuses calls, or call by call among other programs. A statement about every
store is therefore a statement about every sequence of replies.

* `Program` is a tree: a call branches by its reply, a note goes on to one
  program, and the end holds a result. A program at rest between two calls is a
  tree again, so what other clients can do in between needs no notion of a place
  in a program.
* `Call.Reply` depends on the call. A read is answered with a row or nothing, a
  write with success alone, and no program has to deal with a reply of the wrong
  kind.
* `Backend` is anything that answers calls and takes note of events. The store
  in memory is one (`LoggedStore.backend`), a store with flaws is another, and
  so is a rehearsal.

The three calls have functions of their own, and programs are written with `do`.
-/
import RemediationLedger.Event
import RemediationLedger.Store

namespace RemediationLedger

inductive Call where
  /-- Reads one row. -/
  | get (table : String) (key : Key)
  /-- Carries out all writes or none. -/
  | transact (writes : List Write)
  /-- Carries out a single update. -/
  | update (u : Update)
  deriving DecidableEq

abbrev Call.Reply : Call → Type
  | get _ _ => Except StoreError (Option Item)
  | transact _ => Except StoreError Unit
  | update _ => Except StoreError Unit

def Call.refusal (e : StoreError) : (c : Call) → c.Reply
  | get _ _ => .error e
  | transact _ => .error e
  | update _ => .error e

inductive Program (α : Type) where
  | done (result : α)
  | note (event : Event) (rest : Program α)
  | call (c : Call) (rest : c.Reply → Program α)

namespace Program

def bind {α β : Type} : Program α → (α → Program β) → Program β
  | done a, f => f a
  | note e rest, f => note e (rest.bind f)
  | call c rest, f => call c fun reply => (rest reply).bind f

instance : Monad Program where
  pure := done
  bind := bind

def get (table : String) (key : Key) : Program (Except StoreError (Option Item)) :=
  call (.get table key) done

def transact (writes : List Write) : Program (Except StoreError Unit) :=
  call (.transact writes) done

def update (u : Update) : Program (Except StoreError Unit) := call (.update u) done

end Program

/-! ## Running -/

/-- A store as a program meets it: a state that answers calls and takes note of events. -/
structure Backend (σ : Type) where
  answer : (c : Call) → σ → c.Reply × σ
  note : Event → σ → σ

def Program.run {α σ : Type} (b : Backend σ) : Program α → σ → α × σ
  | done a, s => (a, s)
  | note e rest, s => rest.run b (b.note e s)
  | call c rest, s =>
    match b.answer c s with
    | (reply, s') => (rest reply).run b s'

def Store.answer (s : Store) : (c : Call) → c.Reply × Store
  | .get table key => (s.get table key, s)
  | .transact writes => s.transact writes
  | .update u => s.update u

structure LoggedStore where
  store : Store
  events : List Event

def LoggedStore.backend : Backend LoggedStore where
  answer c s := match s.store.answer c with
    | (reply, store) => (reply, { s with store })
  note e s := { s with events := s.events ++ [e] }

/-- Runs a program alone on a store in memory: its result, its events and the store after it. -/
def Program.runOn {α : Type} (p : Program α) (s : Store) : α × LoggedStore :=
  p.run LoggedStore.backend ⟨s, []⟩

end RemediationLedger

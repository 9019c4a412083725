/-
Stores that break their contract in known ways.

The contract is itself put to the test with stores that have flaws: a flaw that
no check complains about would be one that the contract does not forbid. A
flawed store is a sound store behind a layer that edits calls and replies.
Several flaws may meet in one store; the order in which they take effect is that
of the definitions below.

The layer has three places to work in, and every flaw belongs to one of them:

* the call, before the store sees it: a condition is dropped, a put turns into
  an update, a transaction falls apart into single writes (`editPut`,
  `editWrite`, `editCondition`, `writeOneByOne`);
* the reply, after the store has done its work: reasons are lost or displaced,
  an error is passed off as another (`editReasons`, `editError`,
  `editUpdateError`, `editRead`);
* the way between them: every call of a kind fails, or the calls with certain
  numbers do, and then the store does not see them at all.

The sound store underneath is the one that the rest of the ledger runs on. What
a flawed store does where no flaw applies is therefore what the store does.
-/
import RemediationLedger.Program

namespace RemediationLedger.Conformance

inductive Flaw where
  /-- Every read fails. -/
  | failReads
  /-- Every transaction fails. -/
  | failTransactions
  /-- Every single update fails. -/
  | failUpdates
  /-- Reads find nothing. -/
  | readsNone
  /-- Reads of a table that does not exist find nothing. -/
  | unknownTableNone
  /-- A table that does not exist is told by another name. -/
  | unknownTableRenamed
  /-- Reads of a row that does not exist find its key attributes. -/
  | readsDefault
  /-- Statuses are read as numbers. -/
  | numericStatus
  /-- Transactions succeed without effect. -/
  | dropTransactions
  /-- Single updates succeed without effect. -/
  | dropUpdates
  /-- The conditions of puts are not looked at. -/
  | ignorePutCondition
  /-- The conditions of updates are not looked at. -/
  | ignoreUpdateCondition
  /-- A put in a transaction keeps what else is in the row. -/
  | mergePut
  /-- Of a transaction only the first write is looked at. -/
  | firstItemOnly
  /-- A transaction that was refused is reported as carried out. -/
  | swallowCancel
  /-- The writes of a transaction are carried out one by one. -/
  | writeThenCheck
  /-- A cancelled transaction is reported as a fault of the store. -/
  | cancelAsBackend
  /-- A cancelled transaction is reported as the failed condition of a single update. -/
  | cancelAsCheckFailed
  /-- The reasons for a cancellation are given from the last to the first. -/
  | reverseReasons
  /-- Only the first reason for a cancellation is given. -/
  | firstReasonOnly
  /-- No reason for a cancellation is given. -/
  | noReasons
  /-- The reasons for a cancellation are given in a wording of the store's own. -/
  | otherReasons
  /-- A single update needs a row even if it has no condition. -/
  | updateRequiresItem
  /-- The failed condition of a single update is reported as a cancelled transaction. -/
  | checkFailedAsCancel
  deriving DecidableEq, Repr

/-- What is wrong with a store: its flaws, and the numbers of the calls that fail. -/
structure Flaws where
  flaws : List Flaw
  failingCalls : List Nat

/-- A sound store and the number of calls that have reached the layer before it. -/
structure FlawedStore where
  store : Store
  calls : Nat

namespace Flaws

def has (f : Flaws) (flaw : Flaw) : Bool := f.flaws.contains flaw

/-! ## Reading -/

def editRead (f : Flaws) (key : Key) (reply : Except StoreError (Option Item)) :
    Except StoreError (Option Item) :=
  match reply with
  | .error (.tableNotFound table) =>
    if f.has .unknownTableNone then .ok none
    else if f.has .unknownTableRenamed then .error (.tableNotFound ("arn:" ++ table))
    else reply
  | .error _ => reply
  | .ok none => if f.has .readsDefault then .ok (some key.toItem) else reply
  | .ok (some item) =>
    if f.has .numericStatus && item.contains "status" then
      .ok (some (item.insert "status" (.number "7")))
    else reply

def get (f : Flaws) (table : String) (key : Key) (s : Store) :
    Except StoreError (Option Item) :=
  if f.has .readsNone then .ok none else f.editRead key (s.get table key)

/-! ## Transactions -/

def editPut (f : Flaws) (p : Put) : Write :=
  let condition := if f.has .ignorePutCondition then none else p.condition
  if f.has .mergePut then .update ⟨p.table, p.key, p.item.entries, condition⟩
  else .put { p with condition }

def editWrite (f : Flaws) : Write → Write
  | .put p => f.editPut p
  | .update u =>
    .update (if f.has .ignoreUpdateCondition then { u with condition := none } else u)

def editReasons (f : Flaws) (reasons : List CancellationReason) : List CancellationReason :=
  let reasons := if f.has .reverseReasons then reasons.reverse else reasons
  let reasons := if f.has .firstReasonOnly then reasons.take 1 else reasons
  let reasons := if f.has .noReasons then [] else reasons
  if f.has .otherReasons then reasons.map fun r => .other ("Wrapped" ++ r.code) else reasons

def editError (f : Flaws) : StoreError → StoreError
  | .transactionCanceled reasons =>
    if f.has .cancelAsBackend then .backend "canceled"
    else if f.has .cancelAsCheckFailed then .conditionFailed "t"
    else .transactionCanceled (f.editReasons reasons)
  | e => e

/-- Carries out each write by itself. The reply is an error if one of them fails. -/
def writeOneByOne (f : Flaws) (writes : List Write) (s : Store) :
    Except StoreError Unit × Store :=
  let (reasons, s') := writes.foldl
    (fun (reasons, s) w =>
      match s.transact [w] with
      | (.ok (), s') => (reasons ++ [.notAtFault], s')
      | (.error _, s') => (reasons ++ [.conditionFailed], s'))
    (([] : List CancellationReason), s)
  if reasons.contains .conditionFailed then
    (.error (f.editError (.transactionCanceled reasons)), s')
  else (.ok (), s')

def submit (f : Flaws) (writes : List Write) (s : Store) : Except StoreError Unit × Store :=
  if f.has .firstItemOnly then
    match s.transact (writes.take 1) with
    | (reply, s') => (reply.mapError f.editError, s')
  else if f.has .swallowCancel then (.ok (), (s.transact writes).2)
  else if f.has .writeThenCheck then f.writeOneByOne writes s
  else
    match s.transact writes with
    | (reply, s') => (reply.mapError f.editError, s')

def transact (f : Flaws) (writes : List Write) (s : Store) : Except StoreError Unit × Store :=
  if f.has .dropTransactions then (.ok (), s) else f.submit (writes.map f.editWrite) s

/-! ## Single updates -/

def editCondition (f : Flaws) (c : Option Condition) : Option Condition :=
  let c := if f.has .ignoreUpdateCondition then none else c
  if f.has .updateRequiresItem && c.isNone then some .keyExists else c

def editUpdateError (f : Flaws) (e : StoreError) : StoreError :=
  match e with
  | .conditionFailed _ =>
    if f.has .checkFailedAsCancel then .transactionCanceled [.conditionFailed] else e
  | _ => e

def update (f : Flaws) (u : Update) (s : Store) : Except StoreError Unit × Store :=
  if f.has .dropUpdates then (.ok (), s)
  else
    match s.update { u with condition := f.editCondition u.condition } with
    | (reply, s') => (reply.mapError f.editUpdateError, s')

/-! ## The flawed store -/

def failsAll (f : Flaws) : Call → Bool
  | .get .. => f.has .failReads
  | .transact _ => f.has .failTransactions
  | .update _ => f.has .failUpdates

def answer (f : Flaws) (s : Store) : (c : Call) → c.Reply × Store
  | .get table key => (f.get table key s, s)
  | .transact writes => f.transact writes s
  | .update u => f.update u s

/-- A store with these flaws. It takes no note of events. -/
def backend (f : Flaws) : Backend FlawedStore where
  answer c s :=
    if f.failingCalls.contains s.calls || f.failsAll c then
      (c.refusal (.backend s!"fault at call {s.calls}"), { s with calls := s.calls + 1 })
    else
      match f.answer s.store c with
      | (reply, store) => (reply, ⟨store, s.calls + 1⟩)
  note _ s := s

end Flaws

end RemediationLedger.Conformance

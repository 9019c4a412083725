/-
The ways in which a record store refuses a call.

A transaction that is refused as a whole reports one reason per write, in
submission order; a write that was not at fault says so. Each error keeps its
cause, and the wording is in `StoreError.message` alone.

* `CancellationReason` has a constructor for each reason that the protocol
  knows, and one for codes that it does not. `ofCode` is total: a store may
  report what it likes.
* A reason is foreign if it is neither the write's own condition nor the absence
  of a fault (`isForeign`). A foreign reason makes a refusal a fault of the
  store, wherever in the list it stands.
* `conditionFailedAt` reads one position. It answers for a list that is too
  short as well, because nothing obliges a store to report a reason for every
  write.

Programs tell errors apart by these functions and never by their texts.
-/
import RemediationLedger.Item

namespace RemediationLedger

/-- Why one write of a cancelled transaction did not happen. -/
inductive CancellationReason where
  /-- The write was sound; another one caused the cancellation. -/
  | notAtFault
  /-- The write's own condition was false. -/
  | conditionFailed
  /-- A reason outside this protocol: throttling, a conflicting transaction and the like. -/
  | other (code : String)
  deriving DecidableEq, Repr

namespace CancellationReason

def code : CancellationReason → String
  | notAtFault => "None"
  | conditionFailed => "ConditionalCheckFailed"
  | other code => code

/-- The reason behind a reported code; no code and the empty code mean that the write was not
at fault. -/
def ofCode : Option String → CancellationReason
  | none => notAtFault
  | some c =>
    if c = "None" ∨ c = "" then notAtFault
    else if c = "ConditionalCheckFailed" then conditionFailed
    else other c

def isConditionFailure : CancellationReason → Bool
  | conditionFailed => true
  | _ => false

/-- Whether the reason lies outside this protocol. -/
def isForeign : CancellationReason → Bool
  | other _ => true
  | _ => false

end CancellationReason

inductive BadRequest where
  | emptyTransaction
  /-- The key's attribute names are not those of the table. -/
  | keyMismatch (given expected : KeyNames) (table : String)
  /-- Two writes of one transaction target the same row. -/
  | repeatedTarget (table : String) (slot : Slot)
  /-- A complaint that the store words itself. -/
  | described (text : String)
  deriving DecidableEq, Repr

def BadRequest.message : BadRequest → String
  | emptyTransaction => "transaction must contain at least one item"
  | keyMismatch given expected table =>
    s!"key ({given.partition}, {given.sort}) does not match schema "
      ++ s!"({expected.partition}, {expected.sort}) of table {table}"
  | repeatedTarget table slot =>
    s!"transaction touches {table} ({slot.partition}, {slot.sort}) more than once"
  | described text => text

inductive StoreError where
  /-- A transaction was refused as a whole, with one reason per write. -/
  | transactionCanceled (reasons : List CancellationReason)
  /-- The condition of a single update was false. -/
  | conditionFailed (table : String)
  | tableNotFound (table : String)
  | invalidRequest (problem : BadRequest)
  /-- A fault of the store itself: throttling, permissions, connectivity. -/
  | backend (text : String)
  deriving DecidableEq, Repr

namespace StoreError

def message : StoreError → String
  | transactionCanceled reasons =>
    "transaction canceled: [" ++ ", ".intercalate (reasons.map CancellationReason.code) ++ "]"
  | conditionFailed table => s!"conditional check failed on table {table}"
  | tableNotFound table => s!"table not found: {table}"
  | invalidRequest problem => s!"invalid request: {problem.message}"
  | backend text => s!"storage backend error: {text}"

def reasons? : StoreError → Option (List CancellationReason)
  | transactionCanceled reasons => some reasons
  | _ => none

/-- Whether this is a cancelled transaction whose write number `i` failed its condition. -/
def conditionFailedAt (e : StoreError) (i : Nat) : Bool :=
  match e.reasons? with
  | none => false
  | some reasons => reasons[i]?.any CancellationReason.isConditionFailure

end StoreError

end RemediationLedger

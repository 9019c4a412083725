/-
Checks: small clients that hold a store to its contract.

A check calls the store and looks at the replies. It either runs through or ends
with a complaint in words. All checks work on one table whose keys are two
texts, and each expects to find the table empty.

A check is a `Program` like any other client, with a complaint as a second way
to end (`Step`). It knows the store by the replies alone and can be run against
any backend, a flawed one included; nothing here refers to how a store keeps its
rows.

* `row`, `putStatus`, `createStatus`, `setStatus` and `changeStatus` build the
  calls. Rows hold one attribute, so that a check can say in one word what it
  expects to read back.
* `obtain`, `require`, `requireStatus` and `requireRefusal` look at a reply and
  end the check with a complaint if it is not the one that the contract
  promises.

Complaints quote replies in full (`Conformance.Detail`): a report is all that
the author of a store has in hand when a check fails.
-/
import RemediationLedger.Conformance.Detail
import RemediationLedger.Program

namespace RemediationLedger.Conformance

def table : String := "conformance-records"

def unknownTable : String := "conformance-no-such-table"

def keyNames : KeyNames := ⟨"pk", "sk"⟩

inductive Category where
  | condition
  | transact
  | error
  | concurrent
  deriving DecidableEq, Repr

def Category.name : Category → String
  | condition => "condition"
  | transact => "transact"
  | error => "error"
  | concurrent => "concurrent"

/-- Part of a check. It may end the check with a complaint. -/
abbrev Step (α : Type) := ExceptT String Program α

/-- One promise of the contract, tried out. -/
structure Check where
  category : Category
  name : String
  steps : Step Unit

/-! ## Rows -/

def row (group id : String) : Key := ⟨keyNames, ⟨group, id⟩⟩

/-- Puts a row that holds a status and nothing else. -/
def putStatus (group id status : String) : Put :=
  .of table (row group id) (.ofList [("status", .text status)])

def createStatus (group id status : String) : Put :=
  { putStatus group id status with condition := some .keyNotExists }

def setStatus (group id status : String) : Update :=
  (Update.of table (row group id)).set "status" (.text status)

/-- Sets the status of a row on condition that it exists. -/
def changeStatus (group id status : String) : Update :=
  { setStatus group id status with condition := some .keyExists }

/-! ## Steps -/

def ask {α : Type} (p : Program α) : Step α := ExceptT.lift p

def complain {α : Type} (complaint : String) : Step α := throw complaint

def require (holds : Bool) (complaint : String) : Step Unit :=
  if holds then pure () else complain complaint

def obtain {α : Type} (what : String) : Except StoreError α → Step α
  | .ok a => pure a
  | .error e => complain (what ++ ": " ++ e.message)

def status? (group id : String) : Step (Option String) := do
  let item ← obtain s!"get {group}/{id}" (← ask (.get table (row group id)))
  return (item.bind fun i => i.get? "status").bind Value.asText?

/-- Complains, as `complaint` has it, unless a row has the given status. -/
def requireStatus (group id status : String) (complaint : String → String) : Step Unit := do
  let found ← status? group id
  require (found == some status) (complaint (detailOfText found))

def seed (group id status : String) : Step Unit := do
  obtain s!"seed {group}/{id}" (← ask (.transact [.put (putStatus group id status)]))

/-- Complains unless a write was refused in the right way. -/
def requireRefusal (right : StoreError → Bool) (expected : String)
    (reply : Except StoreError Unit) : Step Unit :=
  match reply with
  | .ok () => complain s!"expected {expected}, got {detailOfDone (.ok ())}"
  | .error e => require (right e) s!"expected {expected}, got {detailOfDone (.error e)}"

end RemediationLedger.Conformance

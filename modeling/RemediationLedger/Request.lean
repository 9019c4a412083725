/-
Requests: one status update for a finding and an execution.

The status is a text that is stored as it is given. Whoever sends the request
may leave out everything but the three ids and the status.

* The three ids are texts without any form of their own. An id is given if it is
  not empty, and that is all that `isValid` asks for. An empty status is as good
  as another.
* `checkEvents` says what is logged about a request before anything is written.
* `historySortKey` joins the finding's id and the execution's with `#`. Neither
  id is checked for that character or has it escaped, so two requests can share
  a key; which ones do is the subject of `Proofs.RecordKeys`.

A missing optional field and an empty one are different requests, and JSON keeps
them apart. The writes do not: an empty text of an optional field is never
written, so an error of an earlier update is not wiped out by a request that
gives an empty one.
-/
import RemediationLedger.Event
import RemediationLedger.Settings

namespace RemediationLedger

/-- A status update for one execution of a finding's remediation. -/
structure Request where
  findingId : String
  executionId : String
  findingType : String
  remediationStatus : String
  error : Option String := none
  resourceId : Option String := none
  resourceType : Option String := none
  accountId : Option String := none
  severity : Option String := none
  region : Option String := none
  lastUpdatedBy : String := automatedActor
  deriving DecidableEq, Repr

namespace Request

def ids (r : Request) : UpdateIds := ⟨r.findingId, r.executionId, r.findingType⟩

/-- Whether all three ids are given. A request without one of them must not be written. -/
def isValid (r : Request) : Bool :=
  !(r.findingId.isEmpty || r.executionId.isEmpty || r.findingType.isEmpty)

/-- What is logged when the request is checked. -/
def checkEvents (r : Request) : List Event :=
  if r.isValid then [] else [.missingParameters r.ids]

def historySortKey (r : Request) : String := r.findingId ++ "#" ++ r.executionId

end Request

end RemediationLedger

/-
Requests in JSON.

A request is written compactly, its fields in order, and what it leaves out is
not written. It is read from an object in any order of keys, or from a list in
the order of the fields. An optional field may be `null`, which is the same as
leaving it out.

* `RequestField` names the fields once. Their JSON names, whether they may be
  `null`, and how they are read are functions of the field; `shape` puts them
  together for `Json.Record`.
* `ofEntries` makes a request of the entries that were read. Which order they
  came in does not count, since a field cannot come twice.
* `required` and the default actor are the two ways to deal with a missing
  field, and the remaining fields are simply left out.

What is written is read back as it was (`Proofs.WrittenJson`), and what is read
at all is settled in `Proofs.RequestLayout`: unknown members, blanks between
tokens and the spelling of a text make no difference.
-/
import RemediationLedger.Json.Record
import RemediationLedger.Request

namespace RemediationLedger

open Json

/-- The fields of a request, in the order in which they are written. -/
inductive RequestField where
  | findingId
  | executionId
  | findingType
  | remediationStatus
  | error
  | resourceId
  | resourceType
  | accountId
  | severity
  | region
  | lastUpdatedBy
  deriving DecidableEq, Repr

namespace RequestField

def all : List RequestField :=
  [findingId, executionId, findingType, remediationStatus, error, resourceId, resourceType,
    accountId, severity, region, lastUpdatedBy]

def name : RequestField → String
  | findingId => "findingId"
  | executionId => "executionId"
  | findingType => "findingType"
  | remediationStatus => "remediationStatus"
  | error => "error"
  | resourceId => "resourceId"
  | resourceType => "resourceType"
  | accountId => "accountId"
  | severity => "severity"
  | region => "region"
  | lastUpdatedBy => "lastUpdatedBy"

def isNullable : RequestField → Bool
  | error | resourceId | resourceType | accountId | severity | region => true
  | findingId | executionId | findingType | remediationStatus | lastUpdatedBy => false

def read (f : RequestField) : Reader (Option String) := fun cs =>
  if f.isNullable then readOptionalText cs
  else
    match readText cs with
    | .ok (s, rest) => .ok (some s, rest)
    | .error e => .error e

theorem shrinks_read (f : RequestField) : Shrinks f.read := by
  intro cs s rest h
  unfold read at h
  split at h
  · exact shrinks_readOptionalText h
  · split at h
    · rename_i ht
      cases h
      exact shrinks_readText ht
    · cases h

end RequestField

namespace Request

def shape : RecordShape RequestField (Option String) where
  expected := "struct RemediationUpdateRequest"
  fields := RequestField.all
  name := RequestField.name
  read := RequestField.read
  shrinks := RequestField.shrinks_read

/-- The value of a field that must be there; `missing` says what is wrong if it is not. -/
def required (entries : List (RequestField × Option String)) (missing : String → ShapeProblem)
    (f : RequestField) : Except ShapeProblem String :=
  match entries.lookup f with
  | some (some s) => .ok s
  | _ => .error (missing f.name)

def ofEntries (entries : List (RequestField × Option String)) (missing : String → ShapeProblem) :
    Except ShapeProblem Request := do
  let findingId ← required entries missing .findingId
  let executionId ← required entries missing .executionId
  let findingType ← required entries missing .findingType
  let remediationStatus ← required entries missing .remediationStatus
  let optional (f : RequestField) : Option String := (entries.lookup f).join
  return {
    findingId, executionId, findingType, remediationStatus
    error := optional .error
    resourceId := optional .resourceId
    resourceType := optional .resourceType
    accountId := optional .accountId
    severity := optional .severity
    region := optional .region
    lastUpdatedBy := (optional .lastUpdatedBy).getD automatedActor }

/-- The request that a record amounts to. The required fields are the first ones, so a list that
lacks one of them is too short. -/
def ofRecord : Entries RequestField (Option String) → Except ShapeProblem Request
  | .named entries => ofEntries entries .missingField
  | .listed entries =>
    ofEntries entries fun _ =>
      .invalidLength entries.length (shape.expected ++ " with 11 elements")

def ofJson (text : String) : Except Fault Request := decodeRecord shape ofRecord text

def values (r : Request) : List (RequestField × Option String) :=
  [(.findingId, some r.findingId), (.executionId, some r.executionId),
    (.findingType, some r.findingType), (.remediationStatus, some r.remediationStatus),
    (.error, r.error), (.resourceId, r.resourceId), (.resourceType, r.resourceType),
    (.accountId, r.accountId), (.severity, r.severity), (.region, r.region),
    (.lastUpdatedBy, some r.lastUpdatedBy)]

def toJson (r : Request) : String :=
  let present := r.values.filterMap fun (f, value) => value.map fun v => (f.name, v)
  String.ofList (quoteMembers present)

end Request

end RemediationLedger

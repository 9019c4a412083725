/-
The events that the ledger logs.

An event is what happened, with the values that belong to it; its level, its
target, its message and its named fields follow from that. Everything is told in
texts.

A client that logs says what happened and nothing about how a line looks
(`Program.note`), so a proof about an update's log is about a list of events,
and how a line is made of an event is a matter of `Log`. The four functions
`level`, `target`, `message` and `fields` are tables over the constructors of
`Event`, one row for each kind of event.

Events about an update carry its three ids. The ids are values of the event and
not part of its message: a message is a constant text that can be searched for,
and all that varies stands in the fields.
-/
import RemediationLedger.Error

namespace RemediationLedger

/-- How much an event matters, from most to least. -/
inductive Level where
  | error
  | warn
  | info
  | debug
  | trace
  deriving DecidableEq, Repr

namespace Level

def name : Level → String
  | error => "ERROR"
  | warn => "WARN"
  | info => "INFO"
  | debug => "DEBUG"
  | trace => "TRACE"

/-- How many levels matter at least as much as this one. -/
def rank : Level → Nat
  | error => 1
  | warn => 2
  | info => 3
  | debug => 4
  | trace => 5

end Level

structure UpdateIds where
  findingId : String
  executionId : String
  findingType : String
  deriving DecidableEq, Repr

def UpdateIds.fields (ids : UpdateIds) : List (String × String) :=
  [("finding_id", ids.findingId), ("execution_id", ids.executionId),
    ("finding_type", ids.findingType)]

/-- Something that happened and is worth a line in a log. -/
inductive Event where
  /-- An expected failure code was taken for a failure. -/
  | failureReasonMapped (status : String)
  /-- An unknown status was taken for a failure. -/
  | unknownStatus (status : String)
  /-- A request lacks one of its ids. -/
  | missingParameters (ids : UpdateIds)
  /-- The finding could not be read and counts as absent. -/
  | findingReadFailed (findingType findingId : String) (error : StoreError)
  /-- Both records are about to be updated. -/
  | attemptingUpdate (ids : UpdateIds) (status : String)
  /-- Both records could not be updated, for want of a history record. -/
  | historyMissing (ids : UpdateIds)
  /-- The finding does not exist, so there is nothing to update. -/
  | findingMissing (ids : UpdateIds) (error : StoreError)
  /-- A history record is about to be created without data from its finding. -/
  | noFindingData (findingType findingId : String)
  /-- The history record could not be put together. -/
  | recordNotBuilt (ids : UpdateIds) (error : LedgerError)
  /-- The history record was created and the finding updated. -/
  | historyCreated (ids : UpdateIds)
  /-- The history record was not created, so the finding alone is updated. -/
  | creationRefused (ids : UpdateIds) (conflict : Conflict)
  /-- The finding alone was updated. -/
  | findingUpdated (ids : UpdateIds)
  /-- The store refused a call for a reason of its own. -/
  | updateFailed (ids : UpdateIds) (tier : Tier) (error : StoreError)
  deriving DecidableEq, Repr

namespace Event

def level : Event → Level
  | failureReasonMapped _ => .debug
  | unknownStatus _ => .warn
  | missingParameters _ => .error
  | findingReadFailed .. => .warn
  | attemptingUpdate .. => .debug
  | historyMissing _ => .warn
  | findingMissing .. => .error
  | noFindingData .. => .debug
  | recordNotBuilt .. => .error
  | historyCreated _ => .info
  | creationRefused .. => .debug
  | findingUpdated _ => .debug
  | updateFailed .. => .error

/-- The part of the ledger that the event comes from. Filters go by it. -/
def target : Event → String
  | failureReasonMapped _ | unknownStatus _ => "remediation_engine::status"
  | missingParameters _ => "remediation_engine::request"
  | findingReadFailed .. => "remediation_engine::finding"
  | attemptingUpdate .. | historyMissing _ | findingMissing .. | noFindingData ..
  | recordNotBuilt .. | historyCreated _ | creationRefused .. | findingUpdated _
  | updateFailed .. => "remediation_engine::coordinator"

def message : Event → String
  | failureReasonMapped _ => "mapping failure reason to FAILED"
  | unknownStatus _ => "unknown remediation status defaulted to FAILED"
  | missingParameters _ => "Missing required parameters"
  | findingReadFailed .. => "Error retrieving finding data"
  | attemptingUpdate .. => "attempting update-update"
  | historyMissing _ => "update-update transaction canceled, history record missing"
  | findingMissing .. => "finding record missing, cannot update remediation status"
  | noFindingData .. => "no finding data for enrichment"
  | recordNotBuilt .. => "could not build history record"
  | historyCreated _ => "created history record and updated finding"
  | creationRefused .. => "create-history transaction canceled, falling back to finding-only"
  | findingUpdated _ => "updated finding only"
  | updateFailed .. => "remediation status update failed"

/-- The values that belong to the event, by name and in the order in which they are told. -/
def fields : Event → List (String × String)
  | failureReasonMapped status => [("status", status)]
  | unknownStatus status => [("status", status)]
  | missingParameters ids => ids.fields
  | findingReadFailed findingType findingId error =>
    [("finding_type", findingType), ("finding_id", findingId), ("error", error.message)]
  | attemptingUpdate ids status => ids.fields ++ [("status", status)]
  | historyMissing ids => ids.fields
  | findingMissing ids error => ids.fields ++ [("error", error.message)]
  | noFindingData findingType findingId =>
    [("finding_id", findingId), ("finding_type", findingType)]
  | recordNotBuilt ids error => ids.fields ++ [("error", error.message)]
  | historyCreated ids => ids.fields
  | creationRefused ids conflict => ids.fields ++ [("conflict", conflict.name)]
  | findingUpdated ids => ids.fields
  | updateFailed ids tier error =>
    ids.fields ++ [("tier", tier.name), ("error", error.message)]

end Event

end RemediationLedger

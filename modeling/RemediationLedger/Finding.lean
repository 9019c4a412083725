/-
The findings table: one row per finding, with its current status.

Findings are created elsewhere. Here they are read, for the sake of what they
tell about themselves, and updated.

* `Finding.extract` takes out of a row what a new history record will repeat:
  the named metadata, each a text or nothing, and the extras in the order of
  their names. A named attribute that is empty, or no text at all, counts as
  missing, since a record leaves out empty texts anyway.
* `Finding.isExtra` draws the line between the two tables. What the protocol
  owns never passes from a finding to a record, or an old status of the finding
  would become the first status of the record. The finding's own scan helper and
  the helpers of indexes, which have `#` in their names, say nothing about the
  finding.
* `Finding.updateFor` is the one way in which the ledger changes a finding. The
  condition is a parameter, because the three stages of the protocol write the
  same entries under different conditions.
-/
import RemediationLedger.Attribute
import RemediationLedger.Request
import RemediationLedger.Write

namespace RemediationLedger

structure FindingData where
  accountId : Option String := none
  resourceId : Option String := none
  resourceType : Option String := none
  severity : Option String := none
  region : Option String := none
  lastUpdatedBy : Option String := none
  /-- Every other text of the finding that concerns neither the protocol nor an index. -/
  extra : KeyMap String String := .empty
  deriving DecidableEq

/-- What a finding can tell about itself under the names that are reserved for it. -/
def FindingData.told (d : FindingData) : List (String × Option String) :=
  [(Attribute.accountId, d.accountId), (Attribute.resourceId, d.resourceId),
    (Attribute.resourceType, d.resourceType), (Attribute.severity, d.severity),
    (Attribute.region, d.region), (Attribute.lastUpdatedBy, d.lastUpdatedBy)]

def FindingData.metadata (d : FindingData) : List (String × String) := Attribute.given d.told

namespace Finding

def key (findingType findingId : String) : Key :=
  .of Attribute.findingType findingType Attribute.findingId findingId

/-- A text of the finding, if it is there and not empty. -/
def text? (item : Item) (name : String) : Option String :=
  ((item.get? name).bind Value.asText?).filter fun v => !v.isEmpty

/-- Whether an attribute is neither named metadata, nor the protocol's, nor the findings table's
scan helper, nor an index helper, whose names contain `#`. -/
def isExtra (settings : Settings) (name : String) : Bool :=
  !Attribute.metadata.contains name && !Attribute.ofProtocol.contains name
    && name != settings.findingScanHelperAttribute && !name.toList.contains '#'

def extraEntries (settings : Settings) (item : Item) : List (String × String) :=
  item.entries.filterMap fun (name, value) =>
    if isExtra settings name then value.asText?.map fun v => (name, v) else none

def extract (settings : Settings) (item : Item) : FindingData where
  accountId := text? item Attribute.accountId
  resourceId := text? item Attribute.resourceId
  resourceType := text? item Attribute.resourceType
  severity := text? item Attribute.severity
  region := text? item Attribute.region
  lastUpdatedBy := text? item Attribute.lastUpdatedBy
  extra := .ofList (extraEntries settings item)

/-- The update of a finding's status. An error of an earlier update stays unless the request has
one of its own. -/
def updateFor (settings : Settings) (request : Request) (condition : Option Condition) :
    Update :=
  let update := Update.of settings.findingsTable (key request.findingType request.findingId)
    |>.set Attribute.remediationStatus (.text request.remediationStatus)
    |>.setIfPresent Attribute.executionId (some request.executionId)
    |>.setIfPresent Attribute.error request.error
  { update with condition }

end Finding

end RemediationLedger

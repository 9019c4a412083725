/-
The attribute names that the ledger's two tables share.

Both tables live in one vocabulary. A history record repeats what its finding
tells about itself, so a name that meant one thing on a finding and another on a
record would let one of the two write over the other. The names are constants
here, and every module that reads or writes an attribute takes them from this
one.

Two lists divide the names, and the layers of a new record are built on the
division:

* `metadata`, what a finding tells about itself and its records repeat;
* `ofProtocol`, what the status protocol owns. A record takes none of these from
  the attributes of its finding.

A third kind has no list. Any other text attribute of a finding is an extra, and
which names are extras depends on the settings; `Finding.isExtra` says so.
-/

namespace RemediationLedger.Attribute

/-- Partition key of both tables. -/
def findingType : String := "findingType"

/-- Sort key of the findings table. -/
def findingId : String := "findingId"

/-- Sort key of the history table: the finding id, `#` and the execution id. -/
def findingIdExecutionId : String := "findingId#executionId"

def executionId : String := "executionId"
def remediationStatus : String := "remediationStatus"
def error : String := "error"
def lastUpdatedTime : String := "lastUpdatedTime"

/-- Sort helper for history queries in time order: the time, `#` and the finding id. -/
def lastUpdatedTimeFindingId : String := "lastUpdatedTime#findingId"

def lastUpdatedBy : String := "lastUpdatedBy"

/-- The moment at which a history record may be dropped, in seconds since 1970. -/
def expireAt : String := "expireAt"

def accountId : String := "accountId"
def resourceId : String := "resourceId"
def resourceType : String := "resourceType"
def severity : String := "severity"
def region : String := "region"

/-- What a finding tells about itself and its history records repeat. -/
def metadata : List String :=
  [accountId, resourceId, resourceType, severity, region, lastUpdatedBy]

/-- What the status protocol owns, and a history record never copies from its finding. -/
def ofProtocol : List String :=
  [findingType, findingId, findingIdExecutionId, executionId, remediationStatus, error,
    lastUpdatedTime, lastUpdatedTimeFindingId, expireAt]

def given (table : List (String × Option String)) : List (String × String) :=
  table.filterMap fun (name, text) => text.map fun s => (name, s)

end RemediationLedger.Attribute

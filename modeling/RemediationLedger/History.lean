/-
The history table: one row per finding and execution.

A new record is put together in layers, and a later layer wins: what the finding
tells about itself, what the request tells, and last the protocol's own
attributes. Empty texts are left out, so they hide nothing of an earlier layer;
the exceptions are the status and the scan helper, which are always written.

* `findingLayer` starts with the extras, so that a named attribute of the
  finding has the better right to its name.
* `requestLayer` filters the request's texts, the actor and the two ids alike.
* `protocolLayer` comes last. Its last entry is the scan helper, whose name is
  the settings' choice; where that is the name of an attribute of the protocol,
  the helper stands in the attribute's place.

The layers are lists of entries and `attributes` inserts them one after another
into an empty row, so that what a record holds under a name is the last entry of
that name (`Proofs.Layers`). `createFor` adds the two times, each of which can
fail: the expiry is reckoned from the moment given and the stamp is its UTC
form.
-/
import RemediationLedger.Finding
import RemediationLedger.Retention

namespace RemediationLedger.History

def key (request : Request) : Key :=
  .of Attribute.findingType request.findingType
    Attribute.findingIdExecutionId request.historySortKey

def textEntries (entries : List (String × String)) : List (String × Value) :=
  entries.filterMap fun (name, value) =>
    if value.isEmpty then none else some (name, .text value)

/-- The layer of a finding: its extra texts, then its named ones. -/
def findingLayer : Option FindingData → List (String × Value)
  | none => []
  | some data => textEntries (data.extra.entries ++ data.metadata)

/-- What a request can tell about its finding. -/
def requestTold (request : Request) : List (String × Option String) :=
  [(Attribute.accountId, request.accountId), (Attribute.resourceId, request.resourceId),
    (Attribute.resourceType, request.resourceType), (Attribute.severity, request.severity),
    (Attribute.region, request.region)]

def requestMetadata (request : Request) : List (String × String) :=
  Attribute.given (requestTold request)

def actor (settings : Settings) (request : Request) : String :=
  if request.lastUpdatedBy.isEmpty then settings.defaultActor else request.lastUpdatedBy

def requestLayer (settings : Settings) (request : Request) : List (String × Value) :=
  textEntries (requestMetadata request
    ++ [(Attribute.lastUpdatedBy, actor settings request),
      (Attribute.findingId, request.findingId), (Attribute.executionId, request.executionId)])

/-- The layer of the protocol, for a record stamped with a time and an expiry. -/
def protocolLayer (settings : Settings) (request : Request) (stamp : String) (expireAt : Int) :
    List (String × Value) :=
  [(Attribute.remediationStatus, .text request.remediationStatus),
    (Attribute.lastUpdatedTimeFindingId, .text (stamp ++ "#" ++ request.findingId)),
    (Attribute.lastUpdatedTime, .text stamp),
    (settings.scanHelperAttribute, .text settings.scanHelperValue),
    (Attribute.expireAt, .ofInt expireAt)]
    ++ textEntries ((request.error.map fun e => (Attribute.error, e)).toList)

def attributes (settings : Settings) (request : Request) (data : Option FindingData)
    (stamp : String) (expireAt : Int) : Item :=
  .ofList (findingLayer data ++ requestLayer settings request
    ++ protocolLayer settings request stamp expireAt)

/-- The creation of a request's history record, on condition that there is none. -/
def createFor (settings : Settings) (request : Request) (data : Option FindingData)
    (now : DateTime) : Except Failure Put :=
  match Retention.expireAt now settings.historyTtlDays with
  | .error e => .error e
  | .ok expireAt =>
    match now.timestamp? with
    | none => .error (.noUtcForm now)
    | some stamp =>
      let put := Put.of settings.historyTable (key request)
        (attributes settings request data stamp expireAt)
      .ok { put with condition := some .keyNotExists }

/-- The status update of a request's history record, on condition that there is one. -/
def updateFor (settings : Settings) (request : Request) : Update :=
  let update := Update.of settings.historyTable (key request)
    |>.set Attribute.remediationStatus (.text request.remediationStatus)
    |>.setIfPresent Attribute.error request.error
  { update with condition := some .keyExists }

end RemediationLedger.History

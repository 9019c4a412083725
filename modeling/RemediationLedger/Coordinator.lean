/-
The protocol that keeps a finding and its history records in step.

An update touches two rows: the finding's current status and the record of the
execution. Three writes are tried, each weaker than the one before, until the
store accepts one:

1. update both rows, each on condition that it exists (`pairUpdate`);
2. create the history record, on condition that there is none, and update the
   finding, on condition that it exists (`creation`);
3. update the finding alone, unconditionally.

The second stage starts with a read, since a new record repeats what the finding
tells about itself. Between that read and the creation another client may move,
and so may it between any two calls. Nothing that was read is relied on in a
condition, and a creation that comes too late falls through to the third stage.

The protocol holds no locks and tries nothing twice; all atomicity is that of
the store's transactions. Each stage below is the program that is left at that
point (`createHistory`, `createRecord`, `updateFinding`, and an `after…` for
each reply), so that what can still happen there can be read off it: a proof
about an update at rest between two calls is one about one of these programs,
not about a place inside a longer one.

The settings have passed their check before there is a coordinator, so an update
has no settings error left to report but an expiry that lies out of range.
-/
import RemediationLedger.Finding.Access
import RemediationLedger.History
import RemediationLedger.Status.Mapper

namespace RemediationLedger

/-- A coordinator works with settings that have passed their check. -/
structure Coordinator where
  settings : Settings
  usable : settings.validate = .ok ()

namespace Coordinator

def ofSettings (settings : Settings) : Except LedgerError Coordinator :=
  match h : settings.validate with
  | .ok () => .ok ⟨settings, h⟩
  | .error e => .error (.settings e)

def mapper (c : Coordinator) : StatusMapper := .ofReasons c.settings.failureReasons

/-- An update under way. -/
abbrev Run := Program (Except Failure Outcome)

/-! ## What is written -/

def pairUpdate (c : Coordinator) (r : Request) : List Write :=
  [.update (Finding.updateFor c.settings r (some .keyExists)),
    .update (History.updateFor c.settings r)]

def creation (c : Coordinator) (r : Request) (record : Put) : List Write :=
  [.update (Finding.updateFor c.settings r (some .keyExists)), .put record]

/-! ## The stages, from the last to the first -/

/-- Ends the update because the store refused a call for a reason of its own. -/
def giveUp (r : Request) (tier : Tier) (e : StoreError) : Run :=
  .note (.updateFailed r.ids tier e)
    (.done (.error (.reported (.store tier r.findingType r.findingId r.executionId e))))

def afterFindingUpdate (r : Request) : Except StoreError Unit → Run
  | .ok () => .note (.findingUpdated r.ids) (.done (.ok .findingOnly))
  | .error e => giveUp r .findingOnly e

def updateFinding (c : Coordinator) (r : Request) : Run :=
  .call (.update (Finding.updateFor c.settings r none)) (afterFindingUpdate r)

def afterCreation (c : Coordinator) (r : Request) : Except StoreError Unit → Run
  | .ok () => .note (.historyCreated r.ids) (.done (.ok .createdHistory))
  | .error e =>
    match Conflict.afterCreateHistory e with
    | .historyAlreadyExists =>
      .note (.creationRefused r.ids .historyAlreadyExists) (c.updateFinding r)
    | .findingMissing => .note (.creationRefused r.ids .findingMissing) (c.updateFinding r)
    | _ => giveUp r .createHistory e

/-- The transaction of the second stage, once it is known what the finding tells about itself. -/
def createRecord (c : Coordinator) (now : DateTime) (r : Request) (data : Option FindingData) :
    Run :=
  match History.createFor c.settings r data now with
  | .ok record => .call (.transact (c.creation r record)) (c.afterCreation r)
  | .error (.reported e) => .note (.recordNotBuilt r.ids e) (.done (.error (.reported e)))
  | .error (.noUtcForm moment) => .done (.error (.noUtcForm moment))

def afterRead (c : Coordinator) (now : DateTime) (r : Request) : Option FindingData → Run
  | none => .note (.noFindingData r.findingType r.findingId) (c.createRecord now r none)
  | some data => c.createRecord now r (some data)

def createHistory (c : Coordinator) (now : DateTime) (r : Request) : Run :=
  (Finding.readData c.settings r.findingType r.findingId).bind (c.afterRead now r)

def afterPairUpdate (c : Coordinator) (now : DateTime) (r : Request) :
    Except StoreError Unit → Run
  | .ok () => .done (.ok .updatedExisting)
  | .error e =>
    match Conflict.afterUpdateUpdate e with
    | .historyMissing => .note (.historyMissing r.ids) (c.createHistory now r)
    | .findingMissing =>
      .note (.findingMissing r.ids e)
        (.done (.error (.reported (.findingMissing r.findingType r.findingId))))
    | _ => giveUp r .updateUpdate e

/-- Applies a request, whose history record is stamped with the time `now` if it has to be
created. A request that is not valid is logged and left alone. -/
def apply (c : Coordinator) (now : DateTime) (r : Request) : Run :=
  if r.isValid then
    .note (.attemptingUpdate r.ids r.remediationStatus)
      (.call (.transact (c.pairUpdate r)) (c.afterPairUpdate now r))
  else .note (.missingParameters r.ids) (.done (.ok .skipped))

end Coordinator

end RemediationLedger

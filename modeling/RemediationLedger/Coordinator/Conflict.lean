/-
The stages of an update and the meaning of a refused transaction.

Every transaction of the protocol writes the finding first and the history
record second, and the two classifiers read the reasons of a cancelled one at
those positions. A reason from outside the protocol, at any position, makes the
refusal a fault, with one exception: a missing finding after the first stage is
final whatever else is reported.

* `afterUpdateUpdate` reads a refused update of both rows. The record may be
  missing, which calls for its creation, or the finding may be.
* `afterCreateHistory` reads a refused creation. Here the finding may be
  missing, or a record may have appeared in the meantime; either way the finding
  is updated alone.

Every other refusal is a fault of the store and ends the update. The classifiers
are functions of the error alone. Which store gave it, and what the rows are, is
no concern of theirs, so what they make of the lists of reasons can be settled
for lists of any length at once (`Proofs.Conflicts`).
-/
import RemediationLedger.Store.Error

namespace RemediationLedger

/-- The stages of an update, from the strongest write to the weakest. -/
inductive Tier where
  /-- Both records exist and are updated. -/
  | updateUpdate
  /-- The history record is created while the finding is updated. -/
  | createHistory
  /-- The finding alone is updated. -/
  | findingOnly
  deriving DecidableEq, Repr

def Tier.name : Tier → String
  | updateUpdate => "update-update"
  | createHistory => "create-history"
  | findingOnly => "finding-only"

inductive Outcome where
  /-- Both existing records were updated. -/
  | updatedExisting
  /-- The history record was created and the finding updated. -/
  | createdHistory
  /-- The finding was updated and the history left as it was. -/
  | findingOnly
  /-- The request was not valid and nothing was written. -/
  | skipped
  deriving DecidableEq, Repr

/-- What a refused transaction says about the two records. -/
inductive Conflict where
  | findingMissing
  | historyMissing
  | historyAlreadyExists
  | otherFault
  deriving DecidableEq, Repr

namespace Conflict

def name : Conflict → String
  | findingMissing => "FindingMissing"
  | historyMissing => "HistoryMissing"
  | historyAlreadyExists => "HistoryAlreadyExists"
  | otherFault => "OtherFault"

def findingIndex : Nat := 0

def historyIndex : Nat := 1

def afterUpdateUpdate (e : StoreError) : Conflict :=
  match e.reasons? with
  | none => otherFault
  | some reasons =>
    if e.conditionFailedAt findingIndex then findingMissing
    else if reasons.any CancellationReason.isForeign then otherFault
    else if e.conditionFailedAt historyIndex then historyMissing
    else otherFault

def afterCreateHistory (e : StoreError) : Conflict :=
  match e.reasons? with
  | none => otherFault
  | some reasons =>
    if reasons.any CancellationReason.isForeign then otherFault
    else if e.conditionFailedAt historyIndex then historyAlreadyExists
    else if e.conditionFailedAt findingIndex then findingMissing
    else otherFault

end Conflict

end RemediationLedger

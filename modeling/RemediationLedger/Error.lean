/-
How an operation of the ledger fails.

Conflicts that the protocol expects are dealt with inside it. What remains for
the caller is a missing finding, a store that refused a call for a reason of its
own, or unusable settings. One operation can also end without any of these: the
report about an expiry out of range, and the time stamp of a new record, give a
moment in UTC, and where that moment has no UTC form neither can be written.

* `LedgerError` is what a caller gets to see, with all that its message shows:
  the ids, the stage and the store's own error.
* `Failure` adds the end without a result. It is a constructor of its own and no
  `LedgerError`, since no caller can catch it and decide what to do: the update
  is gone in the middle of its second stage, with its first transaction refused
  and nothing written.

An update that ends so has neither a message nor an event for it. When that
happens is the subject of `Proofs.UtcForms` and, for updates among others, of
`Proofs.FirstCreator` and `Proofs.LastWriter`.
-/
import RemediationLedger.Calendar.DateTime
import RemediationLedger.Coordinator.Conflict
import RemediationLedger.Settings.Error

namespace RemediationLedger

/-- An error that is reported to the caller. -/
inductive LedgerError where
  /-- The finding that the update is about does not exist. -/
  | findingMissing (findingType findingId : String)
  /-- The store refused a call in a way that no weaker stage can make up for. -/
  | store (tier : Tier) (findingType findingId executionId : String) (source : StoreError)
  /-- The settings could not be loaded or are of no use. -/
  | settings (e : SettingsError)
  deriving DecidableEq, Repr

namespace LedgerError

def message : LedgerError → String
  | findingMissing findingType findingId =>
    s!"finding record missing: {findingType}/{findingId}"
  | store tier findingType findingId executionId source =>
    s!"{tier.name} failed for {findingType}/{findingId} execution {executionId}: {source.message}"
  | settings e => s!"invalid configuration: {e.message}"

def isStoreFault : LedgerError → Bool
  | settings _ => false
  | _ => true

end LedgerError

/-- How an operation ends without a result. -/
inductive Failure where
  /-- The caller is told what is wrong. -/
  | reported (e : LedgerError)
  /-- The operation breaks off, because this moment has no UTC form. -/
  | noUtcForm (moment : DateTime)
  deriving DecidableEq

end RemediationLedger

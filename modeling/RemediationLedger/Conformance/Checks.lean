/-
The checks that make up the contract of a record store.

Conditions must be kept, transactions must be carried out as a whole or not at
all, every refusal must say what it is, and of several clients that race for one
row exactly one must win. The clients of a race run one after another, in an
order that is as good as any other: a store that keeps its promises cannot tell.

The checks come in the four groups of `Category`, and `contract` lists them in
the order of reports:

* conditions, on single writes: what may be created, what may be changed, and
  what a refusal leaves behind;
* transactions: all writes or none, and a reason for each of them;
* refusals: a missing row is no error, an unknown table is told by its name, and
  a false condition is no fault of the store;
* races, with `racers` clients each.

The ledger's protocol relies on all of them. A missing reason would shift the
positions at which a conflict is read, and a store that took a false condition
for a fault of its own would end an update that has a weaker write to fall back
on.
-/
import RemediationLedger.Conformance.Check

namespace RemediationLedger.Conformance

/-! ## Conditions -/

def createsMissingRow : Step Unit := do
  obtain "conditional put"
    (← ask (.transact [.put (createStatus "EC2.1" "f-1#e-1" "IN_PROGRESS")]))
  requireStatus "EC2.1" "f-1#e-1" "IN_PROGRESS" fun got =>
    s!"expected status IN_PROGRESS, got {got}"

/-- A row cannot be created where there is one, and that one stays as it is. -/
def keepsExistingRow : Step Unit := do
  seed "EC2.1" "f-1#e-1" "IN_PROGRESS"
  requireRefusal (fun e => e.conditionFailedAt 0) "conditional cancellation"
    (← ask (.transact [.put (createStatus "EC2.1" "f-1#e-1" "SUCCESS")]))
  requireStatus "EC2.1" "f-1#e-1" "IN_PROGRESS" fun got => s!"existing item was modified: {got}"

def changesExistingRow : Step Unit := do
  seed "S3.1" "f-2" "IN_PROGRESS"
  obtain "conditional update"
    (← ask (.transact [.update (changeStatus "S3.1" "f-2" "SUCCESS")]))
  requireStatus "S3.1" "f-2" "SUCCESS" fun got => s!"expected status SUCCESS, got {got}"

/-- A row that does not exist cannot be changed, and does not come into being. -/
def leavesMissingRow : Step Unit := do
  requireRefusal (fun e => e.conditionFailedAt 0) "conditional cancellation"
    (← ask (.transact [.update (changeStatus "S3.1" "ghost" "SUCCESS")]))
  match ← status? "S3.1" "ghost" with
  | none => pure ()
  | some status => complain s!"item was created with status {status}"

def updateCreatesRow : Step Unit := do
  obtain "update" (← ask (.update (setStatus "IAM.1" "f-3" "FAILED")))
  requireStatus "IAM.1" "f-3" "FAILED" fun got => s!"expected status FAILED, got {got}"

def updateReportsCondition : Step Unit := do
  requireRefusal (fun e => e matches .conditionFailed _) "ConditionalCheckFailed"
    (← ask (.update (changeStatus "IAM.1" "ghost" "FAILED")))

/-! ## Transactions -/

def carriesOutBoth : Step Unit := do
  seed "EC2.1" "f-1" "IN_PROGRESS"
  seed "EC2.1" "f-1#e-1" "IN_PROGRESS"
  obtain "transaction"
    (← ask (.transact [.update (changeStatus "EC2.1" "f-1" "SUCCESS"),
      .update (changeStatus "EC2.1" "f-1#e-1" "SUCCESS")]))
  requireStatus "EC2.1" "f-1" "SUCCESS" fun got => s!"f-1: expected SUCCESS, got {got}"
  requireStatus "EC2.1" "f-1#e-1" "SUCCESS" fun got => s!"f-1#e-1: expected SUCCESS, got {got}"

def secondCancelsFirst : Step Unit := do
  seed "EC2.1" "f-1" "IN_PROGRESS"
  match ← ask (.transact [.update (changeStatus "EC2.1" "f-1" "SUCCESS"),
      .update (changeStatus "EC2.1" "f-1#e-1" "SUCCESS")]) with
  | .ok () => complain "expected cancellation, transaction succeeded"
  | .error e =>
    match e.reasons? with
    | none => complain s!"expected TransactionCanceled, got {detailOfError e}"
    | some reasons =>
      require (reasons == [.notAtFault, .conditionFailed])
        s!"unexpected reasons {detailOfReasons reasons}"
  requireStatus "EC2.1" "f-1" "IN_PROGRESS" fun got =>
    s!"first item changed despite cancellation: {got}"

/-- The reason for a cancellation is given with the write that is at fault. -/
def firstAloneAtFault : Step Unit := do
  seed "EC2.1" "f-1#e-1" "IN_PROGRESS"
  requireRefusal (fun e => e.conditionFailedAt 0 && !e.conditionFailedAt 1)
    "failure on index 0 only"
    (← ask (.transact [.update (changeStatus "EC2.1" "missing" "SUCCESS"),
      .update (changeStatus "EC2.1" "f-1#e-1" "SUCCESS")]))
  requireStatus "EC2.1" "f-1#e-1" "IN_PROGRESS" fun got =>
    s!"second item changed despite cancellation: {got}"

/-- If several writes are at fault each of them is told. -/
def everyFaultIsTold : Step Unit := do
  seed "EC2.1" "f-1#e-1" "IN_PROGRESS"
  requireRefusal (fun e => e.conditionFailedAt 0 && e.conditionFailedAt 1)
    "failure on both items"
    (← ask (.transact [.update (changeStatus "EC2.1" "missing" "SUCCESS"),
      .put (createStatus "EC2.1" "f-1#e-1" "SUCCESS")]))

def putReplacesRow : Step Unit := do
  obtain "seed with error"
    (← ask (.transact
      [.update ((setStatus "S3.1" "f-9" "IN_PROGRESS").set "error" (.text "boom"))]))
  seed "S3.1" "f-9" "SUCCESS"
  match ← obtain "get" (← ask (.get table (row "S3.1" "f-9"))) with
  | none => complain "item missing after put"
  | some item =>
    require (!item.contains "error") "put kept an attribute from the replaced item"
    let status := (item.get? "status").bind Value.asText?
    require (status == some "SUCCESS") s!"expected status SUCCESS, got {detailOfText status}"

/-! ## Refusals -/

def missingRowIsNoError : Step Unit := do
  let reply ← ask (.get table (row "EC2.1" "nope"))
  require (reply matches .ok none) s!"expected Ok(None), got {detailOfRead reply}"

def unknownTableIsTold : Step Unit := do
  let reply ← ask (.get unknownTable (row "EC2.1" "f-1"))
  let isTold := match reply with
    | .error (.tableNotFound name) => name == unknownTable
    | _ => false
  require isTold s!"expected TableNotFound, got {detailOfRead reply}"

/-- A condition that is false cancels a transaction and is no fault of the store. -/
def conditionIsNoStoreFault : Step Unit := do
  seed "EC2.1" "f-1" "SUCCESS"
  requireRefusal (fun e => e.reasons?.isSome) "TransactionCanceled"
    (← ask (.transact [.put (createStatus "EC2.1" "f-1" "FAILED")]))

def oneReasonPerWrite : Step Unit := do
  seed "EC2.1" "f-3" "SUCCESS"
  requireRefusal (fun e => e.reasons?.any fun reasons => reasons.length == 3)
    "3 cancellation reasons"
    (← ask (.transact [.put (putStatus "EC2.1" "f-1" "FAILED"),
      .put (putStatus "EC2.1" "f-2" "FAILED"), .put (createStatus "EC2.1" "f-3" "FAILED")]))

/-! ## Races -/

def racers : Nat := 10

/-- What each client of a race does, by its number, and how it ends. -/
def race {α : Type} (client : Nat → Program α) : Step (List α) :=
  ask ((List.range racers).mapM client)

/-- Of the clients that create one row exactly one succeeds, and the row is that client's. -/
def oneCreatorWins : Step Unit := do
  let replies ← race fun i =>
    .transact [.put (createStatus "EC2.1" "f-1#e-1" s!"writer-{i}")]
  let winners ← replies.zipIdx.filterMapM fun (reply, i) =>
    match reply with
    | .ok () => return some s!"writer-{i}"
    | .error e =>
      if e.conditionFailedAt 0 then return none
      else complain s!"storage error: {e.message}"
  match winners with
  | [winner] =>
    requireStatus "EC2.1" "f-1#e-1" winner fun got =>
      s!"stored item {got} does not match winner {winner}"
  | _ => complain s!"expected exactly 1 winner, got {winners.length}"

def differentRowsAllCreated : Step Unit := do
  let replies ← race fun i =>
    .transact [.put (createStatus "EC2.1" s!"f-1#e-{i}" "IN_PROGRESS")]
  for (reply, i) in replies.zipIdx do
    obtain s!"task {i} failed" reply
  for i in List.range racers do
    let status ← status? "EC2.1" s!"f-1#e-{i}"
    require status.isSome s!"f-1#e-{i} missing after concurrent create"

/-- Two rows that are always changed together never differ. Whether each client succeeds is left
to the store. -/
def pairNeverSplits : Step Unit := do
  seed "S3.1" "f-2" "NOT_STARTED"
  seed "S3.1" "f-2#e-1" "NOT_STARTED"
  let _ ← race fun i =>
    .transact [.update (changeStatus "S3.1" "f-2" s!"writer-{i}"),
      .update (changeStatus "S3.1" "f-2#e-1" s!"writer-{i}")]
  let finding ← status? "S3.1" "f-2"
  let history ← status? "S3.1" "f-2#e-1"
  require (finding == history)
    s!"items diverged: finding {detailOfText finding}, history {detailOfText history}"

/-! ## The contract -/

/-- All checks in the order of reports. -/
def contract : List Check :=
  [⟨.condition, "put_not_exists_creates_missing_item", createsMissingRow⟩,
    ⟨.condition, "put_not_exists_rejects_existing_item", keepsExistingRow⟩,
    ⟨.condition, "update_exists_applies_to_existing_item", changesExistingRow⟩,
    ⟨.condition, "update_exists_rejects_missing_item", leavesMissingRow⟩,
    ⟨.condition, "unconditional_update_creates_item", updateCreatesRow⟩,
    ⟨.condition, "single_update_exists_reports_conditional_failure", updateReportsCondition⟩,
    ⟨.transact, "update_and_update_both_applied", carriesOutBoth⟩,
    ⟨.transact, "second_item_failure_cancels_first", secondCancelsFirst⟩,
    ⟨.transact, "first_item_failure_reported_at_index_0", firstAloneAtFault⟩,
    ⟨.transact, "every_failing_item_is_reported", everyFaultIsTold⟩,
    ⟨.transact, "put_replaces_whole_item", putReplacesRow⟩,
    ⟨.error, "get_nonexistent_item_is_none", missingRowIsNoError⟩,
    ⟨.error, "get_unknown_table_is_table_not_found", unknownTableIsTold⟩,
    ⟨.error, "conditional_failure_is_not_a_backend_error", conditionIsNoStoreFault⟩,
    ⟨.error, "cancellation_reports_one_reason_per_item", oneReasonPerWrite⟩,
    ⟨.concurrent, "concurrent_conditional_create_exactly_one_wins", oneCreatorWins⟩,
    ⟨.concurrent, "concurrent_creates_different_keys_all_succeed", differentRowsAllCreated⟩,
    ⟨.concurrent, "concurrent_dual_updates_never_split", pairNeverSplits⟩]

end RemediationLedger.Conformance

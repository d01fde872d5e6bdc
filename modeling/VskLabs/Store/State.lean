import VskLabs.Library.Outcome
import VskLabs.Library.Table
import VskLabs.Contracts.Validation

/-! The database of the run protocol: one table per SQL table, each row with the
columns the modelled statements read. Digests that only serve as keys stand for
the values they are computed from. -/

namespace VskLabs
open Library

inductive RunOperation where
  | cancel | resume
  deriving DecidableEq

inductive RunEvent where
  | transitioned (source target : Status) (time : Time)
  | cancellationRequested (time : Time)
  | stepIntentRecorded (stepID leaseID : String) (time : Time)
  | stepFinished (receiptID : String)
  | stepReceiptRecorded (receiptID : String)
  | stepEffectUnknown (stepID : String) (time : Time)
  | stepFailedBeforeEffect (stepID : String) (time : Time)
  | stepInterruptedBeforeEffect (stepID : String) (time : Time)
  deriving DecidableEq

/-- The scope and key digest of a row of `intent_keys`. -/
inductive IntentKey where
  | runSubmit (submitKey : String)
  | runMutation (runID : String) (event : RunEvent)
  | runLease (leaseID : String)
  | runOperationClaim (operation : RunOperation) (runID key : String)
  | runOperationComplete (operation : RunOperation) (runID key : String)
  | executorLeaseClaim (leaseID : String)
  | executorLeaseRenew (leaseID nonceDigest : String)
  | executorLeaseExpire (time : Time)
  | executorReceipt (receiptID : String)
  deriving DecidableEq

/-- What `Engine.submit` digests into the request digest of a run. -/
structure SubmitDigest where
  reference : PlanReferenceRequest
  principalID : String
  branch : Option AuthorizationBranch
  acknowledgementID : Option String
  deriving DecidableEq

inductive RequestDigest where
  | runSubmit (request : SubmitDigest)
  | runMutation
  | targetLease (leaseID bindingDigest nonceDigest : String)
  | runOperation (operation : RunOperation) (reference : RunReferenceRequest)
  | runOperationResult (run : Run) (errorCode : Option ErrorCode)
  | executorLeaseClaim (lease : ExecutorLease) (principalID : String)
  | executorLeaseRenew (nextNonceDigest : String) (time : Time)
  | executorLeaseExpire
  | executorReceipt (receipt : ExecutionReceipt) (expectedBindingDigest : String)
  deriving DecidableEq

structure IntentRow where
  key : IntentKey
  request : RequestDigest

/-- A row of `plan_runs`; `run` is the document in `canonical_bytes`. -/
structure RunRow where
  (runID planID : String)
  status : Status
  submitKey : String
  request : SubmitDigest
  run : Run
  (createdAt updatedAt : Time)

/-- A row of `plan_run_steps`. -/
structure StepRow where
  (stepID runID : String)
  status : Status
  effectState : EffectState

/-- A row of `target_execution_leases`; `lease` is its `canonical_bytes`. -/
structure LeaseRow where
  (leaseID runID stepID targetID bindingDigest nonceDigest : String)
  recoveryEpoch : Int
  (claimedAt renewAfter expiresAt maximumExpiresAt : Time)
  status : LeaseStatus
  lease : ExecutorLease
  kind : ExecutorMode
  lastRenewedAt : Option Time
  renewalCount : Nat

/-- A row of `execution_receipts` or `external_execution_observations`. -/
structure ReceiptRow where
  (receiptID leaseID runID stepID : String)
  status : Status
  receipt : ExecutionReceipt

/-- A row of `executor_lease_nonce_history`. -/
structure NonceRow where
  leaseID : String
  sequence : Nat
  nonceDigest : String
  acceptedAt : Time

/-- A row of `run_detail_events`. -/
structure DetailRow where
  runID : String
  occurredAt : Time

/-- A row of `run_operation_keys`. -/
structure OperationRow where
  operation : RunOperation
  (runID keyDigest : String)
  request : RunReferenceRequest
  result : Option (Run × Option ErrorCode)

def OperationRow.key (row : OperationRow) : RunOperation × String × String :=
  (row.operation, row.runID, row.keyDigest)

inductive ReferenceTable where
  | serviceCatalog | serviceImportRunActors | serviceDeploymentAttempts | serviceDeployments
  | networkEndpointRevisions | hostingLifecycleAttempts | hostingLifecycleRecords
  | serviceRecoveryAttempts | serviceRecoveries | ciEnrollments | ciJobExecutions
  | notificationReadinessReceipts | backupRetentionLockCatalogActivations
  | backupRetirementLeases | hostControlResults

inductive ReferenceTarget where
  | run (runID : String)
  | step (stepID : String)
  | lease (leaseID : String)
  | receipt (receiptID : String)

structure ReferenceRow where
  table : ReferenceTable
  target : ReferenceTarget

structure Store where
  plans : Table Plan.planID
  runs : Table RunRow.runID
  steps : Table StepRow.stepID
  leases : Table LeaseRow.leaseID
  (receipts observations : Table ReceiptRow.receiptID)
  nonces : Table NonceRow.nonceDigest
  details : List DetailRow
  operationKeys : Table OperationRow.key
  references : List ReferenceRow
  intents : Table IntentRow.key
  (stateRevision recoveryEpoch : Int)

namespace Store

def fresh (plans : Table Plan.planID) (stateRevision recoveryEpoch : Int) : Store where
  plans := plans
  runs := .empty
  steps := .empty
  leases := .empty
  receipts := .empty
  observations := .empty
  nonces := .empty
  details := []
  operationKeys := .empty
  references := []
  intents := .empty
  stateRevision := stateRevision
  recoveryEpoch := recoveryEpoch

def Recorded (store : Store) (key : IntentKey) : Prop := (store.intents.find? key).isSome

def document (store : Store) (runID : String) : Option Run := (store.runs.find? runID).map RunRow.run

/-- `UPDATE plan_run_steps SET ... WHERE step_id=? AND run_id=? AND <guard>`. -/
def updateStep (store : Store) (runID stepID : String) (guard : StepRow → Bool) (status : Status)
    (effectState : EffectState) : Store :=
  { store with steps := store.steps.modify
                 (fun row => row.stepID == stepID && row.runID == runID && guard row)
                 (fun row => { row with status := status, effectState := effectState })
                 fun _ => rfl }

/-- `UPDATE plan_runs SET canonical_bytes=?, ... WHERE run_id=? AND <guard>`. -/
def updateRun (store : Store) (run : Run) (guard : RunRow → Bool) (change : RunRow → RunRow)
    (keeps : ∀ row, (change row).runID = row.runID) : Store :=
  { store with runs := store.runs.modify (fun row => row.runID == run.runID && guard row) change keeps }

def appendDetail (store : Store) (runID : String) (occurredAt : Time) : Store :=
  { store with details := store.details ++ [⟨runID, occurredAt⟩] }

end Store

/-- `Store.executeAuditIntent`. The business step runs once per key: a recorded
key answers `none` and changes nothing, under a different request it is a
conflict. The audit event, its sequence and the outbox are not modelled. -/
def executeAuditIntent {α : Type} (store : Store) (expected : Option (Int × Int)) (key : IntentKey)
    (request : RequestDigest) (business : Store → Except Failure (α × Store)) :
    Except Failure (Option α × Store) := do
  ensure (expected.all fun token => token.2 == store.recoveryEpoch)
    (.coded .recoveryEpochMismatch "database-revision")
  ensure (expected.all fun token => token.1 == store.stateRevision)
    (.coded .stateConflict "database-revision")
  match store.intents.find? key with
  | some row =>
    ensure (row.request == request) (.coded .stateConflict "audit-intent-key")
    return (none, store)
  | none =>
    let (value, after) ← business store
    let intents ← require (after.intents.insert? ⟨key, request⟩) constraintViolated
    return (some value, { after with intents := intents })

end VskLabs

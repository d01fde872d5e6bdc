import VskLabs.Store.State

/-! The transactions of `RunRepository`. Each definition is one serialized
transaction; the methods that run several of them are programs over these. -/

namespace VskLabs
open Library

structure RunCreateRequest where
  run : Run
  submitKey : String
  request : SubmitDigest

structure RunTransitionRequest where
  runID : String
  (source target : Status)
  time : Time
  verificationStatus : Option VerificationStatus := none
  verificationDigest : Option String := none
  rollbackStatus : Option RollbackStatus := none
  changed : Option Bool := none
  deriving DecidableEq

structure StepBeginRequest where
  (runID stepID leaseID : String)
  time : Time

structure ReceiptRecordRequest where
  (runID stepID leaseID : String)
  receipt : ExecutionReceipt
  time : Time

structure StepFinishRequest where
  (runID stepID leaseID : String)
  receipt : ExecutionReceipt
  status : Status
  effectState : EffectState
  verificationDigest : String
  changed : Bool
  time : Time

def terminalRunStatus (status : Status) : Bool :=
  [Status.succeeded, .failed, .partialOutcome, .cancelled].contains status

def leaseRow (lease : ExecutorLease) (kind : ExecutorMode) : LeaseRow where
  leaseID := lease.leaseID
  runID := lease.runID
  stepID := lease.stepID
  targetID := lease.targetID
  bindingDigest := lease.bindingDigest
  nonceDigest := lease.nonceDigest
  recoveryEpoch := lease.recoveryEpoch
  claimedAt := lease.claimedAt
  renewAfter := lease.renewAfter
  expiresAt := lease.leaseExpiresAt
  maximumExpiresAt := lease.maximumExpiresAt
  status := lease.status
  lease := lease
  kind := kind
  lastRenewedAt := none
  renewalCount := 0

namespace RunRepository

/-- The checks of `Create` before it touches the database. -/
def admissible (request : RunCreateRequest) : Bool :=
  request.run.status == .queued && !request.run.cancellationRequested &&
    request.run.rollbackStatus == .notRequested && request.run.verificationStatus == .pending &&
    request.run.verificationDigest == none && validRunDocument request.run

/-- `existing`: the run an earlier submission under this key created. -/
def existing (store : Store) (submitKey : String) (request : SubmitDigest) : Except Failure (Option Run) :=
  match store.runs.rows.find? fun row => row.submitKey == submitKey with
  | none => return none
  | some row => do
    ensure (row.request == request) (.coded .stateConflict "run-submit-key")
    return some (← decodeRun row.run)

def verifyPlanBindingInTx (store : Store) (run : Run) : Except Failure Plan := do
  let plan ← require (store.plans.find? run.planID) (.coded .planStale "plan")
  ensure (plan.planDigest == run.planDigest && plan.binding.stateRevision == run.stateRevision &&
    plan.binding.recoveryEpoch == run.recoveryEpoch) (.coded .planStale "plan")
  return plan

def soleOperation (plan : Plan) (kind : String) : Bool :=
  match plan.operations with
  | [operation] => operation.operationType == kind
  | _ => false

def isNotificationReadiness (plan : Plan) : Bool :=
  match plan.operations with
  | [operation] =>
    operation.operationType == "operations.notification-readiness.test" &&
      operation.adapterID == "operations.notification-readiness"
  | _ => false

/-- The plans for which `persistServiceImportActor` records who submitted the
run. Its row references the run without cascading. -/
def recordsActor (plan : Plan) : Bool :=
  isNotificationReadiness plan || soleOperation plan "ci.artifact.publish" ||
    soleOperation plan "artifact.publish.manual" || plan.requests.ciJob || plan.requests.ciEnrollment ||
    plan.requests.hostingLifecycle || plan.requests.serviceRecovery || plan.requests.serviceImport ||
    plan.requests.serviceDeployment

def persistServiceImportActor (store : Store) (plan : Plan) (run : Run) : Store :=
  if recordsActor plan then
    { store with references := store.references ++ [⟨.serviceImportRunActors, .run run.runID⟩] }
  else store

/-- The step rows of a new run, in order. -/
def insertSteps (runID : String) : List RunStep → Store → Except Failure Store
  | [], store => return store
  | step :: rest, store => do
    let steps ← require (store.steps.insert? ⟨step.stepID, runID, step.status, step.effectState⟩) constraintViolated
    insertSteps runID rest { store with steps := steps }

/-- The transaction of `Create`. -/
def create (store : Store) (request : RunCreateRequest) : Except Failure (Option Run × Store) :=
  let run := request.run
  executeAuditIntent store (some (run.stateRevision, run.recoveryEpoch)) (.runSubmit request.submitKey)
    (.runSubmit request.request) fun store => do
    let plan ← verifyPlanBindingInTx store run
    -- the unique indexes on the submit key and on a present acknowledgement
    ensure (store.runs.rows.all fun row => row.submitKey != request.submitKey &&
      (run.acknowledgementID == none || row.run.acknowledgementID != run.acknowledgementID)) constraintViolated
    let runs ← require (store.runs.insert? ⟨run.runID, run.planID, run.status, request.submitKey,
      request.request, run, run.createdAt, run.updatedAt⟩) constraintViolated
    let store := persistServiceImportActor { store with runs := runs } plan run
    let store ← insertSteps run.runID run.steps store
    return (run, store.appendDetail run.runID run.createdAt)

/-- `Get` and `GetRun`. -/
def getRun (store : Store) (runID : String) : Except Failure Run := do
  ensure (validRunToken runID) (.coded .inputInvalid "run")
  let row ← require (store.runs.find? runID) (.coded .resourceNotFound "run")
  decodeRun row.run

/-- The order of `ORDER BY created_at,run_id`. -/
def activeBefore (first second : RunRow) : Prop :=
  first.createdAt < second.createdAt ∨ (first.createdAt = second.createdAt ∧ first.runID ≤ second.runID)

instance : DecidableRel activeBefore := fun _ _ => inferInstanceAs (Decidable (_ ∨ _ ∧ _))

def activeStatus (status : Status) : Bool := [Status.queued, .running, .interrupted].contains status

def activeRuns (store : Store) : Except Failure (List Run) :=
  ((store.runs.rows.filter fun row => activeStatus row.status).insertionSort activeBefore).mapM fun row =>
    decodeRun row.run

/-- `mutateRun`. `none` reports a recorded key: the mutation did not run. -/
def mutateRun (store : Store) (runID : String) (event : RunEvent)
    (mutate : Run → Store → Except Failure (Run × Store)) : Except Failure (Option Run × Store) := do
  ensure (validRunToken runID) (.coded .inputInvalid "run")
  executeAuditIntent store none (.runMutation runID event) .runMutation fun store => do
    let row ← require (store.runs.find? runID) (.coded .resourceNotFound "run")
    let run ← decodeRun row.run
    let (run, store) ← mutate run store
    ensure (validRunDocument run) (.coded .integrityFailure "run")
    ensure (store.runs.find? run.runID).isSome (.coded .stateConflict "run")
    let store := store.updateRun run (fun _ => true)
      (fun row => { row with status := run.status, run := run, updatedAt := run.updatedAt }) fun _ => rfl
    return (run, store.appendDetail run.runID run.updatedAt)

def requeueSteps (runID : String) : List RunStep → Store → Except Failure (List RunStep × Store)
  | [], store => return ([], store)
  | step :: rest, store =>
    if step.status != .interrupted then do
      let (steps, store) ← requeueSteps runID rest store
      return (step :: steps, store)
    else if !step.idempotent || step.effectState != .notStarted then
      throw (.coded .recoveryRequired "run-resume")
    else do
      let store := store.updateStep runID step.stepID
        (fun row => row.status == .interrupted && row.effectState == .notStarted) .queued .notStarted
      let (steps, store) ← requeueSteps runID rest store
      return ({ step with status := .queued } :: steps, store)

/-- The loop that closes queued steps when a run leaves execution. The guarded
row keeps whatever effect state it has. -/
def closeSteps (runID : String) (status : Status) : List RunStep → Store → List RunStep × Store
  | [], store => ([], store)
  | step :: rest, store =>
    if step.status != .queued then
      let (steps, store) := closeSteps runID status rest store
      (step :: steps, store)
    else
      let selected (row : StepRow) := row.stepID == step.stepID && row.runID == runID && row.status == .queued
      let store := { store with steps := store.steps.modify selected (fun row => { row with status := status }) fun _ => rfl }
      let (steps, store) := closeSteps runID status rest store
      ({ step with status := status } :: steps, store)

/-- What `TransitionRun` does to the document and the step rows. -/
def transitionMutation (request : RunTransitionRequest) (run : Run) (store : Store) :
    Except Failure (Run × Store) := do
  ensure (run.status == request.source) (.coded .stateConflict "run-transition")
  let run := { run with status := request.target, updatedAt := request.time }
  let (steps, store) ←
    if request.source == .interrupted && request.target == .running then requeueSteps run.runID run.steps store
    else pure (run.steps, store)
  let (steps, store) :=
    if [Status.cancelled, .interrupted, .failed, .partialOutcome].contains request.target then
      closeSteps run.runID (if request.target == .cancelled then .cancelled else .interrupted) steps store
    else (steps, store)
  return ({ run with
    steps := steps
    verificationStatus := request.verificationStatus.getD run.verificationStatus
    verificationDigest := if request.verificationStatus.isSome then request.verificationDigest else run.verificationDigest
    rollbackStatus := request.rollbackStatus.getD run.rollbackStatus
    changed := request.changed.getD run.changed }, store)

def transitionRun (store : Store) (request : RunTransitionRequest) : Except Failure (Option Run × Store) := do
  ensure (validRunToken request.runID && !request.time.isZero && validRunTransition request.source request.target)
    (.coded .stateConflict "run-transition")
  mutateRun store request.runID (.transitioned request.source request.target request.time) (transitionMutation request)

def requestCancellation (store : Store) (runID : String) (time : Time) : Except Failure (Option Run × Store) := do
  ensure (!time.isZero) (.coded .inputInvalid "run-cancellation")
  mutateRun store runID (.cancellationRequested time) fun run store => do
    ensure (!terminalRunStatus run.status) (.coded .stateConflict "run-cancellation")
    return ({ run with cancellationRequested := true, updatedAt := time }, store)

def runAndPlanInTx (store : Store) (runID : String) : Except Failure (Run × Plan) := do
  let row ← require (store.runs.find? runID) (.coded .resourceNotFound "run")
  let plan ← require (store.plans.find? row.planID) (.coded .resourceNotFound "run")
  let run ← decodeRun row.run
  ensure plan.exactContract (.coded .integrityFailure "plan")
  return (run, plan)

/-- `INSERT INTO target_execution_leases` under its primary key, its foreign
keys and the unique indexes on active targets and active steps. -/
def insertLease (store : Store) (lease : ExecutorLease) (kind : ExecutorMode) : Except Failure Store := do
  ensure (store.leases.rows.all fun row => row.status != .active ||
    (row.targetID != lease.targetID && row.stepID != lease.stepID)) constraintViolated
  ensure ((store.runs.find? lease.runID).isSome && (store.steps.find? lease.stepID).isSome) constraintViolated
  let leases ← require (store.leases.insert? (leaseRow lease kind)) constraintViolated
  return { store with leases := leases }

def acquireTargetLease (store : Store) (lease : ExecutorLease) : Except Failure (Unit × Store) := do
  ensure (validLease lease) (.coded .inputInvalid "target-lease")
  let (_, store) ← executeAuditIntent store none (.runLease lease.leaseID)
    (.targetLease lease.leaseID lease.bindingDigest lease.nonceDigest) fun store => do
    let (run, plan) ← runAndPlanInTx store lease.runID
    ensure (validExecutorLeaseBinding plan run lease && run.status == .running && lease.status == .active)
      (.coded .stateConflict "target-lease")
    return ((), ← insertLease store lease .central)
  return ((), store)

/-- `UPDATE target_execution_leases SET status=?,canonical_bytes=json_set(..)`
for the active leases a condition selects. -/
def closeLeases (store : Store) (selected : LeaseRow → Bool) (status : LeaseStatus) : Store :=
  { store with leases := store.leases.modify (fun row => selected row && row.status == .active)
                 (fun row => { row with status := status, lease := { row.lease with status := status } })
                 fun _ => rfl }

def releaseTargetLease (store : Store) (leaseID : String) (time : Time) : Except Failure (Unit × Store) := do
  ensure (validRunToken leaseID && !time.isZero) (.coded .inputInvalid "target-lease")
  ensure ((store.leases.find? leaseID).any fun row => row.status == .active) (.coded .stateConflict "target-lease")
  return ((), closeLeases store (fun row => row.leaseID == leaseID) .released)

def releaseRunLeases (store : Store) (runID : String) (time : Time) : Except Failure (Unit × Store) := do
  ensure (validRunToken runID && !time.isZero) (.coded .inputInvalid "target-lease")
  return ((), closeLeases store (fun row => row.runID == runID) .released)

def beginStep (store : Store) (request : StepBeginRequest) : Except Failure (Option Run × Store) := do
  ensure (!request.time.isZero && validRunToken request.stepID && validRunToken request.leaseID)
    (.coded .inputInvalid "run-step")
  mutateRun store request.runID (.stepIntentRecorded request.stepID request.leaseID request.time) fun run store => do
    let step ← require (findStep run request.stepID) (.coded .stateConflict "run-step")
    ensure (run.status == .running && step.status == .queued && step.effectState == .notStarted)
      (.coded .stateConflict "run-step")
    ensure ((store.leases.find? request.leaseID).any fun row => row.runID == request.runID &&
      row.stepID == request.stepID && row.status == .active) (.coded .stateConflict "run-step-lease")
    let _ ← runAndPlanInTx store request.runID
    let run := { run.writeStep request.stepID .running .intentRecorded with updatedAt := request.time }
    return (run, store.updateStep request.runID request.stepID
      (fun row => row.status == .queued && row.effectState == .notStarted) .running .intentRecorded)

/-- `verifyStoredReceipt`: the first stored receipt with this id, from either
table, is exactly the given one. -/
def verifyStoredReceipt (store : Store) (receipt : ExecutionReceipt) : Except Failure Unit := do
  let stored ← require ((store.receipts.find? receipt.receiptID).orElse fun _ =>
    store.observations.find? receipt.receiptID) (.coded .stateConflict "run-receipt")
  ensure (stored.receipt == receipt) (.coded .stateConflict "run-receipt")

def finishStep (store : Store) (request : StepFinishRequest) : Except Failure (Option Run × Store) := do
  ensure (!request.time.isZero && request.effectState == .verified && request.verificationDigest != "" &&
    validReceipt request.receipt && [Status.succeeded, .failed, .partialOutcome].contains request.status)
    (.coded .inputInvalid "run-step-result")
  mutateRun store request.runID (.stepFinished request.receipt.receiptID) fun run store => do
    let step ← require (findStep run request.stepID) (.coded .stateConflict "run-step-result")
    ensure (request.receipt.runID == run.runID && request.receipt.stepID == step.stepID &&
      request.receipt.leaseID == request.leaseID) (.coded .stateConflict "run-step-result")
    if step.status == request.status && step.effectState == request.effectState then
      verifyStoredReceipt store request.receipt
      return (run, store)
    else
      ensure (step.status == .running && step.effectState == .receiptRecorded) (.coded .stateConflict "run-step-result")
      verifyStoredReceipt store request.receipt
      let run := { run.writeStep request.stepID request.status request.effectState with
        changed := run.changed || request.changed, updatedAt := request.time }
      return (run, store.updateStep run.runID step.stepID
        (fun row => row.status == .running && row.effectState == .receiptRecorded) request.status request.effectState)

def recordReceipt (store : Store) (request : ReceiptRecordRequest) : Except Failure (Option Run × Store) := do
  ensure (!request.time.isZero && validReceipt request.receipt) (.coded .inputInvalid "run-receipt")
  mutateRun store request.runID (.stepReceiptRecorded request.receipt.receiptID) fun run store => do
    let step ← require (findStep run request.stepID) (.coded .stateConflict "run-receipt")
    ensure (request.receipt.runID == run.runID && request.receipt.stepID == step.stepID &&
      request.receipt.leaseID == request.leaseID) (.coded .stateConflict "run-receipt")
    if step.effectState == .receiptRecorded then
      verifyStoredReceipt store request.receipt
      return (run, store)
    else
      ensure (step.status == .running && step.effectState == .intentRecorded) (.coded .stateConflict "run-receipt")
      let lease ← require ((store.leases.find? request.leaseID).filter fun row => row.runID == run.runID &&
        row.stepID == step.stepID && row.status == .active) (.coded .stateConflict "run-step-lease")
      ensure (validExecutionReceiptBinding lease.lease request.receipt) (.coded .integrityFailure "run-receipt-binding")
      ensure ((store.receipts.rows.all fun row => row.leaseID != request.leaseID) &&
        (store.steps.find? step.stepID).isSome) constraintViolated
      let receipts ← require (store.receipts.insert? ⟨request.receipt.receiptID, request.leaseID, run.runID,
        step.stepID, request.receipt.status, request.receipt⟩) constraintViolated
      -- the document keeps the status and moves its effect state only
      let run := { run.writeStep request.stepID step.status .receiptRecorded with updatedAt := request.time }
      let store := { store with receipts := receipts }
      return (run, store.updateStep run.runID step.stepID
        (fun row => row.status == .running && row.effectState == .intentRecorded) .running .receiptRecorded)

/-- The three ways a step in flight is settled without a verified result share
one shape: the accepted effect states, the new pair, and what else the document
records. -/
def settleStep (store : Store) (runID stepID : String) (time : Time) (event : RunEvent)
    (accepted : List EffectState) (status : Status) (effectState : EffectState) (changed : Bool → Bool) :
    Except Failure (Option Run × Store) :=
  mutateRun store runID event fun run store => do
    let step ← require (findStep run stepID) (.coded .stateConflict "run-step")
    ensure (step.status == .running && accepted.contains step.effectState) (.coded .stateConflict "run-step")
    let run := { run.writeStep stepID status effectState with changed := changed run.changed, updatedAt := time }
    return (run, store.updateStep runID stepID
      (fun row => row.status == .running && accepted.contains row.effectState) status effectState)

def markStepUnknown (store : Store) (runID stepID : String) (time : Time) : Except Failure (Option Run × Store) :=
  settleStep store runID stepID time (.stepEffectUnknown stepID time) [.intentRecorded, .receiptRecorded]
    .partialOutcome .effectUnknown fun _ => true

def failStepBeforeEffect (store : Store) (runID stepID : String) (time : Time) : Except Failure (Option Run × Store) :=
  settleStep store runID stepID time (.stepFailedBeforeEffect stepID time) [.intentRecorded] .failed .notStarted id

def interruptStepBeforeEffect (store : Store) (runID stepID : String) (time : Time) :
    Except Failure (Option Run × Store) :=
  settleStep store runID stepID time (.stepInterruptedBeforeEffect stepID time) [.intentRecorded] .interrupted .notStarted id

/-- The transaction of `ClaimRunOperation`. -/
def claimRunOperation (store : Store) (operation : RunOperation) (reference : RunReferenceRequest) (time : Time) :
    Except Failure (Unit × Store) := do
  ensure (validRunToken reference.runID && !time.isZero) (.coded .inputInvalid "run-operation")
  let (_, store) ← executeAuditIntent store none
    (.runOperationClaim operation reference.runID reference.idempotencyKey) (.runOperation operation reference) fun store => do
    ensure (store.runs.find? reference.runID).isSome (.coded .resourceNotFound "run")
    let keys ← require (store.operationKeys.insert? ⟨operation, reference.runID, reference.idempotencyKey,
      reference, none⟩) constraintViolated
    return ((), { store with operationKeys := keys })
  return ((), store)

/-- The transaction of `CompleteRunOperation`. -/
def completeRunOperation (store : Store) (operation : RunOperation) (reference : RunReferenceRequest) (run : Run)
    (errorCode : Option ErrorCode) (time : Time) : Except Failure (Unit × Store) := do
  ensure (run.runID == reference.runID && validRunDocument run && !time.isZero) (.coded .inputInvalid "run-operation")
  let (_, store) ← executeAuditIntent store none
    (.runOperationComplete operation reference.runID reference.idempotencyKey) (.runOperationResult run errorCode) fun store => do
    ensure ((store.operationKeys.find? (operation, reference.runID, reference.idempotencyKey)).any fun row =>
      row.request == reference && row.result == none) (.coded .stateConflict "run-operation")
    let keys := store.operationKeys.modify
      (fun row => row.key == (operation, reference.runID, reference.idempotencyKey) && row.request == reference &&
        row.result == none)
      (fun row => { row with result := some (run, errorCode) }) fun _ => rfl
    return ((), { store with operationKeys := keys })
  return ((), store)

/-- `runOperation`: the recorded outcome of an operation, `none` while it is pending. -/
def runOperation (store : Store) (operation : RunOperation) (reference : RunReferenceRequest) :
    Except Failure (Option (Run × Option ErrorCode)) := do
  let row ← require (store.operationKeys.find? (operation, reference.runID, reference.idempotencyKey)) .unclassified
  ensure (row.request == reference) (.coded .stateConflict "run-operation-key")
  match row.result with
  | none => return none
  | some (run, errorCode) => return some (← decodeRun run, errorCode)

end RunRepository

end VskLabs

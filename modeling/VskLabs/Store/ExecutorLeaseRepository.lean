import VskLabs.Store.RunRepository

/-! The transactions of `ExecutorLeaseRepository`: claiming, renewing and
expiring external leases and recording what their executors report. -/

namespace VskLabs
open Library

structure ExecutorLeaseClaimRequest where
  request : ExecutorClaimRequest
  lease : ExecutorLease
  time : Time
  authenticatedPrincipalID : String

structure ExecutorLeaseRenewalRequest where
  request : ExecutorRenewRequest
  nextNonceDigest : String
  time : Time

structure ExecutorReceiptPersistenceRequest where
  request : ExecutionReceiptRequest
  time : Time

namespace ExecutorLeaseRepository
open RunRepository

/-- `INSERT INTO executor_lease_nonce_history`: nonces are unique over all
leases, sequence numbers within one lease. -/
def insertNonce (store : Store) (row : NonceRow) : Except Failure Store := do
  ensure ((store.leases.find? row.leaseID).isSome &&
    store.nonces.rows.all fun old => old.leaseID != row.leaseID || old.sequence != row.sequence) constraintViolated
  let nonces ← require (store.nonces.insert? row) constraintViolated
  return { store with nonces := nonces }

/-- `UPDATE plan_runs SET canonical_bytes=?,updated_at=? WHERE run_id=? AND
status='running'`. The number of rows it reaches is not checked. -/
def updateRunningRun (store : Store) (run : Run) : Store :=
  store.updateRun run (fun row => row.status == .running)
    (fun row => { row with run := run, updatedAt := run.updatedAt }) fun _ => rfl

/-- `UPDATE plan_run_steps` where exactly one row has to match. -/
def updateOneStep (store : Store) (runID stepID : String) (status : Status) (effectState : EffectState)
    (newStatus : Status) (newEffectState : EffectState) (target : String) : Except Failure Store := do
  let guard (row : StepRow) := row.status == status && row.effectState == effectState
  ensure ((store.steps.find? stepID).any fun row => row.runID == runID && guard row) (.coded .stateConflict target)
  return store.updateStep runID stepID guard newStatus newEffectState

def claimInTx (lease : ExecutorLease) (time : Time) (store : Store) : Except Failure (Unit × Store) := do
  ensure (store.recoveryEpoch == lease.recoveryEpoch) (.coded .recoveryEpochMismatch "executor-lease-claim")
  let (run, plan) ← runAndPlanInTx store lease.runID
  ensure (run.recoveryEpoch == lease.recoveryEpoch && plan.binding.recoveryEpoch == lease.recoveryEpoch)
    (.coded .recoveryEpochMismatch "executor-lease-claim")
  ensure (run.executorMode == .external && plan.executorMode == .external &&
    validExecutorLeaseBinding plan run lease) (.coded .authorizationDenied "executor-lease-binding")
  let step ← require (findStep run lease.stepID) (.coded .stateConflict "executor-lease-step")
  ensure (run.status == .running && step.status == .queued && step.effectState == .notStarted &&
    step.executorID == lease.executorID && step.adapterID == lease.adapterID && step.targetID == lease.targetID &&
    step.artifactDigest == lease.artifactDigest) (.coded .stateConflict "executor-lease-step")
  ensure (store.leases.rows.all fun row => row.stepID != lease.stepID)
    (.coded .recoveryRequired "executor-lease-reconciliation")
  let store ← insertLease store lease .external
  let store ← insertNonce store ⟨lease.leaseID, 0, lease.nonceDigest, lease.claimedAt⟩
  let run := { run.writeStep lease.stepID .running .intentRecorded with updatedAt := time }
  let store ← updateOneStep store lease.runID lease.stepID .queued .notStarted .running .intentRecorded
    "executor-lease-step"
  return ((), updateRunningRun store run)

/-- `Claim` persists the server-selected lease and intent-records its step in
one transaction. -/
def claim (store : Store) (request : ExecutorLeaseClaimRequest) : Except Failure (ExecutorLease × Store) := do
  let lease := request.lease
  ensure (validUTCSecond request.time && request.request.exactContract && validLease lease)
    (.coded .inputInvalid "executor-lease-claim")
  ensure (lease.status == .active && lease.claimedAt == request.time &&
    request.request.executorID == lease.executorID && request.request.adapterID == lease.adapterID &&
    request.request.nonceDigest == lease.nonceDigest &&
    request.request.principalID == request.authenticatedPrincipalID) (.coded .authorizationDenied "executor-lease-claim")
  ensure (request.request.recoveryEpoch == lease.recoveryEpoch) (.coded .recoveryEpochMismatch "executor-lease-claim")
  let (created, store) ← executeAuditIntent store none (.executorLeaseClaim lease.leaseID)
    (.executorLeaseClaim lease request.request.principalID) (claimInTx lease request.time)
  ensure created.isSome (.coded .stateConflict "executor-lease-claim-replay")
  return (lease, store)

/-- `readExecutorLeaseInTx`: the external lease with this id, whose document
must agree with the status column. -/
def readExecutorLeaseInTx (store : Store) (leaseID : String) : Except Failure (ExecutorLease × LeaseRow) := do
  let row ← require ((store.leases.find? leaseID).filter fun row => row.kind == .external)
    (.coded .resourceNotFound "executor-lease")
  let lease ← decodeStoredExecutorLease row.lease
  ensure (lease.status == row.status) (.coded .integrityFailure "executor-lease-status")
  return (lease, row)

def nextRenewAfter (time expiry : Time) : Time :=
  if expiry < time + executorCheckInSeconds then expiry else time + executorCheckInSeconds

def renewInTx (request : ExecutorLeaseRenewalRequest) (store : Store) : Except Failure (ExecutorLease × Store) := do
  let (lease, row) ← readExecutorLeaseInTx store request.request.leaseID
  ensure (request.request.recoveryEpoch == lease.recoveryEpoch) (.coded .recoveryEpochMismatch "executor-lease-renewal")
  ensure (request.request.bindingDigest == lease.bindingDigest && request.request.nonceDigest == lease.nonceDigest)
    (.coded .authorizationDenied "executor-lease-renewal")
  ensure (store.recoveryEpoch == lease.recoveryEpoch) (.coded .recoveryEpochMismatch "executor-lease-renewal")
  ensure (row.status == .active && decide (lease.renewAfter ≤ request.time) && decide (request.time < lease.leaseExpiresAt))
    (.coded .stateConflict "executor-lease-renewal-window")
  let renewed := { lease with
    nonceDigest := request.nextNonceDigest, renewAfter := nextRenewAfter request.time lease.leaseExpiresAt }
  let store ← insertNonce store ⟨lease.leaseID, row.renewalCount + 1, request.nextNonceDigest, request.time⟩
  let selected (row : LeaseRow) := row.leaseID == lease.leaseID && row.status == .active &&
    row.bindingDigest == lease.bindingDigest && row.nonceDigest == lease.nonceDigest &&
    row.recoveryEpoch == lease.recoveryEpoch
  ensure ((store.leases.find? lease.leaseID).any selected) (.coded .stateConflict "executor-lease-renewal")
  let leases := store.leases.modify selected (fun row => { row with
    nonceDigest := request.nextNonceDigest, renewAfter := renewed.renewAfter, lastRenewedAt := some request.time,
    renewalCount := row.renewalCount + 1, lease := renewed }) fun _ => rfl
  return (renewed, { store with leases := leases })

/-- `Renew` rotates the one-time nonce and advances the next check-in. -/
def renew (store : Store) (request : ExecutorLeaseRenewalRequest) : Except Failure (ExecutorLease × Store) := do
  ensure (validUTCSecond request.time && request.request.exactContract && validFingerprint request.nextNonceDigest &&
    request.nextNonceDigest != request.request.nonceDigest) (.coded .inputInvalid "executor-lease-renewal")
  let (created, store) ← executeAuditIntent store none
    (.executorLeaseRenew request.request.leaseID request.request.nonceDigest)
    (.executorLeaseRenew request.nextNonceDigest request.time) (renewInTx request)
  let renewed ← require created (.coded .authorizationDenied "executor-lease-renewal-replay")
  return (renewed, store)

def needsRecovery (store : Store) (row : LeaseRow) : Bool :=
  row.status == .expired && ((store.runs.find? row.runID).any fun run => run.status == .running) &&
    (store.steps.find? row.stepID).any fun step => step.runID == row.runID &&
      ((step.status == .running && [EffectState.intentRecorded, .receiptRecorded].contains step.effectState) ||
        (step.status == .partialOutcome && step.effectState == .effectUnknown))

def joined (store : Store) (row : LeaseRow) : Bool :=
  (store.runs.find? row.runID).isSome && (store.steps.find? row.stepID).any fun step => step.runID == row.runID

/-- `ORDER BY l.lease_id`. -/
def leaseBefore (first second : LeaseRow) : Prop := first.leaseID ≤ second.leaseID

instance : DecidableRel leaseBefore := fun _ _ => inferInstanceAs (Decidable (_ ≤ _))

def lapsed (store : Store) (time : Time) (row : LeaseRow) : Bool :=
  row.kind == .external && decide (row.expiresAt ≤ time) && joined store row && row.status == .active

def expireInTx (time : Time) (store : Store) : Except Failure (List ExecutorLease × Store) := do
  let rows := (store.leases.rows.filter fun row => row.kind == .external && decide (row.expiresAt ≤ time) &&
    joined store row && (row.status == .active || needsRecovery store row)).insertionSort leaseBefore
  let expired ← rows.mapM fun row => do
    let lease ← decodeStoredExecutorLease row.lease
    return if row.status == .active then { lease with status := .expired } else lease
  return (expired, closeLeases store (lapsed store time) .expired)

/-- `Expire`; `none` when an expiry at this second is recorded already. -/
def expire (store : Store) (time : Time) : Except Failure (Option (List ExecutorLease) × Store) := do
  ensure (validUTCSecond time) (.coded .inputInvalid "executor-lease-expiry")
  executeAuditIntent store none (.executorLeaseExpire time) .executorLeaseExpire (expireInTx time)

/-- `discoverExpiredRecovery`, the answer of `Expire` to a recorded key. -/
def discoverExpiredRecovery (store : Store) (time : Time) : Except Failure (List ExecutorLease) :=
  ((store.leases.rows.filter fun row => row.kind == .external && decide (row.expiresAt ≤ time) &&
    needsRecovery store row).insertionSort leaseBefore).mapM fun row => do
    let lease ← decodeStoredExecutorLease row.lease
    ensure (lease.status == .expired) (.coded .integrityFailure "executor-lease-status")
    return lease

/-- What a terminal receipt does to its step and run. The step row must match;
the run document is written only while the run row is still running. -/
def advanceToReceipt (receipt : ExecutionReceipt) (time : Time) (store : Store) : Except Failure Store := do
  let (run, _) ← runAndPlanInTx store receipt.runID
  let step ← require (findStep run receipt.stepID) (.coded .stateConflict "executor-receipt-step")
  ensure (step.status == .running && step.effectState == .intentRecorded) (.coded .stateConflict "executor-receipt-step")
  let run := { run.writeStep receipt.stepID .running .receiptRecorded with updatedAt := time }
  let store ← updateOneStep store receipt.runID receipt.stepID .running .intentRecorded .running .receiptRecorded
    "executor-receipt-step"
  return (updateRunningRun store run).appendDetail run.runID run.updatedAt

def recordReceiptInTx (request : ExecutorReceiptPersistenceRequest) (store : Store) :
    Except Failure (ExecutionReceipt × Store) := do
  let receipt := request.request.receipt
  let (lease, row) ← readExecutorLeaseInTx store receipt.leaseID
  ensure (receipt.recoveryEpoch == lease.recoveryEpoch) (.coded .recoveryEpochMismatch "executor-receipt")
  ensure (validExecutionReceiptBinding lease receipt) (.coded .authorizationDenied "executor-receipt-binding")
  let late := row.status == .active && decide (lease.leaseExpiresAt ≤ request.time)
  let store := if late then closeLeases store (fun row => row.leaseID == lease.leaseID) .expired else store
  let status := if late then .expired else row.status
  ensure (status == .active || status == .expired) (.coded .authorizationDenied "executor-receipt-lease")
  ensure (store.recoveryEpoch == lease.recoveryEpoch) (.coded .recoveryEpochMismatch "executor-receipt")
  ensure (receipt.status == .running || store.observations.rows.all fun old =>
    old.leaseID != receipt.leaseID || old.status == .running) (.coded .stateConflict "executor-receipt-terminal")
  ensure ((store.leases.find? receipt.leaseID).isSome && (store.runs.find? receipt.runID).isSome &&
    (store.steps.find? receipt.stepID).isSome) constraintViolated
  let observations ← require (store.observations.insert? ⟨receipt.receiptID, receipt.leaseID, receipt.runID,
    receipt.stepID, receipt.status, receipt⟩) constraintViolated
  let store := { store with observations := observations }
  if receipt.status == .running then return (receipt, store)
  else return (receipt, ← advanceToReceipt receipt request.time store)

/-- `RecordReceipt` stores an exact receipt as an untrusted observation. Active
and expired leases may report. -/
def recordReceipt (store : Store) (request : ExecutorReceiptPersistenceRequest) :
    Except Failure (ExecutionReceipt × Store) := do
  let receipt := request.request.receipt
  ensure (validUTCSecond request.time && request.request.exactContract) (.coded .inputInvalid "executor-receipt")
  ensure (request.request.expectedBindingDigest == receipt.bindingDigest)
    (.coded .authorizationDenied "executor-receipt-binding")
  ensure (decide (receipt.recordedAt ≤ request.time)) (.coded .inputInvalid "executor-receipt-time")
  let (created, store) ← executeAuditIntent store none (.executorReceipt receipt.receiptID)
    (.executorReceipt receipt request.request.expectedBindingDigest) (recordReceiptInTx request)
  let recorded ← require created (.coded .stateConflict "executor-receipt-replay")
  return (recorded, store)

def get (store : Store) (leaseID : String) : Except Failure ExecutorLease := do
  ensure (validRunToken leaseID) (.coded .inputInvalid "executor-lease")
  let (lease, _) ← readExecutorLeaseInTx store leaseID
  return lease

end ExecutorLeaseRepository

end VskLabs

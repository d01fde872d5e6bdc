import VskLabs.Contracts.Validation
import VskLabs.Library.Outcome
import VskLabs.Library.Table

/-! Credential versions: the append-only rows, how the active one is derived from
them, and the five lifecycle actions that append. Ids that are digests stand for
the values they are computed from. -/

namespace VskLabs.Credential
open Library

inductive VersionStatus where
  | staged | active | unavailable | revoked
  deriving DecidableEq

inductive Action where
  | stage | activate | rotate | revoke | recover
  deriving DecidableEq

def Action.operationType : Action → String
  | .stage => "credential.stage"
  | .activate => "credential.activate"
  | .rotate => "credential.rotate"
  | .revoke => "credential.revoke"
  | .recover => "credential.recover"

/-- `credentialref.LifecycleBinding` with what decides about versions. The
consumer lists are read only by the checks of the evidence. -/
structure LifecycleBinding where
  operationID : String
  action : Action
  (referenceID resolverID targetID materialVersion : String)
  priorMaterialVersion : Option String
  ciphertextFingerprint : String
  (stateRevision recoveryEpoch : Int)
  deriving DecidableEq

/-- `generated.CredentialReference`. -/
structure Reference where
  (referenceID consumerID purposeID targetID resolverID materialVersion fingerprint : String)
  status : VersionStatus
  (stateRevision recoveryEpoch : Int)
  activatedAt : Option Time
  verifiedConsumerIDs : List String
  deriving DecidableEq

/-- A run id is the digest of its plan and submission key, a step id that of the
run and the operation's sequence number. -/
structure RunID where
  (planID submitKey : String)
  deriving DecidableEq

structure StepID where
  runID : RunID
  sequence : Int
  deriving DecidableEq

/-- A row of `credential_reference_versions`. -/
structure VersionRow where
  versionID : String
  reference : Reference
  (planID planDigest : String)
  runID : RunID
  stepID : StepID
  deriving DecidableEq

/-- A row of `immutable_plans` with the lifecycle binding that its declaration
seals, if it seals one. -/
structure PlanRow where
  (planID planDigest : String)
  (stateRevision recoveryEpoch : Int)
  authorizationBranch : AuthorizationBranch
  executorMode : ExecutorMode
  expiresAt : Time
  operations : List PlanOperation
  lifecycle : Option LifecycleBinding

/-- A row of `plan_runs`; `acknowledged` is the join with a consumed approval of
the same plan. -/
structure RunRow where
  runID : RunID
  status : Status
  acknowledged : Bool
  updatedAt : Time

/-- A row of `plan_run_steps`. -/
structure StepRow where
  stepID : StepID
  operation : PlanOperation
  effectState : EffectState
  activeLeaseID : Option String

/-- A row of `target_execution_leases`. -/
structure LeaseRow where
  leaseID : String
  stepID : StepID
  status : LeaseStatus
  kind : ExecutorMode
  expiresAt : Time
  recoveryEpoch : Int

/-- The database, with the runs that rows of other components reference. -/
structure Vault where
  versions : List VersionRow
  plans : Table PlanRow.planID
  runs : Table RunRow.runID
  steps : Table StepRow.stepID
  leases : Table LeaseRow.leaseID
  referenced : List RunID
  (stateRevision recoveryEpoch : Int)

def failed (code : ErrorCode) (target : String) : Failure := .coded code target

/-! ### Reading versions -/

/-- `ORDER BY state_revision,version_id`. -/
def earlier (first second : VersionRow) : Prop :=
  first.reference.stateRevision < second.reference.stateRevision ∨
    first.reference.stateRevision = second.reference.stateRevision ∧ first.versionID ≤ second.versionID

instance : DecidableRel earlier := fun _ _ => inferInstanceAs (Decidable (_ ∨ _ ∧ _))

/-- The rows of a reference in an epoch. -/
def inEpoch (referenceID : String) (recoveryEpoch : Int) (row : VersionRow) : Bool :=
  row.reference.referenceID == referenceID && row.reference.recoveryEpoch == recoveryEpoch

section Reads

variable (vault : Vault) (referenceID : String) (recoveryEpoch : Int)

def epochRows : List VersionRow := (vault.versions.filter (inEpoch referenceID recoveryEpoch)).insertionSort earlier

/-- The entry of the map `latest` for a material version. -/
def latestOf (rows : List VersionRow) (materialVersion : String) : Option VersionRow :=
  (rows.filter fun row => row.reference.materialVersion == materialVersion).getLast?

def rotates (row : VersionRow) : Option StepRow :=
  if row.reference.status = .active then
    (vault.steps.find? row.stepID).filter fun step =>
      step.stepID.runID == row.runID && step.operation.operationType == "credential.rotate"
  else none

/-- `GetLifecycleBinding` of a stored plan. -/
def getLifecycleBinding (plan : PlanRow) (operationID : String) : Except Failure LifecycleBinding := do
  ensure (plan.executorMode == .central) (failed .prerequisiteBlocked "credential-lifecycle-uncommitted")
  let binding ← require plan.lifecycle (failed .prerequisiteBlocked "credential-lifecycle-uncommitted")
  ensure (binding.operationID == operationID) (failed .prerequisiteBlocked "credential-lifecycle-uncommitted")
  ensure (binding.stateRevision == plan.stateRevision && binding.recoveryEpoch == plan.recoveryEpoch)
    (failed .planStale "credential-lifecycle-binding")
  let operation ← require (plan.operations.find? fun operation => operation.operationID == operationID)
    (failed .integrityFailure "credential-lifecycle-binding")
  ensure (operation.adapterID == "core.credential" && operation.targetID == binding.targetID &&
    operation.inputDigest == binding.ciphertextFingerprint && operation.artifactDigest == binding.ciphertextFingerprint)
    (failed .integrityFailure "credential-lifecycle-binding")
  return binding

def supersededBy (row : VersionRow) (step : StepRow) : Except Failure String := do
  let plan ← require (vault.plans.find? row.planID) (failed .resourceNotFound "plan")
  let binding ← getLifecycleBinding plan step.operation.operationID
  let prior ← require binding.priorMaterialVersion (failed .integrityFailure "credential-rotation-lineage")
  ensure (plan.planDigest == row.planDigest && binding.targetID == row.reference.targetID &&
    binding.resolverID == row.reference.resolverID && binding.action == .rotate && binding.referenceID == referenceID &&
    binding.materialVersion == row.reference.materialVersion &&
    binding.ciphertextFingerprint == row.reference.fingerprint &&
    binding.stateRevision + 1 == row.reference.stateRevision && binding.recoveryEpoch == recoveryEpoch)
    (failed .integrityFailure "credential-rotation-lineage")
  return prior

def rotations : List (VersionRow × StepRow) :=
  vault.versions.filterMap fun row =>
    if inEpoch referenceID recoveryEpoch row then (rotates vault row).map fun step => (row, step) else none

def activeRows (rows : List VersionRow) (superseded : List String) : List VersionRow :=
  rows.filter fun row => latestOf rows row.reference.materialVersion == some row && row.reference.status == .active &&
    !superseded.contains row.reference.materialVersion

/-- `GetActiveVersion`. The final check of the document's contract holds of every
row, since the append has checked it. -/
def getActiveVersion : Except Failure Reference := do
  let superseded ← (rotations vault referenceID recoveryEpoch).mapM fun pair =>
    supersededBy vault referenceID recoveryEpoch pair.1 pair.2
  match activeRows (epochRows vault referenceID recoveryEpoch) superseded with
  | [] => throw (failed .resourceNotFound "credential-active-version")
  | [row] => return row.reference
  | _ => throw (failed .integrityFailure "credential-active-version")

/-- `GetCredentialVersion`, over all epochs. -/
def getCredentialVersion (materialVersion : String) : Except Failure Reference := do
  let rows := (vault.versions.filter fun row => row.reference.referenceID == referenceID).insertionSort earlier
  let row ← require (latestOf rows materialVersion) (failed .resourceNotFound "credential-version")
  return row.reference

/-- `GetReference`: the active version of the latest epoch, or else its latest. -/
def getReference : Except Failure Reference := do
  let rows := (vault.versions.filter fun row => row.reference.referenceID == referenceID).insertionSort earlier
  let row ← require rows.getLast? (failed .resourceNotFound "credential-reference")
  match getActiveVersion vault referenceID row.reference.recoveryEpoch with
  | .ok active => return active
  | .error failure =>
    if failure.code = some .resourceNotFound then return row.reference else throw failure

end Reads

/-! ### Appending versions -/

/-- `CredentialStageRequest` and `CredentialLifecycleApplyRequest`. The checks of
the consumers' and of the recovery evidence give `verified` and `recovered`, and
`admitted` stands for the remaining checks that only refuse: identifiers, the
contract of the document, the import draft, an unfrozen host. -/
structure ApplyRequest where
  binding : LifecycleBinding
  reference : Reference
  (planID planDigest : String)
  runID : RunID
  stepID : StepID
  leaseID : String
  (expectedStateRevision expectedRecoveryEpoch : Int)
  versionID : String
  now : Time
  (verified recovered admitted : Bool)

def orNone {α : Type} : Except Failure α → Except Failure (Option α)
  | .ok value => .ok (some value)
  | .error failure => if failure.code = some .resourceNotFound then .ok none else .error failure

section Append

variable (vault : Vault) (request : ApplyRequest)

def allowsAction : Except Failure Unit := do
  let binding := request.binding
  let target := request.reference
  let current ← orNone (getCredentialVersion vault binding.referenceID binding.materialVersion)
  match binding.action with
  | .stage =>
    ensure (target.status == .staged && target.activatedAt == none && target.verifiedConsumerIDs.isEmpty)
      (failed .inputInvalid "credential-lifecycle-stage")
    ensure (!current.any fun current => current.recoveryEpoch == binding.recoveryEpoch)
      (failed .stateConflict "credential-lifecycle-version")
  | .activate =>
    ensure (target.status == .active && target.activatedAt.isSome) (failed .inputInvalid "credential-lifecycle-activate")
    ensure (current.any fun current => current.recoveryEpoch == binding.recoveryEpoch &&
      current.fingerprint == binding.ciphertextFingerprint &&
      (current.status == .staged || current.status == .unavailable))
      (failed .prerequisiteBlocked "credential-lifecycle-activate")
    let active ← orNone (getActiveVersion vault binding.referenceID binding.recoveryEpoch)
    ensure (active.all fun active => active.materialVersion == binding.materialVersion)
      (failed .prerequisiteBlocked "credential-lifecycle-activate")
    ensure request.verified (failed .prerequisiteBlocked "credential-consumer-verification")
  | .rotate =>
    ensure (target.status == .active && target.activatedAt.isSome && binding.priorMaterialVersion.isSome &&
      binding.priorMaterialVersion != some binding.materialVersion) (failed .inputInvalid "credential-lifecycle-rotate")
    let active ← orNone (getActiveVersion vault binding.referenceID binding.recoveryEpoch)
    ensure ((active.any fun active => some active.materialVersion == binding.priorMaterialVersion) &&
      current.any fun current => current.recoveryEpoch == binding.recoveryEpoch && current.status == .staged &&
        current.fingerprint == binding.ciphertextFingerprint) (failed .prerequisiteBlocked "credential-lifecycle-rotate")
    ensure request.verified (failed .prerequisiteBlocked "credential-consumer-verification")
  | .revoke =>
    ensure (target.status == .revoked) (failed .inputInvalid "credential-lifecycle-revoke")
    ensure (current.any fun current => current.recoveryEpoch == binding.recoveryEpoch &&
      (current.status == .active || current.status == .unavailable))
      (failed .prerequisiteBlocked "credential-lifecycle-revoke")
  | .recover =>
    ensure (target.status == .staged && target.activatedAt == none && target.verifiedConsumerIDs.isEmpty)
      (failed .inputInvalid "credential-lifecycle-recover")
    ensure request.recovered (failed .prerequisiteBlocked "credential-lifecycle-recovery")
    let prior ← orNone (getReference vault binding.referenceID)
    ensure (prior.all fun prior => prior.recoveryEpoch < binding.recoveryEpoch)
      (failed .recoveryEpochMismatch "credential-lifecycle-recover")

/-- `credentialExactStep`: the join of plan, run, step and lease has one row. -/
def exactStep : Bool :=
  (vault.plans.find? request.planID).any (fun plan => plan.planDigest == request.planDigest &&
    plan.stateRevision == request.expectedStateRevision && plan.recoveryEpoch == request.expectedRecoveryEpoch &&
    plan.executorMode == .central && decide (request.now < plan.expiresAt)) &&
  request.runID.planID == request.planID &&
  ((vault.runs.find? request.runID).any fun run => run.status == .running) &&
  request.stepID.runID == request.runID &&
  ((vault.steps.find? request.stepID).any fun step =>
    step.operation.operationType == request.binding.action.operationType &&
      step.operation.adapterID == "core.credential" && step.operation.targetID == request.reference.targetID &&
      step.operation.inputDigest == request.reference.fingerprint &&
      step.operation.artifactDigest == request.reference.fingerprint && step.effectState == .intentRecorded &&
      step.activeLeaseID == some request.leaseID) &&
  (vault.leases.find? request.leaseID).any fun lease => lease.stepID == request.stepID && lease.status == .active &&
    lease.kind == .central && decide (request.now < lease.expiresAt) &&
    lease.recoveryEpoch == request.expectedRecoveryEpoch

/-- `requireExactLifecycleBinding`: the plan seals the same binding. -/
def exactLifecycleBinding : Bool :=
  (vault.plans.find? request.planID).any fun plan => plan.lifecycle == some request.binding &&
    plan.stateRevision == request.binding.stateRevision && plan.recoveryEpoch == request.binding.recoveryEpoch &&
    request.binding.stateRevision == request.expectedStateRevision

/-- `applyCredentialVersion`: one intent transaction at the expected revision. -/
def applyCredentialVersion : Except Failure Vault := do
  let value := request.reference
  ensure (decide (0 ≤ request.expectedStateRevision) && value.stateRevision == request.expectedStateRevision + 1 &&
    value.recoveryEpoch == request.expectedRecoveryEpoch && request.admitted) (failed .inputInvalid "credential-effect")
  let plan ← require (vault.plans.find? request.planID) (failed .prerequisiteBlocked "credential-plan")
  ensure (plan.planDigest == request.planDigest && plan.stateRevision == request.expectedStateRevision &&
    plan.recoveryEpoch == request.expectedRecoveryEpoch && plan.authorizationBranch == .human &&
    plan.executorMode == .central) (failed .prerequisiteBlocked "credential-human-plan")
  ensure (vault.stateRevision == request.expectedStateRevision && vault.recoveryEpoch == request.expectedRecoveryEpoch)
    (failed .planStale "credential-plan")
  ensure (exactStep vault request) (failed .prerequisiteBlocked "credential-exact-step")
  ensure (!vault.versions.any fun row => row.versionID == request.versionID) .unclassified
  ensure ((vault.runs.find? request.runID).any RunRow.acknowledged)
    (failed .prerequisiteBlocked "credential-lifecycle-acknowledgement")
  ensure (exactLifecycleBinding vault request) (failed .integrityFailure "credential-lifecycle-seal")
  return { vault with
    versions := vault.versions ++
      [⟨request.versionID, value, request.planID, request.planDigest, request.runID, request.stepID⟩],
    stateRevision := vault.stateRevision + 1 }

def applyCredentialLifecycle : Except Failure Vault := do
  let binding := request.binding
  let target := request.reference
  ensure (target.referenceID == binding.referenceID && target.targetID == binding.targetID &&
    target.resolverID == binding.resolverID && target.materialVersion == binding.materialVersion &&
    target.fingerprint == binding.ciphertextFingerprint && target.recoveryEpoch == binding.recoveryEpoch &&
    request.expectedRecoveryEpoch == binding.recoveryEpoch) (failed .inputInvalid "credential-lifecycle-mismatch")
  allowsAction vault request
  applyCredentialVersion vault request

end Append

/-! ### Everything else that touches these tables -/

def runSummaryRetention : Int := 180 * 24 * 60 * 60

def expiredSummary (now : Time) (run : RunRow) : Bool :=
  decide (run.updatedAt < now - runSummaryRetention) &&
    [Status.succeeded, .failed, .partialOutcome, .interrupted, .cancelled].contains run.status

def deletesRun (vault : Vault) (now : Time) (runID : RunID) : Bool := (vault.runs.find? runID).any (expiredSummary now)

/-- `PruneRunHistory` on these tables. Deleting a run takes its steps and leases
along, and is refused while another component references it. -/
def pruneRunHistory (vault : Vault) (now : Time) : Except Failure Vault := do
  ensure (!vault.referenced.any (deletesRun vault now)) .unclassified
  return { vault with
    runs := vault.runs.delete (expiredSummary now),
    steps := vault.steps.delete fun step => deletesRun vault now step.stepID.runID,
    leases := vault.leases.delete fun lease => deletesRun vault now lease.stepID.runID }

/-- A committed plan. A lifecycle binding is sealed for a plan of one operation
on its ciphertext, and a plan on the credential adapter seals one. -/
def commitPlan (vault : Vault) (plan : PlanRow) : Except Failure Vault := do
  ensure (plan.stateRevision == vault.stateRevision + 1 && plan.recoveryEpoch == vault.recoveryEpoch)
    (failed .stateConflict "plan")
  ensure (plan.lifecycle.all fun binding => plan.operations.length == 1 && plan.operations.all fun operation =>
    operation.operationID == binding.operationID && operation.adapterID == "core.credential" &&
      operation.targetID == binding.targetID && operation.inputDigest == binding.ciphertextFingerprint &&
      operation.artifactDigest == binding.ciphertextFingerprint) (failed .inputInvalid "plan")
  let plans ← require (vault.plans.insert? plan) .unclassified
  return { vault with plans, stateRevision := vault.stateRevision + 1 }

def insertSteps (runID : RunID) (steps : Table StepRow.stepID) : List PlanOperation → Option (Table StepRow.stepID)
  | [] => some steps
  | operation :: rest =>
    (steps.insert? ⟨⟨runID, operation.sequence⟩, operation, .notStarted, none⟩).bind fun steps => insertSteps runID steps rest

def createRun (vault : Vault) (runID : RunID) (acknowledged : Bool) (now : Time) : Except Failure Vault := do
  let plan ← require (vault.plans.find? runID.planID) (failed .resourceNotFound "plan")
  let runs ← require (vault.runs.insert? ⟨runID, .queued, acknowledged, now⟩) .unclassified
  let steps ← require (insertSteps runID vault.steps plan.operations) .unclassified
  return { vault with runs, steps }

/-- What moves the tables: the lifecycle, retention, new plans and runs, the run
engine's bookkeeping, and other changes of state or epoch. -/
inductive Change where
  | apply (request : ApplyRequest)
  | prune (now : Time)
  | commitPlan (plan : PlanRow)
  | createRun (runID : RunID) (acknowledged : Bool) (now : Time)
  | moveRun (runID : RunID) (status : Status) (updatedAt : Time)
  | moveStep (stepID : StepID) (effectState : EffectState) (activeLeaseID : Option String)
  | acquireLease (lease : LeaseRow)
  | closeLease (leaseID : String) (status : LeaseStatus)
  | referenceRun (runID : RunID)
  | advance
  | startEpoch

def settle (vault : Vault) : Except Failure Vault → Vault
  | .ok after => after
  | .error _ => vault

def Change.perform (vault : Vault) : Change → Vault
  | .apply request => settle vault (applyCredentialLifecycle vault request)
  | .prune now => settle vault (pruneRunHistory vault now)
  | .commitPlan plan => settle vault (Credential.commitPlan vault plan)
  | .createRun runID acknowledged now => settle vault (Credential.createRun vault runID acknowledged now)
  | .moveRun runID status updatedAt =>
    { vault with
      runs := vault.runs.modify (fun run => run.runID == runID) (fun run => { run with status, updatedAt }) fun _ => rfl }
  | .moveStep stepID effectState activeLeaseID =>
    { vault with
      steps := vault.steps.modify (fun step => step.stepID == stepID)
        (fun step => { step with effectState, activeLeaseID }) fun _ => rfl }
  | .acquireLease lease => { vault with leases := (vault.leases.insert? lease).getD vault.leases }
  | .closeLease leaseID status =>
    { vault with
      leases := vault.leases.modify (fun lease => lease.leaseID == leaseID) (fun lease => { lease with status })
        fun _ => rfl }
  | .referenceRun runID => { vault with referenced := runID :: vault.referenced }
  | .advance => { vault with stateRevision := vault.stateRevision + 1 }
  | .startEpoch => { vault with recoveryEpoch := vault.recoveryEpoch + 1 }

def Vault.fresh : Vault := ⟨[], .empty, .empty, .empty, .empty, [], 0, 0⟩

end VskLabs.Credential

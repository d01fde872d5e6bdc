import VskLabs.Run.Interface

/-! The run engine as programs over the interface. A program returns the run
document Go returns, `none` for the zero document, and the error if there is one.
The test-only boundary hooks are left out. -/

namespace VskLabs
open Library

structure EngineConfig where
  (core retentionCore credentialCore credentialStep scheduled managedPlans deploymentAdmission : Bool)
  runID : String → String → String
  stepID : String → Int → String
  receiptID : String → String
  digest : List String → String

abbrev Outcome := Option Run × Option Failure

def clock : Job Time := issue .clock

def getRun (runID : String) : Job (Except Failure Run) := issue (.getRun runID)

def mutateRun (mutation : Mutation) : Job (Except Failure Run) := do
  match ← issue (.mutate mutation) with
  | .error failure => return .error failure
  | .ok (some run) => return .ok run
  | .ok none => getRun mutation.runID

def transitionRun (request : RunTransitionRequest) : Job (Except Failure Run) := mutateRun (.transitionRun request)

def Outcome.of : Except Failure Run → Outcome
  | .ok run => (some run, none)
  | .error failure => (none, some failure)

def terminal (status : Status) : Bool := terminalRunStatus status

/-- `RunRepository.Create`: the read, the transaction and, when the key was
recorded meanwhile, the read again. -/
def createRun (request : RunCreateRequest) : Job (Except Failure (Run × Bool)) := do
  if !RunRepository.admissible request then return .error (.coded .inputInvalid "run")
  else
    match ← issue (.existingRun request.submitKey request.request) with
    | .error failure => return .error failure
    | .ok (some run) => return .ok (run, false)
    | .ok none =>
      match ← issue (.createRun request) with
      | .error failure => return .error failure
      | .ok (some run) => return .ok (run, true)
      | .ok none =>
        match ← issue (.existingRun request.submitKey request.request) with
        | .error failure => return .error failure
        | .ok (some run) => return .ok (run, false)
        | .ok none => return .error (.coded .integrityFailure "run")

def isGateOperation (kind : String) : Bool :=
  ["gate.evidence.apply", "gate.evidence.supersede", "gate.evidence.revoke", "gate.profile.bind"].contains kind

def isCredentialLifecycleOperation (kind : String) : Bool :=
  ["credential.stage", "credential.activate", "credential.rotate", "credential.revoke",
    "credential.recover"].contains kind

def coreOperations : List (String × String) :=
  [("core.ci-enrollment", "ci.enrollment.register"), ("hosting-lifecycle", "hosting.lifecycle.apply"),
    ("core.service-recovery", "service.recover"), ("core.service-deployment", "service.deploy"),
    ("core.service-import", "service.import"), ("core.network-endpoint", "network.endpoint.change"),
    ("core.authorization", "identity.change"), ("core.host-replacement", "host.alias.claim"),
    ("core.host-replacement", "host.replacement.freeze"), ("core.host-replacement", "host.replacement.commit"),
    ("core.host-adoption", "host.adopt"), ("core.host-discovery-target", "host.discovery-target.activate"),
    ("core.host-discovery-target", "host.discovery-target.revoke"), ("core.audit", "audit.checkpoint.anchor"),
    ("core.recovery", "recovery.canary.noop"), ("core.schedule", "schedule.policy.activate"),
    ("core.schedule-observe", "schedule.gate.check"), ("core.schedule-observe", "schedule.observation.refresh")]

def isCoreOperation (adapterID kind : String) : Bool :=
  coreOperations.contains (adapterID, kind) || (adapterID == "core.gate" && isGateOperation kind)

def isRetentionLockOperation (adapterID kind : String) : Bool :=
  adapterID == "core.retention-locks" && kind == "backup.retention-locks.activate"

def credentialPlanDigest (plan : Plan) : String :=
  match plan.extensions.find? fun extension =>
    extension.name == "x-credential-bindings" || extension.name == "x-scheduled-credential-bindings" with
  | some extension => extension.valueDigest
  | none => ""

/-- `adapter.ValidateOperation`; tokens never hold a slash. -/
def validOperation (operation : Operation) : Bool :=
  [operation.operationID, operation.operationType, operation.adapterID, operation.executorID,
    operation.targetID].all validRunToken &&
    [operation.inputDigest, operation.artifactDigest].all validFingerprint

def validEffect (effect : Effect) : Bool :=
  [Status.succeeded, .failed, .partialOutcome].contains effect.status && validFingerprint effect.resultDigest &&
    (effect.pendingPointID == none || (effect.status == .succeeded && optionally validRunToken effect.pendingPointID)) &&
    (effect.status != .succeeded || effect.effectObserved)

def exactOperation (plan : Plan) (step : RunStep) : Except Failure Operation :=
  match plan.operations.find? fun operation => operation.operationID == step.operationID with
  | none => .error (.coded .integrityFailure "run-step-binding")
  | some operation => do
    ensure (operation.matchesStep step) (.coded .integrityFailure "run-step-binding")
    let result := ⟨operation.operationID, operation.operationType, operation.adapterID, operation.executorID,
      operation.targetID, operation.inputDigest, operation.artifactDigest, operation.idempotent⟩
    ensure (validOperation result) (.coded .inputInvalid "adapter-operation")
    return result

def planExecutorID (plan : Plan) : Except Failure String :=
  match plan.operations with
  | [] => .error (.coded .inputInvalid "plan-operations")
  | first :: rest => do
    ensure ((first :: rest).all fun operation => operation.executorID == first.executorID)
      (.coded .inputInvalid "plan-executor")
    ensure (plan.executorMode != .external || plan.executorID == some first.executorID)
      (.coded .inputInvalid "plan-executor")
    ensure (plan.executorMode != .central || plan.executorID == none) (.coded .inputInvalid "plan-executor")
    return first.executorID

namespace Engine

variable (config : EngineConfig)

/-- A plan bound to a scheduled occurrence needs the scheduler's admission; a
human-authorized activation of a policy carries the policy alone. -/
def validateScheduled (plan : Plan) : Job (Except Failure Unit) := do
  let policyBound := plan.extensions.any fun extension => extension.name == "x-scheduled-policy"
  let occurrenceBound := plan.extensions.any fun extension => extension.name == "x-scheduled-occurrence"
  if !policyBound && !occurrenceBound then return .ok ()
  else if policyBound && !occurrenceBound then
    match plan.operations with
    | [operation] =>
      if plan.authorizationBranch == .human && plan.executorMode == .central &&
          operation.adapterID == "core.schedule" && operation.operationType == "schedule.policy.activate" then
        return .ok ()
      else return .error (.coded .authorizationDenied "scheduled-plan-binding")
    | _ => return .error (.coded .authorizationDenied "scheduled-plan-binding")
  else if !policyBound then return .error (.coded .authorizationDenied "scheduled-plan-binding")
  else if !config.scheduled then return .error (.coded .prerequisiteBlocked "scheduled-admission-unavailable")
  else
    let now ← clock
    issue (.ask (.validateScheduledPlan plan now))

/-- Call `Execute` and wait for its return. -/
def perform (binding : ExecutionBinding) : Job (Effect × Option Failure) := do
  let _ ← issue (.execute binding)
  match ← issue (.executed binding) with
  | some outcome => return outcome
  | none => return (⟨.queued, "", none, false, true⟩, some (.coded .recoveryRequired "credential-effect-uncertain"))

def noEffect : Effect := ⟨.queued, "", none, false, false⟩

def invokeCredentialEffect (handle : AdapterHandle) (binding : ExecutionBinding) : Job (Effect × Option Failure) := do
  if !handle.boundCredentialExecutor && !handle.credentialExecutor then
    return (noEffect, some (.coded .prerequisiteBlocked "credential-adapter-unavailable"))
  else
    let effector := if handle.boundCredentialExecutor then Effector.boundCredentialAdapter else .credentialAdapter
    let _ ← issue (.execute { binding with effector := effector })
    match ← issue (.executed { binding with effector := effector }) with
    | some (effect, none) => return (effect, none)
    | some (effect, some _) => return (effect, some (.coded .executionFailed "credential-effect"))
    | none =>
      return (⟨.queued, "", none, false, true⟩, some (.coded .recoveryRequired "credential-effect-uncertain"))

def executeSecretStep (plan : Plan) (step : RunStep) (lease : ExecutorLease) (operation : Operation)
    (handle : AdapterHandle) (binding : ExecutionBinding) : Job (Effect × Option Failure) := do
  if !config.credentialStep || step.status != .running || step.effectState != .intentRecorded ||
      step.stepID != lease.stepID || step.operationID != lease.operationID || step.adapterID != lease.adapterID ||
      step.targetID != lease.targetID then
    return (noEffect, some (.coded .prerequisiteBlocked "credential-intent-binding"))
  else
    match plan.operations.find? fun planned => planned.operationID == operation.operationID with
    | none => return (noEffect, some (.coded .integrityFailure "credential-operation-binding"))
    | some planned =>
      if planned.adapterID != operation.adapterID || planned.targetID != operation.targetID ||
          planned.inputDigest != operation.inputDigest || planned.artifactDigest != operation.artifactDigest then
        return (noEffect, some (.coded .integrityFailure "credential-operation-binding"))
      else
        match ← issue (.isSecretOperation plan planned.operationID) with
        | .error failure => return (noEffect, some failure)
        | .ok false => perform binding
        | .ok true =>
          if !handle.boundCredentialExecutor && !handle.credentialExecutor then
            return (noEffect, some (.coded .prerequisiteBlocked "credential-adapter-unavailable"))
          else
            match ← issue (.ask (.verifySecretStep plan planned.operationID)) with
            | .error _ => return (noEffect, some (.coded .prerequisiteBlocked "credential-gate-not-ready"))
            | .ok () =>
              match ← issue (.ask (.resolveCredentials plan planned.operationID lease)) with
              | .error failure =>
                -- an uncertain resolution counts as an observed effect
                if failure.code == some .recoveryRequired then
                  return (⟨.queued, "", none, false, true⟩, some failure)
                else return (noEffect, some failure)
              | .ok () =>
                match ← issue (.ask (.exactCredentialBindings plan operation)) with
                | .error _ => return (noEffect, some (.coded .integrityFailure "credential-operation-references"))
                | .ok () => invokeCredentialEffect handle binding

/-- Who carries out an operation, after `start` checked that they may. -/
inductive Implementation where
  | core | retentionCore | credentialCore
  | adapter (handle : AdapterHandle)

def Implementation.effector : Implementation → Effector
  | .core => .core
  | .retentionCore => .retentionCore
  | .credentialCore => .credentialCore
  | .adapter _ => .adapter

/-- The core effects run central plans only; every other operation goes to the
adapter registry whatever the plan's executor mode is. -/
def resolveImplementation (plan : Plan) (operation : Operation) : Job (Except Failure Implementation) := do
  if isCoreOperation operation.adapterID operation.operationType then
    if !config.core || (operation.adapterID != "core.schedule-observe" && operation.adapterID != "core.authorization" &&
        operation.inputDigest != operation.artifactDigest) || plan.executorMode != .central then
      return .error (.coded .prerequisiteBlocked "core-effect-unavailable")
    else return .ok .core
  else if isRetentionLockOperation operation.adapterID operation.operationType then
    if !config.retentionCore || plan.executorMode != .central then
      return .error (.coded .prerequisiteBlocked "core-retention-locks-unavailable")
    else return .ok .retentionCore
  else if operation.adapterID == "core.credential" then
    if !config.credentialCore || !isCredentialLifecycleOperation operation.operationType ||
        plan.executorMode != .central then
      return .error (.coded .prerequisiteBlocked "core-credential-unavailable")
    else return .ok .credentialCore
  else
    match ← issue (.resolveAdapter operation.adapterID) with
    | .error failure => return .error failure
    | .ok handle => return .ok (.adapter handle)

/-- `running → interrupted` at a fresh clock reading. -/
def interruptRun (runID : String) : Job (Except Failure Run) := do
  let now ← clock
  transitionRun { runID := runID, source := .running, target := .interrupted, time := now,
                  verificationStatus := some .incomplete }

def failRun (runID : String) (changed : Option Bool) : Job (Except Failure Run) := do
  let now ← clock
  transitionRun { runID := runID, source := .running, target := .failed, time := now,
                  verificationStatus := some .failed, changed := changed }

/-- `running → partial`, with a rollback required. -/
def leavePartial (runID : String) (changed : Bool) : Job (Except Failure Run) := do
  let now ← clock
  transitionRun { runID := runID, source := .running, target := .partialOutcome, time := now,
                  verificationStatus := some .incomplete, rollbackStatus := some .required, changed := some changed }

def releaseRunLeases (runID : String) : Job (Except Failure Unit) := do
  let now ← clock
  issue (.releaseRunLeases runID now)

/-- The three settlements share their order: settle the step, release the run's
leases, move the run, report. -/
def settle (mutation : Time → Mutation) (runID : String) (move : Job (Except Failure Run)) (report : Failure) :
    Job Outcome := do
  let now ← clock
  match ← mutateRun (mutation now) with
  | .error failure => return (none, some failure)
  | .ok settled =>
    match ← releaseRunLeases runID with
    | .error failure => return (some settled, some failure)
    | .ok () =>
      match ← move with
      | .error failure => return (none, some failure)
      | .ok moved => return (some moved, some report)

def interruptBeforeEffect (current : Run) (step : RunStep) : Job Outcome :=
  settle (.interruptStepBeforeEffect current.runID step.stepID) current.runID (interruptRun current.runID)
    (.coded .interrupted "run")

def failBeforeEffect (current : Run) (step : RunStep) (cause : Failure) : Job Outcome :=
  settle (.failStepBeforeEffect current.runID step.stepID) current.runID (failRun current.runID none)
    (if cause.code.isSome then cause else .coded .executionFailed "adapter")

/-- `Engine.partial`. -/
def partialRun (current : Run) (step : RunStep) : Job Outcome :=
  settle (.markStepUnknown current.runID step.stepID) current.runID (leavePartial current.runID true)
    (.coded .recoveryRequired "run")

structure Attempt where
  plan : Plan
  live : RunStep
  operation : Operation
  implementation : Implementation
  lease : ExecutorLease

def Attempt.binding (attempt : Attempt) : ExecutionBinding where
  effector := attempt.implementation.effector
  planID := attempt.plan.planID
  runID := attempt.lease.runID
  stepID := attempt.lease.stepID
  leaseID := attempt.lease.leaseID
  operation := attempt.operation

def Attempt.expired (attempt : Attempt) : Job Bool := do
  let now ← clock
  return decide (attempt.lease.maximumExpiresAt ≤ now)

def invokeEffect (attempt : Attempt) (intentStep : RunStep) : Job (Effect × Option Failure) :=
  match attempt.implementation with
  | .adapter handle =>
    if credentialPlanDigest attempt.plan != "" then
      executeSecretStep config attempt.plan intentStep attempt.lease attempt.operation handle attempt.binding
    else perform attempt.binding
  | _ => perform attempt.binding

def Attempt.receipt (attempt : Attempt) (effect : Effect) (recorded : Time) : ExecutionReceipt where
  leaseID := attempt.lease.leaseID
  planID := attempt.lease.planID
  planDigest := attempt.lease.planDigest
  runID := attempt.lease.runID
  stepID := attempt.lease.stepID
  operationID := attempt.lease.operationID
  executorID := attempt.lease.executorID
  adapterID := attempt.lease.adapterID
  targetID := attempt.lease.targetID
  artifactDigest := attempt.lease.artifactDigest
  bindingDigest := attempt.lease.bindingDigest
  nonceDigest := attempt.lease.nonceDigest
  recoveryEpoch := attempt.lease.recoveryEpoch
  receiptID := config.receiptID attempt.lease.leaseID
  status := effect.status
  resultDigest := effect.resultDigest
  pendingPointID := effect.pendingPointID
  recordedAt := recorded
  extensions := []

abbrev Progress := Outcome ⊕ Run

/-- After the step finished: release its lease and stop on a failed or partial
result. -/
def closeStep (attempt : Attempt) (effect : Effect) (current : Run) : Job Progress := do
  let now ← clock
  match ← issue (.releaseTargetLease attempt.lease.leaseID now) with
  | .error failure => return .inl (some current, some failure)
  | .ok () =>
    if effect.status == .failed then
      match ← failRun current.runID (some (current.changed || effect.changed)) with
      | .error failure => return .inl (none, some failure)
      | .ok run => return .inl (some run, some (.coded .executionFailed "run"))
    else if effect.status == .partialOutcome then
      match ← leavePartial current.runID (current.changed || effect.changed) with
      | .error failure => return .inl (none, some failure)
      | .ok run => return .inl (some run, some (.coded .executionPartial "run"))
    else return .inr current

def recordAndVerify (attempt : Attempt) (effect : Effect) (current : Run) : Job Progress := do
  let recorded ← clock
  let receipt := attempt.receipt config effect recorded
  match ← mutateRun (.recordReceipt ⟨current.runID, attempt.live.stepID, attempt.lease.leaseID, receipt, recorded⟩) with
  | .error failure => return .inl (none, some failure)
  | .ok current =>
    let (verification, verifyFailure) ← issue (.verifyEffect attempt.binding effect)
    if ← attempt.expired then return .inl (← partialRun current attempt.live)
    else if verifyFailure.isSome || !validFingerprint verification.digest || !verification.verified then
      return .inl (← partialRun current attempt.live)
    else
      let now ← clock
      match ← mutateRun (.finishStep ⟨current.runID, attempt.live.stepID, attempt.lease.leaseID, receipt,
          effect.status, .verified, verification.digest, effect.changed, now⟩) with
      | .error failure => return .inl (none, some failure)
      | .ok current => closeStep attempt effect current

def runEffect (attempt : Attempt) (current : Run) : Job Progress := do
  if ← attempt.expired then return .inl (← interruptBeforeEffect current attempt.live)
  else
    match findStep current attempt.live.stepID with
    | none => return .inl (some current, some (.coded .integrityFailure "run-step-binding"))
    | some intentStep =>
      match ← validateScheduled config attempt.plan with
      | .error failure => return .inl (← failBeforeEffect current attempt.live failure)
      | .ok () =>
        let (effect, executeFailure) ← invokeEffect config attempt intentStep
        if ← attempt.expired then
          if effect.effectObserved then return .inl (← partialRun current attempt.live)
          else return .inl (← interruptBeforeEffect current attempt.live)
        else if executeFailure.isSome || !validEffect effect then
          if effect.effectObserved then return .inl (← partialRun current attempt.live)
          else if executeFailure == some .canceled || executeFailure == some .deadlineExceeded then
            return .inl (← interruptBeforeEffect current attempt.live)
          else
            return .inl (← failBeforeEffect current attempt.live
              (executeFailure.getD (.coded .integrityFailure "adapter-effect")))
        else recordAndVerify config attempt effect current

def centralLease (plan : Plan) (current : Run) (live : RunStep) (leaseID nonceDigest : String) (claimed : Time) :
    ExecutorLease where
  leaseID := leaseID
  planID := plan.planID
  planDigest := plan.planDigest
  runID := current.runID
  stepID := live.stepID
  operationID := live.operationID
  executorID := live.executorID
  adapterID := live.adapterID
  targetID := live.targetID
  artifactDigest := live.artifactDigest
  bindingDigest := current.executorBindingDigest
  nonceDigest := nonceDigest
  recoveryEpoch := current.recoveryEpoch
  claimedAt := claimed
  renewAfter := claimed + executorCheckInSeconds
  leaseExpiresAt := claimed + executorLeaseSeconds
  maximumExpiresAt := claimed + executorLeaseSeconds
  status := .active
  extensions := []

def executeStep (plan : Plan) (current : Run) (live : RunStep) : Job Progress := do
  match exactOperation plan live with
  | .error failure => return .inl (some current, some failure)
  | .ok operation =>
    match ← resolveImplementation config plan operation with
    | .error failure =>
      match ← failRun current.runID none with
      | .error transitionFailure => return .inl (none, some transitionFailure)
      | .ok run => return .inl (some run, some failure)
    | .ok implementation =>
      let claimed ← clock
      match ← issue (.drawLease live) with
      | .error _ =>
        match ← interruptRun current.runID with
        | .error failure => return .inl (some current, some failure)
        | .ok run => return .inl (some run, some (.coded .integrityFailure "lease-identity"))
      | .ok (leaseID, nonceDigest) =>
        let lease := centralLease plan current live leaseID nonceDigest claimed
        match ← issue (.acquireTargetLease lease) with
        | .error failure =>
          match ← interruptRun current.runID with
          | .error transitionFailure => return .inl (some current, some transitionFailure)
          | .ok run => return .inl (some run, some failure)
        | .ok () =>
          match ← mutateRun (.beginStep ⟨current.runID, live.stepID, lease.leaseID, claimed⟩) with
          | .error failure => return .inl (none, some failure)
          | .ok current => runEffect config ⟨plan, live, operation, implementation, lease⟩ current

/-- The step loop of `start`. It walks the steps of the document it started
with and looks each of them up in a fresh one. -/
def stepLoop (plan : Plan) : List RunStep → Run → Job Outcome
  | [], current => do
    let now ← clock
    return Outcome.of (← transitionRun
      { runID := current.runID, source := .running, target := .succeeded, time := now,
        verificationStatus := some .verified,
        verificationDigest := some (config.digest ["run-verification", current.runID, current.planDigest]) })
  | step :: rest, stale => do
    match ← getRun stale.runID with
    | .error failure => return (some stale, some failure)
    | .ok current =>
      if ← issue .contextCancelled then
        match ← interruptRun current.runID with
        | .error failure => return (none, some failure)
        | .ok run =>
          match ← releaseRunLeases run.runID with
          | .error failure => return (some run, some failure)
          | .ok () => return (some run, some (.coded .interrupted "run"))
      else if current.cancellationRequested then return Outcome.of (← interruptRun current.runID)
      else
        match findStep current step.stepID with
        | none => stepLoop plan rest current
        | some live =>
          if live.status == .succeeded then stepLoop plan rest current
          else if live.status != .queued then return (some current, some (.coded .recoveryRequired "run-step"))
          else
            match ← executeStep config plan current live with
            | .inl outcome => return outcome
            | .inr current => stepLoop plan rest current

def start (plan : Plan) (current : Run) : Job Outcome := do
  let now ← clock
  if current.status == .queued then
    match ← getRun current.runID with
    | .error failure => return (some current, some failure)
    | .ok current =>
      if terminal current.status then return (some current, none)
      else if current.cancellationRequested then
        return Outcome.of (← transitionRun
          { runID := current.runID, source := .queued, target := .cancelled, time := now })
      else
        match ← transitionRun { runID := current.runID, source := .queued, target := .running, time := now } with
        | .error failure => return (none, some failure)
        | .ok current => stepLoop config plan current.steps current
  else if current.status == .interrupted then
    match ← transitionRun { runID := current.runID, source := .interrupted, target := .running, time := now } with
    | .error failure => return (none, some failure)
    | .ok current => stepLoop config plan current.steps current
  else stepLoop config plan current.steps current

end Engine

end VskLabs

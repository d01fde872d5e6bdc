import VskLabs.Run.Engine

/-! The entry points of the engine: submission, resumption, cancellation, the
idempotent operations over both, and startup reconciliation. -/

namespace VskLabs
open Library

structure SubmitRequest where
  reference : PlanReferenceRequest
  authorization : AuthorizationDecision
  acknowledgementID : Option String

/-- `ControllerSetupPlan`: the one class of central plans a local claim carries
out instead of the engine. -/
def controllerSetupPlan (plan : Plan) : Bool :=
  plan.authorizationBranch == .human && plan.executorMode == .central && !plan.requests.hostAction &&
    !plan.requests.hostRoleScope && !plan.requests.hostAccessSequence && credentialPlanDigest plan == "" &&
    match plan.operations with
    | [operation] =>
      operation.adapterID == "core.controller-setup" && operation.operationType == "controller.setup.bootstrap" &&
        !operation.idempotent && [operation.inputDigest, operation.artifactDigest].all validFingerprint
    | _ => false

namespace Engine

variable (config : EngineConfig)

def verifyAdmission (plan : Plan) (decision : AuthorizationDecision) (acknowledgementID : Option String) :
    Job (Except Failure Unit) := do
  match ← issue (.ask (.validateCurrent plan)) with
  | .error _ => return .error (.coded .planStale "plan")
  | .ok () =>
    match ← issue (.ask (.firstExecutionTarget plan decision.targetID)) with
    | .error _ => return .error (.coded .authorizationDenied "run-admission")
    | .ok () =>
      if plan.operations.isEmpty || !decision.allowed || decision.action != "execute" ||
          decision.planDigest != plan.planDigest || decision.recoveryEpoch != plan.binding.recoveryEpoch ||
          decision.branch != some plan.authorizationBranch then
        return .error (.coded .authorizationDenied "run-admission")
      else if plan.authorizationBranch == .human && acknowledgementID == none then
        return .error (.coded .approvalRequired "acknowledgement")
      else if plan.authorizationBranch == .preauthorized && acknowledgementID != none then
        return .error (.coded .authorizationDenied "acknowledgement")
      else issue (.ask (.verifyAdmission plan decision acknowledgementID))

/-- Credentials leave the process only with a managed deployment plan of the
human branch. -/
def admitExternalCredentials (plan : Plan) : Job (Except Failure Unit) := do
  if credentialPlanDigest plan == "" || plan.executorMode == .central then return .ok ()
  else if !config.managedPlans then return .error (.coded .authorizationDenied "credential-external-execution")
  else issue (.ask (.validateManagedDeploymentPlan plan))

def submittedRun (plan : Plan) (request : SubmitRequest) (executorID : String) (now : Time) : Run :=
  let runID := config.runID plan.planID request.reference.idempotencyKey
  { runID := runID
    planID := plan.planID
    planDigest := plan.planDigest
    authorizationDecisionID := request.authorization.decisionID
    acknowledgementID := request.acknowledgementID
    policyVersion := plan.binding.policyVersion
    executorMode := plan.executorMode
    executorID := executorID
    executorBindingDigest := config.digest ["executor-binding", plan.planID, plan.planDigest, executorID,
      request.authorization.decisionID]
    status := .queued
    steps := plan.operations.map fun operation =>
      { sequence := operation.sequence
        operationID := operation.operationID
        operationType := operation.operationType
        adapterID := operation.adapterID
        executorID := operation.executorID
        targetID := operation.targetID
        inputDigest := operation.inputDigest
        artifactDigest := operation.artifactDigest
        idempotent := operation.idempotent
        stepID := config.stepID runID operation.sequence
        status := .queued
        effectState := .notStarted }
    cancellationRequested := false
    rollbackStatus := .notRequested
    verificationStatus := .pending
    verificationDigest := none
    changed := false
    stateRevision := plan.binding.stateRevision
    recoveryEpoch := plan.binding.recoveryEpoch
    createdAt := now
    updatedAt := now
    extensions := [] }

def SubmitRequest.digest (request : SubmitRequest) : SubmitDigest :=
  ⟨request.reference, request.authorization.principalID, request.authorization.branch, request.acknowledgementID⟩

def createAndStart (controllerSetup : Bool) (plan : Plan) (request : SubmitRequest) (executorID : String) (now : Time) :
    Job Outcome := do
  match ← createRun ⟨submittedRun config plan request executorID now, request.reference.idempotencyKey,
      SubmitRequest.digest request⟩ with
  | .error failure => return (none, some failure)
  | .ok (run, created) =>
    if !created && run.status != .queued then return (some run, none)
    else
      match ← issue (.ask (.activateAdmission plan request.authorization run request.acknowledgementID)) with
      | .error failure => return (some run, some failure)
      | .ok () =>
        if plan.executorMode == .external || controllerSetup then
          match ← transitionRun { runID := run.runID, source := .queued, target := .running, time := now } with
          | .error failure => return (some run, some failure)
          | .ok started => return (some started, none)
        else start config plan run

def submit (controllerSetup : Bool) (request : SubmitRequest) : Job Outcome := do
  if !request.reference.exactContract || !request.authorization.exactContract then
    return (none, some (.coded .inputInvalid "run-submit"))
  else
    match ← issue (.getPlan request.reference.planID) with
    | .error failure => return (none, some failure)
    | .ok plan =>
      if controllerSetup && !controllerSetupPlan plan then
        return (none, some (.coded .authorizationDenied "controller-setup-class"))
      else if plan.planID != request.reference.planID || plan.planDigest != request.reference.planDigest ||
          plan.binding.recoveryEpoch != request.reference.recoveryEpoch || plan.status != .planned then
        return (none, some (.coded .planStale "plan"))
      else
        match ← admitExternalCredentials config plan with
        | .error failure => return (none, some failure)
        | .ok () =>
          match ← verifyAdmission plan request.authorization request.acknowledgementID with
          | .error failure => return (none, some failure)
          | .ok () =>
            match ← validateScheduled config plan with
            | .error failure => return (none, some failure)
            | .ok () =>
              -- `credentialExternalAdmitted` under the context `submit` has just bound to this plan
              if credentialPlanDigest plan != "" && plan.executorMode != .central &&
                  !(plan.executorMode == .external && plan.authorizationBranch == .human) then
                return (none, some (.coded .authorizationDenied "credential-external-execution"))
              else
                let now ← clock
                if plan.expiresAt ≤ now then return (none, some (.coded .planStale "plan"))
                else
                  match planExecutorID plan with
                  | .error failure => return (none, some failure)
                  | .ok executorID => createAndStart config controllerSetup plan request executorID now

def resumable (step : RunStep) : Bool :=
  step.status == .succeeded || (step.status == .interrupted && step.idempotent && step.effectState == .notStarted)

def resumeAs (runID : String) : Job Outcome := do
  match ← getRun runID with
  | .error failure => return (none, some failure)
  | .ok run =>
    if run.status == .partialOutcome then return (some run, some (.coded .recoveryRequired "run-resume"))
    else if run.status != .interrupted then return (some run, some (.coded .stateConflict "run-resume"))
    else if !run.steps.all resumable then return (some run, some (.coded .recoveryRequired "run-resume"))
    else
      match ← issue (.getPlan run.planID) with
      | .error failure => return (some run, some failure)
      | .ok plan =>
        match ← issue (.ask (.validateCurrent plan)) with
        | .error _ => return (some run, some (.coded .planStale "plan"))
        | .ok () =>
          match ← issue (.ask (.verifyRun plan run)) with
          | .error failure => return (some run, some failure)
          | .ok () => start config plan run

def stepInFlight (step : RunStep) : Bool :=
  step.status == .running || step.effectState == .intentRecorded || step.effectState == .receiptRecorded

def cancelAs (runID : String) : Job Outcome := do
  match ← getRun runID with
  | .error failure => return (none, some failure)
  | .ok run =>
    let now ← clock
    match run.status with
    | .queued => return Outcome.of (← transitionRun
        { runID := runID, source := .queued, target := .cancelled, time := now })
    | .running =>
      if run.executorMode == .external && !run.steps.any stepInFlight then
        return Outcome.of (← transitionRun
          { runID := runID, source := .running, target := .interrupted, time := now,
            verificationStatus := some .incomplete })
      else return Outcome.of (← mutateRun (.requestCancellation runID now))
    | .interrupted => return Outcome.of (← transitionRun
        { runID := runID, source := .interrupted, target := .cancelled, time := now })
    | _ => return (some run, some (.coded .stateConflict "run-cancel"))

/-- What `MutateAs` does once it holds the operation's claim. -/
def operate (operation : RunOperation) (runID : String) (current : Run) : Job Outcome :=
  match operation with
  | .cancel =>
    if current.status == .cancelled || current.cancellationRequested then return (some current, none)
    else cancelAs runID
  | .resume =>
    match current.status with
    | .succeeded => return (some current, none)
    | .failed => return (some current, some (.coded .executionFailed "run"))
    | .partialOutcome => return (some current, some (.coded .recoveryRequired "run"))
    | .cancelled | .running | .queued => return (some current, some (.coded .stateConflict "run-resume"))
    | .interrupted => resumeAs config runID

def storedOperationError (operation : RunOperation) : Option ErrorCode → Option Failure
  | none => none
  | some code => some (.coded code (match operation with | .cancel => "run-cancel" | .resume => "run-resume"))

/-- `Engine.MutateAs`. The lane that serializes equal keys inside one process is
left out, so more interleavings are covered than it allows. -/
def mutateAs (operation : RunOperation) (reference : RunReferenceRequest) : Job Outcome := do
  if !reference.exactContract then return (none, some (.coded .inputInvalid "run-operation"))
  else
    match ← getRun reference.runID with
    | .error failure => return (none, some failure)
    | .ok current =>
      if current.recoveryEpoch != reference.recoveryEpoch then
        return (some current, some (.coded .recoveryEpochMismatch "run"))
      else
        let now ← clock
        match ← issue (.claimRunOperation operation reference now) with
        | .error failure => return (some current, some failure)
        | .ok () =>
          match ← issue (.runOperation operation reference) with
          | .error failure => return (some current, some failure)
          | .ok (some (run, errorCode)) => return (some run, storedOperationError operation errorCode)
          | .ok none =>
            let (result, failure) ← operate config operation reference.runID current
            let errorCode := failure.map fun failure => failure.code.getD .integrityFailure
            let now ← clock
            match result with
            -- the zero document fails the store's own check
            | none => return (none, some (.coded .inputInvalid "run-operation"))
            | some run =>
              match ← issue (.completeRunOperation operation reference run errorCode now) with
              | .error failure => return (some run, some failure)
              | .ok () =>
                match ← issue (.runOperation operation reference) with
                | .error failure => return (some run, some failure)
                | .ok none => return (none, none)
                | .ok (some (run, errorCode)) => return (some run, storedOperationError operation errorCode)

/-- What the classification loop of `Reconcile` accumulates over the steps. -/
structure Verdict where
  (ambiguous failed allSucceeded : Bool)

/-- The step loop of `Reconcile`, which also settles the steps in flight. -/
def classify (runID : String) (now : Time) : List RunStep → Verdict → Job (Except Failure Verdict)
  | [], verdict => return .ok verdict
  | step :: rest, verdict => do
    let verdict := { verdict with
      allSucceeded := verdict.allSucceeded && step.status == .succeeded && step.effectState == .verified }
    if step.status == .partialOutcome || step.effectState == .effectUnknown then
      classify runID now rest { verdict with ambiguous := true }
    else if step.status == .failed then classify runID now rest { verdict with failed := true }
    else if step.status == .running && (step.effectState == .intentRecorded || step.effectState == .receiptRecorded) then
      match ← mutateRun (.markStepUnknown runID step.stepID now) with
      | .error failure => return .error failure
      | .ok _ => classify runID now rest { verdict with ambiguous := true }
    else classify runID now rest verdict

def Verdict.transition (verdict : Verdict) (runID : String) (now : Time) : RunTransitionRequest :=
  if verdict.ambiguous then
    { runID := runID, source := .running, target := .partialOutcome, time := now,
      verificationStatus := some .incomplete, rollbackStatus := some .required, changed := some true }
  else if verdict.failed then
    { runID := runID, source := .running, target := .failed, time := now, verificationStatus := some .failed }
  else if verdict.allSucceeded then
    { runID := runID, source := .running, target := .succeeded, time := now, verificationStatus := some .verified,
      verificationDigest := some (config.digest ["run-verified", runID]) }
  else
    { runID := runID, source := .running, target := .interrupted, time := now,
      verificationStatus := some .incomplete }

/-- The body of the run loop of `Reconcile`. -/
def reconcileRun (run : Run) : Job (Except Failure Unit) := do
  let now ← clock
  match ← issue (.releaseRunLeases run.runID now) with
  | .error failure => return .error failure
  | .ok () =>
    if run.status == .queued || run.status == .interrupted then return .ok ()
    else
      match ← classify run.runID now run.steps ⟨false, false, !run.steps.isEmpty⟩ with
      | .error failure => return .error failure
      | .ok verdict =>
        match ← transitionRun (verdict.transition config run.runID now) with
        | .error failure => return .error failure
        | .ok _ => return .ok ()

def reconcileRuns : List Run → Job (Except Failure Unit)
  | [] => return .ok ()
  | run :: rest => do
    match ← reconcileRun config run with
    | .error failure => return .error failure
    | .ok () => reconcileRuns rest

def reconcile : Job (Except Failure Unit) := do
  match ← issue .activeRuns with
  | .error failure => return .error failure
  | .ok runs => reconcileRuns config runs

def startup : Job (Except Failure Unit) := do
  let now ← clock
  match ← issue (.pruneRunHistory now) with
  | .error failure => return .error failure
  | .ok _ => reconcile config

end Engine

end VskLabs

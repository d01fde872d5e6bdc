import VskLabs.Run.Lifecycle

/-! The claim protocol of external executors: server-selected work, renewal,
receipts as observations until verified, and expiry as an ambiguous effect. -/

namespace VskLabs
open Library

/-- `managedDeploymentContext`, the proof an in-process CI controller carries. Its
controller binding is passed on to the guard alone and is left out. -/
structure ManagedProof where
  (planID planDigest : String)
  principal : Principal

structure Caller where
  principal : Principal
  proof : Option ManagedProof

/-- `managedPrincipalContext`. -/
def Caller.admissible (caller : Caller) : Bool :=
  caller.principal.method != .managedCIController ||
    caller.proof.any fun proof => proof.principal == caller.principal && validPrincipal caller.principal

def evidenceNames : List String := ["x-executor-project", "x-executor-workflow", "x-executor-ref"]

/-- `executorEvidence`: the project, workflow and ref digests, each at most once.
A claim may carry nothing else. -/
def executorEvidence (extensions : List ContractExtension) (claim : Bool) : Option (List ContractExtension) :=
  let relevant := extensions.filter fun extension => evidenceNames.contains extension.name
  if (claim && relevant.length != extensions.length) || (relevant.map ContractExtension.name).dedup.length != relevant.length ||
      !relevant.all (fun extension => (bytes extension.valueDigest).take 7 == bytes "sha256:" &&
        (bytes extension.valueDigest).length == 71) then none
  else some relevant

def bindExternalExecutorIdentity (principal : Principal) (request : ExecutorClaimRequest) (plan : Plan)
    (step : RunStep) : Bool :=
  validPrincipal principal && effectivePrincipalKind principal == .policy &&
    principal.id == request.principalID && principal.id == request.executorID &&
    plan.executorMode == .external && plan.executorID == some request.executorID &&
    step.executorID == request.executorID && step.adapterID == request.adapterID &&
    plan.binding.recoveryEpoch == request.recoveryEpoch &&
    match executorEvidence plan.extensions false, executorEvidence request.extensions true with
    | some want, some got => want.all (fun extension => got.contains extension) &&
        got.all fun extension => want.any fun wanted => wanted.name == extension.name
    | _, _ => false

namespace ExternalExecutor

variable (config : EngineConfig)

def externalAttribution (principal : Principal) : Except Failure Unit :=
  ensure (attributable principal) (.coded .integrityFailure "executor-attribution")

/-- `recordAuthorizationDenial`; the denial is an audit record outside the
modelled tables. -/
def recordAuthorizationDenial (principal : Principal) (reason target : String) : Job (Except Failure Unit) := do
  match externalAttribution principal with
  | .error failure => return .error failure
  | .ok () => issue (.ask (.recordAuthorizationDenial reason target))

def authorizationDenied (principal : Principal) (reason target : String) : Job Failure := do
  match ← recordAuthorizationDenial principal reason target with
  | .error failure => return failure
  | .ok () => return .coded .authorizationDenied "executor-authorization"

def allStepsVerified (run : Run) : Bool :=
  !run.steps.isEmpty && run.steps.all fun step => step.status == .succeeded && step.effectState == .verified

/-- `recoveryRequired`: mark the step unknown, leave the run partial and give
up the lease. It never succeeds. -/
def recoveryRequired (current : Run) (step : RunStep) (lease : ExecutorLease) : Job Failure := do
  let marked ← (do
    if step.status == .running && (step.effectState == .intentRecorded || step.effectState == .receiptRecorded) then
      let now ← clock
      mutateRun (.markStepUnknown current.runID step.stepID now)
    else return .ok current : Job (Except Failure Run))
  match marked with
  | .error failure => return failure
  | .ok updated =>
    let moved ← (do
      if updated.status == .running &&
          (findStep updated step.stepID).any fun updated => updated.effectState == .effectUnknown then
        Engine.leavePartial updated.runID true
      else return .ok updated : Job (Except Failure Run))
    match moved with
    | .error failure => return failure
    | .ok _ =>
      if lease.status == .active then
        let now ← clock
        match ← issue (.releaseTargetLease lease.leaseID now) with
        | .error failure => return failure
        | .ok () => return .coded .recoveryRequired "executor-reconciliation"
      else return .coded .recoveryRequired "executor-reconciliation"

/-- `Expire` of the lease repository, with its answer to a recorded key. -/
def expire (now : Time) : Job (Except Failure (List ExecutorLease)) := do
  match ← issue (.expireLeases now) with
  | .error failure => return .error failure
  | .ok (some leases) => return .ok leases
  | .ok none => issue (.discoverExpiredRecovery now)

def recoverLeases : List ExecutorLease → Job (Except Failure Unit)
  | [] => return .ok ()
  | lease :: rest => do
    match ← getRun lease.runID with
    | .error failure => return .error failure
    | .ok current =>
      match findStep current lease.stepID with
      | none => recoverLeases rest
      | some step =>
        if current.status != .running || (step.status != .running &&
            !(step.status == .partialOutcome && step.effectState == .effectUnknown)) then recoverLeases rest
        else
          let failure ← recoveryRequired current step lease
          if failure.code == some .recoveryRequired then recoverLeases rest else return .error failure

def reconcile : Job (Except Failure Unit) := do
  let now ← clock
  match ← expire now with
  | .error failure => return .error failure
  | .ok leases => recoverLeases leases

def isDeployment (kind : String) : Bool :=
  ["application.deploy.low-risk", "application.deploy.production-like", "service.deploy"].contains kind

/-- The job check of `verifyDeploymentJob`. A managed caller must hold a proof for
exactly this plan, which the guard confirms again. -/
def verifyJob (caller : Caller) (plan : Plan) (step : RunStep) : Job (Except Failure Unit) := do
  match caller.proof with
  | some proof =>
    if proof.planID != plan.planID || proof.planDigest != plan.planDigest || proof.principal != caller.principal then
      return .error (.coded .authorizationDenied "managed-deployment-binding")
    else
      match ← issue (.verifyManagedDeploymentJob plan step) with
      | .error failure => return .error failure
      | .ok actual =>
        if actual != caller.principal then
          return .error (.coded .authorizationDenied "managed-deployment-principal")
        else return .ok ()
  | none =>
    if caller.principal.method == .managedCIController then
      return .error (.coded .authorizationDenied "managed-executor-context")
    else issue (.ask (.verifyDeploymentJob caller.principal plan step))

def verifyDeploymentJob (caller : Caller) (plan : Plan) (current : Run) (step : RunStep) (receipt : Bool) :
    Job (Except Failure Unit) := do
  if !isDeployment step.operationType then return .ok ()
  else if !config.deploymentAdmission then
    return .error (← authorizationDenied caller.principal "deployment-job-unconfigured" step.targetID)
  else
    match ← verifyJob caller plan step with
    | .error _ => return .error (← authorizationDenied caller.principal "deployment-job-denied" step.targetID)
    | .ok () =>
      match ← getRun current.runID with
      | .error failure => return .error failure
      | .ok fresh =>
        if fresh.status != .running || (fresh.cancellationRequested && !receipt) || fresh.planID != plan.planID ||
            fresh.planDigest != plan.planDigest then
          return .error (← authorizationDenied caller.principal "deployment-job-run-stale" current.runID)
        else issue (.ask (.verifyRun plan fresh))

def workActive (executorID : String) (run : Run) : Bool :=
  run.status == .running && run.executorMode == .external && run.executorID == executorID &&
    run.steps.any fun step => step.status == .running || step.effectState == .intentRecorded ||
      step.effectState == .receiptRecorded || step.effectState == .effectUnknown

def claimBefore (first second : Run) : Prop :=
  first.createdAt < second.createdAt ∨ (first.createdAt = second.createdAt ∧ first.runID ≤ second.runID)

instance : DecidableRel claimBefore := fun _ _ => inferInstanceAs (Decidable (_ ∨ _ ∧ _))

def externalLease (plan : Plan) (current : Run) (step : RunStep) (request : ExecutorClaimRequest) (leaseID : String)
    (now : Time) : ExecutorLease :=
  { Engine.centralLease plan current step leaseID request.nonceDigest now with extensions := request.extensions }

/-- Claim the selected step: every check between the selection and the
transaction that records the lease. -/
def claimStep (caller : Caller) (request : ExecutorClaimRequest) (plan : Plan) (current : Run) (step : RunStep) :
    Job (Except Failure ExecutorLease) := do
  if step.adapterID != request.adapterID then
    return .error (← authorizationDenied caller.principal "claim-adapter" current.runID)
  else if !bindExternalExecutorIdentity caller.principal request plan step then
    return .error (← authorizationDenied caller.principal "claim-binding" current.runID)
  else
    match ← verifyDeploymentJob config caller plan current step false with
    | .error failure => return .error failure
    | .ok () =>
      match ← issue (.resolveAdapter step.adapterID) with
      | .error failure => return .error failure
      | .ok handle =>
        if !handle.receiptVerifier then
          return .error (.coded .dependencyUnavailable "executor-verification-adapter")
        else
          let now ← clock
          match ← issue (.drawLease step) with
          | .error _ => return .error (.coded .integrityFailure "executor-lease-identity")
          | .ok (leaseID, _) =>
            match externalAttribution caller.principal with
            | .error failure => return .error failure
            | .ok () =>
              issue (.claimLease ⟨request, externalLease plan current step request leaseID now, now, caller.principal.id⟩)

/-- The selection loop of `Claim`: the first unresolved step of the oldest
eligible run is the only candidate. -/
def selectWork (caller : Caller) (request : ExecutorClaimRequest) : List Run → Job (Except Failure ExecutorLease)
  | [] => return .error (.coded .resourceNotFound "executor-work")
  | current :: rest => do
    if caller.proof.any (fun proof => current.planID != proof.planID) then selectWork caller request rest
    else if current.status != .running || current.executorMode != .external ||
        current.executorID != request.executorID || current.cancellationRequested then selectWork caller request rest
    else
      match ← issue (.getPlan current.planID) with
      | .error failure => return .error failure
      | .ok plan =>
        let managed := caller.proof.any fun proof =>
          proof.planID == plan.planID && proof.planDigest == plan.planDigest && proof.principal == caller.principal
        if credentialPlanDigest plan != "" && !managed then
          return .error (.coded .prerequisiteBlocked "external-credential-handoff")
        else
          match ← issue (.ask (.verifyRun plan current)) with
          | .error failure => return .error failure
          | .ok () =>
            match current.steps.find? fun step => !(step.status == .succeeded && step.effectState == .verified) with
            | none => selectWork caller request rest
            | some step =>
              if step.status != .queued || step.effectState != .notStarted then selectWork caller request rest
              else claimStep config caller request plan current step

/-- `ExternalExecutor.Claim`. The exclusivity check reads the active runs
outside the transaction that records the lease. -/
def claim (caller : Caller) (request : ExecutorClaimRequest) : Job (Except Failure ExecutorLease) := do
  if !request.exactContract then return .error (.coded .inputInvalid "executor-claim")
  else if !caller.admissible then return .error (.coded .authorizationDenied "managed-executor-context")
  else
    match ← reconcile with
    | .error failure => return .error failure
    | .ok () =>
      match ← issue .activeRuns with
      | .error failure => return .error failure
      | .ok runs =>
        let runs := runs.insertionSort claimBefore
        if runs.any (workActive request.executorID) then
          return .error (.coded .stateConflict "executor-work-active")
        else selectWork config caller request runs

structure BoundLease where
  lease : ExecutorLease
  current : Run
  plan : Plan
  step : RunStep

def boundLease (caller : Caller) (leaseID : String) (evidence : List ContractExtension) :
    Job (Except Failure BoundLease) := do
  if !caller.admissible then return .error (.coded .authorizationDenied "managed-executor-context")
  else
    match ← issue (.getLease leaseID) with
    | .error failure => return .error failure
    | .ok lease =>
      match ← getRun lease.runID with
      | .error failure => return .error failure
      | .ok current =>
        match ← issue (.getPlan current.planID) with
        | .error failure => return .error failure
        | .ok plan =>
          match findStep current lease.stepID with
          | none => return .error (.coded .integrityFailure "executor-lease-binding")
          | some step =>
            if !validExecutorLeaseBinding plan current lease then
              return .error (.coded .integrityFailure "executor-lease-binding")
            else if !bindExternalExecutorIdentity caller.principal
                ⟨lease.executorID, caller.principal.id, lease.adapterID, lease.recoveryEpoch, "", evidence⟩ plan step then
              return .error (← authorizationDenied caller.principal "lease-identity" lease.leaseID)
            else return .ok ⟨lease, current, plan, step⟩

def renew (caller : Caller) (request : ExecutorRenewRequest) : Job (Except Failure ExecutorLease) := do
  if !request.exactContract then return .error (.coded .inputInvalid "executor-renew")
  else
    match ← reconcile with
    | .error failure => return .error failure
    | .ok () =>
      match ← boundLease caller request.leaseID request.extensions with
      | .error failure => return .error failure
      | .ok ⟨lease, current, plan, step⟩ =>
        if request.recoveryEpoch != lease.recoveryEpoch then
          return .error (.coded .recoveryEpochMismatch "executor-renew-binding")
        else if request.bindingDigest != lease.bindingDigest || request.nonceDigest != lease.nonceDigest ||
            current.status != .running then
          return .error (← authorizationDenied caller.principal "renew-binding" lease.leaseID)
        else
          match ← issue (.ask (.verifyRun plan current)) with
          | .error failure => return .error failure
          | .ok () =>
            match ← verifyDeploymentJob config caller plan current step false with
            | .error failure => return .error failure
            | .ok () =>
              match ← issue (.drawLease step) with
              | .error _ => return .error (.coded .integrityFailure "executor-renew-identity")
              | .ok (_, nextNonce) =>
                match externalAttribution caller.principal with
                | .error failure => return .error failure
                | .ok () =>
                  let now ← clock
                  issue (.renewLease ⟨request, nextNonce, now⟩)

/-- The receipt and the error `SubmitReceipt` returns; two of its branches
return both. -/
abbrev ReceiptOutcome := Option ExecutionReceipt × Option Failure

def withTransition (receipt : ExecutionReceipt) : Except Failure Run → ReceiptOutcome
  | .ok _ => (some receipt, none)
  | .error failure => (some receipt, some failure)

def closeReceipt (receipt : ExecutionReceipt) (lease : ExecutorLease) (updated : Run) (now : Time) :
    Job ReceiptOutcome := do
  match ← issue (.releaseTargetLease lease.leaseID now) with
  | .error failure => return (none, some failure)
  | .ok () =>
    if receipt.status == .failed then
      return withTransition receipt (← transitionRun
        { runID := updated.runID, source := .running, target := .failed, time := now,
          verificationStatus := some .failed, changed := some updated.changed })
    else if updated.cancellationRequested && !allStepsVerified updated then
      return withTransition receipt (← transitionRun
        { runID := updated.runID, source := .running, target := .interrupted, time := now,
          verificationStatus := some .incomplete })
    else if allStepsVerified updated then
      match ← transitionRun
        { runID := updated.runID, source := .running, target := .succeeded, time := now,
          verificationStatus := some .verified,
          verificationDigest := some (config.digest ["run-verification", updated.runID, updated.planDigest]) } with
      | .error failure => return (none, some failure)
      | .ok _ => return (some receipt, none)
    else return (some receipt, none)

/-- What becomes of a receipt once it was recorded or found not to match. `now`
and `bound` were read before that. -/
def settleReceipt (receipt : ExecutionReceipt) (bound : BoundLease) (operation : Operation) (bindingExact : Bool)
    (now : Time) : Job ReceiptOutcome := do
  let live := bindingExact && bound.lease.status == .active && decide (now < bound.lease.leaseExpiresAt)
  if !receiptStatus receipt.status || !validFingerprint receipt.resultDigest then
    return (none, some (← recoveryRequired bound.current bound.step bound.lease))
  else if receipt.status == .running then
    if !live then return (none, some (← recoveryRequired bound.current bound.step bound.lease))
    else return (some receipt, none)
  else
    let (verification, verifyFailure) ← issue (.verifyReceipt operation receipt.status receipt.resultDigest)
    if !live || verifyFailure.isSome || !validFingerprint verification.digest || !verification.verified ||
        receipt.status == .partialOutcome then
      return (none, some (← recoveryRequired bound.current bound.step bound.lease))
    else
      match ← mutateRun (.finishStep ⟨bound.current.runID, bound.step.stepID, bound.lease.leaseID, receipt,
          receipt.status, .verified, verification.digest, verification.changed, now⟩) with
      | .error failure => return (none, some failure)
      | .ok updated => closeReceipt config receipt bound.lease updated now

def submitReceipt (caller : Caller) (request : ExecutionReceiptRequest) : Job ReceiptOutcome := do
  if !request.exactContract then return (none, some (.coded .inputInvalid "executor-receipt"))
  else
    match ← boundLease caller request.receipt.leaseID request.extensions with
    | .error failure => return (none, some failure)
    | .ok bound =>
      match ← issue (.ask (.verifyRun bound.plan bound.current)) with
      | .error failure => return (none, some failure)
      | .ok () =>
        match ← verifyDeploymentJob config caller bound.plan bound.current bound.step true with
        | .error failure => return (none, some failure)
        | .ok () =>
          match exactOperation bound.plan bound.step with
          | .error failure => return (none, some failure)
          | .ok operation =>
            match ← issue (.resolveAdapter operation.adapterID) with
            | .error failure => return (none, some failure)
            | .ok handle =>
              if !handle.receiptVerifier then
                return (none, some (.coded .dependencyUnavailable "executor-verification-adapter"))
              else
                match externalAttribution caller.principal with
                | .error failure => return (none, some failure)
                | .ok () =>
                  let now ← clock
                  if request.expectedBindingDigest == bound.lease.bindingDigest &&
                      validExecutionReceiptBinding bound.lease request.receipt then
                    match ← issue (.recordExternalReceipt ⟨request, now⟩) with
                    | .error failure => return (none, some failure)
                    | .ok _ => settleReceipt config request.receipt bound operation true now
                  else
                    match ← recordAuthorizationDenial caller.principal "receipt-binding" bound.lease.leaseID with
                    | .error failure => return (none, some failure)
                    | .ok () => settleReceipt config request.receipt bound operation false now

/-- `managedContext`: the caller a current CI admission stands for. -/
def managedContext (planID : String) : Job (Except Failure Caller) := do
  let denied : Failure := .coded .authorizationDenied "managed-deployment"
  if !config.deploymentAdmission then return .error denied
  else
    match ← issue (.getPlan planID) with
    | .error failure => return .error failure
    | .ok plan =>
      if plan.planID != planID || plan.executorMode != .external || plan.operations.length != 1 then return .error denied
      else
        match ← issue .activeRuns with
        | .error failure => return .error failure
        | .ok runs =>
          match runs.filter fun run => run.planID == planID && run.planDigest == plan.planDigest &&
              run.status == .running && !run.cancellationRequested with
          | [selected] =>
            match selected.steps with
            | [step] =>
              match ← issue (.verifyManagedDeploymentJob plan step) with
              | .error failure => return .error failure
              | .ok principal =>
                if principal.method != .managedCIController || !validPrincipal principal ||
                    plan.executorID != some principal.id || selected.executorID != principal.id then return .error denied
                else return .ok ⟨principal, some ⟨planID, plan.planDigest, principal⟩⟩
            | _ => return .error denied
          | _ => return .error denied

def claimManaged (planID : String) (request : ExecutorClaimRequest) : Job (Except Failure ExecutorLease) := do
  match ← managedContext config planID with
  | .error failure => return .error failure
  | .ok caller => claim config caller request

def renewManaged (request : ExecutorRenewRequest) : Job (Except Failure ExecutorLease) := do
  match ← issue (.getLease request.leaseID) with
  | .error failure => return .error failure
  | .ok lease =>
    match ← managedContext config lease.planID with
    | .error failure => return .error failure
    | .ok caller => renew config caller request

def submitManagedReceipt (request : ExecutionReceiptRequest) : Job ReceiptOutcome := do
  match ← issue (.getLease request.receipt.leaseID) with
  | .error failure => return (none, some failure)
  | .ok lease =>
    match ← managedContext config lease.planID with
    | .error failure => return (none, some failure)
    | .ok caller => submitReceipt config caller request

end ExternalExecutor

end VskLabs

import VskLabs.Planning.Declarations

/-! `plan.Service.Create`: how a draft declaration becomes an immutable plan, and
which risk each kind of declaration is given on the way. -/

namespace VskLabs.Planning
open Authorization Library

def planError (code : ErrorCode) : Failure := .coded code "plan"

/-! ### What the service reads -/

/-- A staged mesh or ingress change; `valid` is the change's own check. -/
structure Staged where
  (digest action profileID : String)
  valid : Bool

/-- A host action draft. The scopes are those derived from the request, absent
when deriving one fails. -/
structure HostActionDraft where
  (digest requestDigest : String)
  request : HostAction
  valid : Bool
  baselineScope : Option (Option HostBaselineScope)
  roleScope : Option Bool

structure ReplacementDraft where
  (id digest : String)
  request : HostReplacement
  binding : Except Failure Unit

structure AdoptionDraft where
  (id digest : String)
  request : HostAdoption

structure DiscoveryDraft where
  (id digest : String)
  request : HostDiscoveryTarget
  (confirmed credentialMode : Bool)

structure LifecycleBinding where
  hostActionConsole : Bool
  nativeConsumers : Nat

/-- The draft readers of `Config`; an absent one is nil. -/
structure Readers where
  ingressChanges : Option (String → Except Failure Staged)
  meshChanges : Option (String → Except Failure Staged)
  hostReplacements : Option (String → Except Failure ReplacementDraft)
  hostActionCredentials : Option (String → Int → String → Except Failure LifecycleBinding)
  hostActions : Option (String → Except Failure HostActionDraft)
  hostDiscoveryTargets : Option (String → Except Failure DiscoveryDraft)
  hostAdoptions : Option (String → Except Failure AdoptionDraft)

structure Config where
  readers : Readers
  risk : RiskClass
  authorizationBranch : AuthorizationBranch
  executorMode : ExecutorMode
  executorID : Option String
  (operationExecutorID policyVersion : String)

def Config.production (readers : Readers) : Config :=
  ⟨readers, .destructive, .human, .central, none, "executor-central", "1.0.0"⟩

structure AuthorScope where
  (principalID principalMethod : String)

structure PlanCreateRequest where
  declarationID : String
  (declarationRevision expectedStateRevision recoveryEpoch : Int)
  (observationFingerprint idempotencyKey : String)
  extensions : List ContractExtension
  exactContract : Bool

structure DeploymentPolicy where
  (bindingID digest executorID serviceID artifactDigest inputDigest : String)
  extensions : String → List ContractExtension

/-- What one call reads beside the drafts, and the functions it computes with
that are not about risk. `accessInputs` decodes the requests of an access
sequence, checks their contents and gives its auxiliary targets and digest. -/
structure Environment where
  validators : Validators
  existing : PlanCreateRequest → Except Failure (Option (Authorization.Plan × Option CIJobRequest))
  declaration : String → Int → Except Failure Declaration
  reason : String → Int → Except Failure String
  current : Except Failure (Int × Int)
  fingerprint : String → List DeclarationOperation → Except Failure String
  accessInputs : List PlanOperation → List HostAction → Option (List String × String)
  clock : Time
  planDigest : Authorization.Plan → Option String
  contract : Authorization.Plan → Bool
  authorizationDigest : String
  commit : Authorization.Plan → Declaration → Except Failure Unit
  deploymentPolicy : String → Except Failure DeploymentPolicy
  commitCompanion : Authorization.Plan → Except Failure Unit

/-! ### The candidates and their seals -/

section Kinds

variable (declaration : Declaration) (operations : List PlanOperation)

def controllerSetupPlanCandidate : Bool :=
  declaration.declarationType == "controller.setup" ||
    operations.any fun operation =>
      operation.adapterID == "core.controller-setup" || startsWith operation.operationType "controller.setup."

def sealedSingleControllerSetup : Bool :=
  match operations with
  | [operation] =>
    declaration.declarationType == "controller.setup" && declaration.extensions.isEmpty &&
      !(declaration.maintenance.isSome || declaration.hostingLifecycle.isSome || declaration.serviceRecovery.isSome ||
        declaration.serviceDeployment.isSome || declaration.ciJob.isSome || declaration.ciEnrollment.isSome ||
        declaration.serviceImport.isSome || declaration.networkEndpoint.isSome ||
        declaration.authorizationGrantBatch.isSome || declaration.hostAliasClaim.isSome ||
        declaration.operations.head?.any fun first => first.offsiteRunSpec.isSome) &&
      operation.sequence == 1 && validRunToken operation.operationID && validRunToken operation.targetID &&
      operation.adapterID == "core.controller-setup" && operation.operationType == "controller.setup.bootstrap" &&
      !operation.idempotent && validFingerprint operation.inputDigest && validFingerprint operation.artifactDigest
  | _ => false

def notificationReadinessCandidate : Bool :=
  declaration.declarationType == "notification-readiness" ||
    (operations.any fun operation => operation.operationType == "operations.notification-readiness.test" ||
      operation.adapterID == "operations.notification-readiness") ||
    declaration.extensions.any fun extension => extension.name == "x-notification-readiness"

def sealedNotificationReadiness : Bool :=
  match operations with
  | [operation] =>
    declaration.declarationType == "notification-readiness" && operation.operationID == "notification-readiness" &&
      operation.operationType == "operations.notification-readiness.test" &&
      operation.adapterID == "operations.notification-readiness" && !operation.idempotent &&
      (lastExtension declaration.extensions "x-notification-readiness").any (· == operation.artifactDigest) &&
      (lastExtension declaration.extensions "x-credential-bindings").any (· != "")
  | _ => false

def credentialLifecycleOperation (operation : String) : Bool :=
  ["credential.stage", "credential.activate", "credential.rotate", "credential.revoke", "credential.recover"].contains
    operation

def credentialLifecyclePlanCandidate : Bool :=
  declaration.declarationType == "credential.lifecycle" ||
    operations.any fun operation =>
      credentialLifecycleOperation operation.operationType || operation.adapterID == "core.credential"

def sealedSingleCredentialLifecycle : Bool :=
  match operations, declaration.extensions with
  | [operation], [extension] =>
    declaration.declarationType == "credential.lifecycle" && operation.adapterID == "core.credential" &&
      credentialLifecycleOperation operation.operationType && extension.name == "x-credential-lifecycle" &&
      extension.valueDigest != ""
  | _, _ => false

def localRetentionPlanCandidate : Bool :=
  declaration.declarationType == "backup.retention-locks" || declaration.declarationType == "backup.retirement" ||
    operations.any fun operation => operation.operationType == "backup.retention-locks.activate" ||
      operation.operationType == "backup.local.retire" || operation.adapterID == "core.retention-locks" ||
      operation.adapterID == "local.retention"

def pairedExtensions (first second : String) : Bool :=
  declaration.extensions.length == 2 &&
    (declaration.extensions.all fun extension => extension.name == first || extension.name == second) &&
    (lastExtension declaration.extensions first).any (· != "") &&
    (lastExtension declaration.extensions second).any (· != "")

def sealedSingleLocalRetention : Bool :=
  match operations with
  | [operation] =>
    !operation.idempotent &&
      (declaration.declarationType == "backup.retention-locks" &&
          operation.operationType == "backup.retention-locks.activate" && operation.adapterID == "core.retention-locks" &&
          (match declaration.extensions with
            | [extension] => extension.valueDigest != "" && extension.name == "x-backup-retention-lock-catalog" &&
                operation.inputDigest == extension.valueDigest
            | _ => false) ||
        declaration.declarationType == "backup.retirement" && operation.operationType == "backup.local.retire" &&
          operation.adapterID == "local.retention" &&
          pairedExtensions declaration "x-credential-bindings" "x-backup-local-retirement" &&
          lastExtension declaration.extensions "x-credential-bindings" == some operation.inputDigest)
  | _ => false

def offsiteRetirementPlanCandidate : Bool :=
  declaration.declarationType == "backup.offsite-retirement" ||
    operations.any fun operation =>
      operation.operationType == "backup.retire.offsite" || operation.adapterID == "r2.retention"

def sealedSingleOffsiteRetirement : Bool :=
  match operations with
  | [operation] =>
    declaration.declarationType == "backup.offsite-retirement" && !operation.idempotent &&
      operation.operationType == "backup.retire.offsite" && operation.adapterID == "r2.retention" &&
      pairedExtensions declaration "x-backup-offsite-retirement" "x-credential-bindings" &&
      lastExtension declaration.extensions "x-backup-offsite-retirement" == some operation.artifactDigest &&
      lastExtension declaration.extensions "x-credential-bindings" == some operation.inputDigest
  | _ => false

def offsitePlanCandidate : Bool :=
  declaration.declarationType == "backup.offsite" ||
    operations.any fun operation =>
      operation.operationType == "backup.offsite.copy" || operation.adapterID == "labs.r2-offsite"

def sealedSingleOffsiteCopy : Bool :=
  match operations with
  | [operation] =>
    declaration.declarationType == "backup.offsite" && !operation.idempotent &&
      operation.operationType == "backup.offsite.copy" && operation.adapterID == "labs.r2-offsite" &&
      pairedExtensions declaration "x-credential-bindings" "x-offsite-generation" &&
      lastExtension declaration.extensions "x-offsite-generation" == some operation.artifactDigest
  | _ => false

/-- The operations `replacementPlan` and the extensions make it look at. -/
def replacementPlanCandidate : Bool :=
  declaration.hostAliasClaim.isSome || declaration.declarationType == "host.replacement" ||
    declaration.declarationType == "host.alias-claim" ||
    (operations.any fun operation => operation.adapterID == "core.host-replacement" ||
      startsWith operation.operationType "host.replacement." || operation.operationType == "host.alias.claim") ||
    declaration.extensions.any fun extension =>
      extension.name == "x-host-replacement" || extension.name == "x-host-alias-claim"

end Kinds

/-- `gate.ValidateGateOperations`. -/
def gateOperation (operation : DeclarationOperation) : Bool :=
  startsWith operation.operationType "gate." || operation.adapterID == "core.gate"

def validateGateOperations (operations : List DeclarationOperation) (central : Bool) : Bool :=
  (operations.all fun operation => !gateOperation operation ||
    operation.adapterID == "core.gate" && operation.inputDigest == operation.artifactDigest && central &&
      ["gate.evidence.apply", "gate.evidence.supersede", "gate.evidence.revoke", "gate.profile.bind"].contains
        operation.operationType) &&
    (!operations.any gateOperation || operations.length == 1)

/-! ### The stages of the classification -/

section Stages

variable (config : Config) (environment : Environment) (declaration : Declaration) (operations : List PlanOperation)
  (extensions : List ContractExtension)

def Config.attended : Bool := config.authorizationBranch == .human && config.executorMode == .central

def sealedStage (candidate sealed : Bool) (own risk : RiskClass) : Except Failure RiskClass :=
  if candidate then
    if sealed && config.attended then .ok own else .error (planError .authorizationDenied)
  else .ok risk

/-- The loops over single operations: one that is `marked` must pass the check. -/
def markedStage (marked : PlanOperation → Bool) (check : PlanOperation → Except Failure Unit) (own risk : RiskClass) :
    Except Failure RiskClass :=
  operations.foldlM (fun risk operation => if marked operation then (check operation).map fun _ => own else .ok risk) risk

def networkMarked (adapterID start : String) (operation : PlanOperation) : Bool :=
  operation.adapterID == adapterID || startsWith operation.operationType start

def networkCheck (reader : Option (String → Except Failure Staged))
    (adapterID kind start draft extension : String) (operation : PlanOperation) : Except Failure Unit := do
  let staged ← require reader (planError .authorizationDenied)
  ensure (operations.length == 1 && declaration.declarationType == kind && operation.adapterID == adapterID &&
    !operation.idempotent && operation.artifactDigest.length == 71 && config.attended) (planError .authorizationDenied)
  let change ← (staged (draft ++ digestID operation.artifactDigest)).mapError fun _ => planError .integrityFailure
  ensure (change.digest == operation.artifactDigest && operation.operationType == start ++ change.action &&
    operation.targetID == change.profileID && change.valid) (planError .integrityFailure)
  ensure ((lastExtension extensions extension).any (· == change.digest)) (planError .planStale)

def meshStage (risk : RiskClass) : Except Failure RiskClass :=
  markedStage operations (networkMarked "cloudflare.mesh" "network.mesh.")
    (networkCheck config declaration operations extensions config.readers.meshChanges "cloudflare.mesh" "network.mesh"
      "network.mesh." "mesh-" "x-cloudflare-mesh-change") .infrastructure risk

def ingressStage (risk : RiskClass) : Except Failure RiskClass :=
  markedStage operations (networkMarked "cloudflare.ingress" "network.ingress.")
    (networkCheck config declaration operations extensions config.readers.ingressChanges "cloudflare.ingress"
      "network.ingress" "network.ingress." "ingress-" "x-cloudflare-ingress-change") .infrastructure risk

def requestStage (risk : RiskClass) : Except Failure RiskClass := do
  let risk := if declaration.ciJob.isSome || declaration.ciEnrollment.isSome || declaration.serviceImport.isSome ||
      declaration.authorizationGrantBatch.isSome || declaration.networkEndpoint.isSome then .controlPlane else risk
  let hosted := declaration.hostingLifecycle.isSome || declaration.serviceRecovery.isSome
  let risk := if hosted then if declaration.hostingLifecycle.isSome then .controlPlane else .productionLike else risk
  ensure (!hosted || config.attended) (planError .authorizationDenied)
  ensure (!(declaration.ciJob.isSome || declaration.ciEnrollment.isSome) || config.attended)
    (planError .authorizationDenied)
  ensure (!declaration.serviceDeployment.isSome || config.attended) (planError .authorizationDenied)
  return if declaration.serviceDeployment.isSome then .productionLike else risk

def accessDraft (reader : String → Except Failure HostActionDraft) (operation : PlanOperation) :
    Except Failure HostActionDraft := do
  ensure (operation.artifactDigest.length == 71) (planError .inputInvalid)
  let draft ← reader ("host-action-" ++ digestID operation.artifactDigest)
  ensure (draft.digest == operation.artifactDigest) (planError .integrityFailure)
  return draft

/-- The checks of `debianaccess.Sequence` on one operation and its request. The
first and the last are host actions, the ones between collect or probe. -/
def accessOperation (apply : HostAction) (length : Nat) (index : Nat) (operation : PlanOperation)
    (draft : HostActionDraft) : Bool :=
  draft.valid && draft.request.actionVersion == "1.0.0" && operation.adapterID == "host-action" &&
    operation.targetID == draft.request.hostID && operation.artifactDigest == draft.requestDigest &&
    !operation.idempotent && operation.sequence == index + 1 &&
    if index == 0 || index + 1 == length then
      operation.operationType == "host.action.execute" && draft.request.hostID == apply.hostID
    else if draft.request.actionID = "debian.access.collect" then
      operation.operationType == "host.action.execute" && draft.request.hostID == apply.hostID
    else if draft.request.actionID = "debian.access.probe.local" then
      operation.operationType == "host.access.probe.local" && draft.request.hostID == apply.hostID
    else draft.request.actionID == "debian.access.probe-source" && operation.operationType == "host.action.execute"

def accessOperations (apply : HostAction) (length : Nat) : Nat → List PlanOperation → List HostActionDraft → Bool
  | _, [], [] => true
  | index, operation :: operations, draft :: drafts =>
    accessOperation apply length index operation draft && accessOperations apply length (index + 1) operations drafts
  | _, _, _ => false

/-- `debianaccess.Sequence`; what it decodes is left to the environment. -/
def debianSequence (drafts : List HostActionDraft) : Option (List String × String) :=
  match drafts with
  | [] => none
  | first :: _ =>
    if 3 ≤ operations.length && operations.length ≤ 18 && first.request.actionID == "debian.access.apply" &&
        decide (operations.map PlanOperation.operationID).Nodup &&
        accessOperations first.request operations.length 0 operations drafts then
      environment.accessInputs operations (drafts.map HostActionDraft.request)
    else none

/-- `accessSequence`, reduced to the auxiliary targets of the sequence. -/
def accessSequence : Except Failure (Option (List String)) :=
  if declaration.declarationType != "host.access" then .ok none
  else do
    let reader ← require config.readers.hostActions (planError .authorizationDenied)
    ensure config.attended (planError .authorizationDenied)
    let drafts ← operations.mapM (accessDraft reader)
    let sequence ← require (debianSequence environment operations drafts) (planError .inputInvalid)
    ensure ((lastExtension declaration.extensions "x-host-access-sequence").any (· == sequence.2)) (planError .planStale)
    return some sequence.1

def hostActionMarked (operation : PlanOperation) : Bool :=
  operation.adapterID == "host-action" || operation.operationType == "host.action.execute"

def hostActionDraft (operation : PlanOperation) : Except Failure HostActionDraft := do
  ensure (operations.length == 1 && declaration.declarationType == "host.action" &&
    operation.adapterID == "host-action" && operation.operationType == "host.action.execute" && !operation.idempotent)
    (planError .authorizationDenied)
  let reader ← require config.readers.hostActions (planError .authorizationDenied)
  ensure config.attended (planError .authorizationDenied)
  let draft ← reader declaration.declarationID
  ensure (draft.digest == operation.artifactDigest && draft.requestDigest == draft.digest &&
    draft.request.hostID == operation.targetID && draft.valid) (planError .integrityFailure)
  ensure ((lastExtension extensions "x-host-action").any (· == draft.digest)) (planError .planStale)
  return draft

/-- The loop over host actions; it is left at once for an access sequence, and a
CI job on a host is an operation of its own. -/
def hostActionStage (sequence : Bool) (risk : RiskClass) : Except Failure (RiskClass × Option HostActionDraft) :=
  if sequence then .ok (risk, none)
  else operations.foldlM (fun state operation =>
    if declaration.ciJob.isSome && operation.operationType == "ci.job.execute" && operation.adapterID == "host-action" then
      .ok (.infrastructure, state.2)
    else if hostActionMarked operation then
      (hostActionDraft config declaration operations extensions operation).map fun draft => (.infrastructure, some draft)
    else .ok state) (risk, none)

def replacementPlan : Except Failure (Option HostReplacement × Option HostAliasClaim) :=
  if !replacementPlanCandidate declaration operations then .ok (none, none)
  else
    match operations, declaration.extensions with
    | [operation], [extension] => do
      ensure (config.attended && operation.adapterID == "core.host-replacement" &&
        operation.inputDigest == operation.artifactDigest && operation.idempotent &&
        extension.valueDigest == operation.inputDigest) (planError .authorizationDenied)
      if operation.operationType = "host.alias.claim" then
        let claim ← require declaration.hostAliasClaim (planError .authorizationDenied)
        ensure (declaration.declarationType == "host.alias-claim" && operation.targetID == declaration.declarationID &&
          extension.name == "x-host-alias-claim" && environment.validators.validateAliasClaim claim &&
          claim.digest == operation.inputDigest && claim.recoveryEpoch == declaration.recoveryEpoch)
          (planError .authorizationDenied)
        return (none, some claim)
      else
        ensure (declaration.declarationType == "host.replacement" && declaration.hostAliasClaim == none &&
          extension.name == "x-host-replacement" && (operation.operationType == "host.replacement.freeze" ||
            operation.operationType == "host.replacement.commit")) (planError .authorizationDenied)
        let reader ← require config.readers.hostReplacements (planError .authorizationDenied)
        let draft ← reader operation.targetID
        ensure (draft.id == operation.targetID && draft.digest == operation.inputDigest &&
          draft.digest == draft.request.digest && environment.validators.validateInput draft.request &&
          operation.operationType == "host.replacement." ++ draft.request.operation &&
          draft.request.recoveryEpoch == declaration.recoveryEpoch) (planError .authorizationDenied)
        draft.binding
        return (some draft.request, none)
    | _, _ => .error (planError .authorizationDenied)

def replacementRisk (replacement : Option HostReplacement) (aliasClaim : Option HostAliasClaim) (risk : RiskClass) :
    RiskClass :=
  if replacement.isSome || aliasClaim.isSome then
    if replacement.any fun replacement => replacement.restorationClass == "control-database" then .controlPlane
    else .infrastructure
  else risk

def adoptionMarked (operation : PlanOperation) : Bool :=
  operation.adapterID == "core.host-adoption" || operation.operationType == "host.adopt"

def adoptionDraft (operation : PlanOperation) : Except Failure HostAdoption := do
  ensure (operations.length == 1 && declaration.declarationType == "host.adoption" &&
    operation.adapterID == "core.host-adoption" && operation.operationType == "host.adopt" &&
    operation.inputDigest == operation.artifactDigest && operation.idempotent && config.attended)
    (planError .authorizationDenied)
  let reader ← require config.readers.hostAdoptions (planError .authorizationDenied)
  let draft ← reader operation.targetID
  ensure (draft.id == operation.targetID && draft.digest == operation.inputDigest && draft.request.digest == draft.digest)
    (planError .integrityFailure)
  return draft.request

def adoptionStage (risk : RiskClass) : Except Failure (RiskClass × Option HostAdoption) :=
  operations.foldlM (fun state operation =>
    if adoptionMarked operation then
      (adoptionDraft config declaration operations operation).map fun adoption => (.controlPlane, some adoption)
    else .ok state) (risk, none)

def discoveryMarked (operation : PlanOperation) : Bool :=
  operation.adapterID == "core.host-discovery-target" || startsWith operation.operationType "host.discovery-target."

def discoveryDraft (operation : PlanOperation) : Except Failure DiscoveryDraft := do
  ensure (operations.length == 1 && declaration.declarationType == "host.discovery-target" &&
    operation.adapterID == "core.host-discovery-target" &&
    (operation.operationType == "host.discovery-target.activate" ||
      operation.operationType == "host.discovery-target.revoke") &&
    operation.inputDigest == operation.artifactDigest && config.attended) (planError .authorizationDenied)
  let reader ← require config.readers.hostDiscoveryTargets (planError .prerequisiteBlocked)
  let draft ← reader operation.targetID
  ensure (draft.id == operation.targetID && draft.digest == operation.inputDigest && draft.request.digest == draft.digest &&
    draft.confirmed && operation.operationType == "host.discovery-target." ++ draft.request.action)
    (planError .integrityFailure)
  return draft

def discoveryStage (risk : RiskClass) : Except Failure (RiskClass × Option HostDiscoveryTarget) :=
  operations.foldlM (fun state operation =>
    if discoveryMarked operation then
      (discoveryDraft config declaration operations operation).map fun draft =>
        (.controlPlane, if draft.credentialMode then some draft.request else state.2)
    else .ok state) (risk, none)

end Stages

/-! ### The classification as a whole -/

structure Classified where
  risk : RiskClass
  sequence : Option (List String)
  action : Option HostActionDraft
  replacement : Option HostReplacement
  aliasClaim : Option HostAliasClaim
  adoption : Option HostAdoption
  discovery : Option HostDiscoveryTarget

def classify (config : Config) (environment : Environment) (declaration : Declaration) (operations : List PlanOperation)
    (extensions : List ContractExtension) : Except Failure Classified := do
  let risk ← sealedStage config (controllerSetupPlanCandidate declaration operations)
    (sealedSingleControllerSetup declaration operations) .controlPlane config.risk
  let risk ← meshStage config declaration operations extensions risk
  let risk ← ingressStage config declaration operations extensions risk
  let risk ← sealedStage config (declaration.declarationType == "ci.artifact.publish")
    (validCIPublicationDeclaration declaration) .controlPlane risk
  let risk ← requestStage config declaration risk
  let sequence ← accessSequence config environment declaration operations
  let acted ← hostActionStage config declaration operations extensions sequence.isSome
    (if sequence.isSome then .infrastructure else risk)
  let (replacement, aliasClaim) ← replacementPlan config environment declaration operations
  let adopted ← adoptionStage config declaration operations (replacementRisk replacement aliasClaim acted.1)
  let discovered ← discoveryStage config declaration operations adopted.1
  let risk ← sealedStage config (notificationReadinessCandidate declaration operations)
    (sealedNotificationReadiness declaration operations) .controlPlane discovered.1
  let risk ← sealedStage config (credentialLifecyclePlanCandidate declaration operations)
    (sealedSingleCredentialLifecycle declaration operations) .controlPlane risk
  let risk ← sealedStage config (localRetentionPlanCandidate declaration operations)
    (sealedSingleLocalRetention declaration operations) .destructive risk
  let risk ← sealedStage config (offsiteRetirementPlanCandidate declaration operations)
    (sealedSingleOffsiteRetirement declaration operations) .destructive risk
  let risk ← sealedStage config (offsitePlanCandidate declaration operations)
    (sealedSingleOffsiteCopy declaration operations) .infrastructure risk
  return ⟨risk, sequence, acted.2, replacement, aliasClaim, adopted.2, discovered.2⟩

/-! ### Create -/

def byName (first second : ContractExtension) : Prop := first.name ≤ second.name

instance : DecidableRel byName := fun _ _ => inferInstanceAs (Decidable (_ ≤ _))

def bySequence (first second : DeclarationOperation) : Prop := first.sequence ≤ second.sequence

instance : DecidableRel bySequence := fun _ _ => inferInstanceAs (Decidable (_ ≤ _))

def credentialBindingExtensionsEqual (left right : List ContractExtension) : Bool :=
  ["x-host-replacement", "x-host-alias-claim", "x-cloudflare-ingress-change", "x-cloudflare-mesh-change",
    "x-credential-bindings", "x-credential-lifecycle", "x-audit-checkpoint", "x-backup-policy",
    "x-backup-retention-lock-catalog", "x-backup-local-retirement", "x-offsite-generation"].all fun name =>
    (lastExtension left name).getD "" == (lastExtension right name).getD ""

def DeclarationOperation.planned (executorID : String) (operation : DeclarationOperation) : PlanOperation :=
  ⟨operation.sequence, operation.operationID, operation.operationType, operation.adapterID, executorID,
    operation.targetID, operation.inputDigest, operation.artifactDigest, operation.idempotent⟩

def planOperations (executorID : String) : Int → List DeclarationOperation → Except Failure (List PlanOperation)
  | _, [] => .ok []
  | index, operation :: rest =>
    if operation.sequence != index + 1 then .error (planError .inputInvalid)
    else (planOperations executorID (index + 1) rest).map fun operations => operation.planned executorID :: operations

def lifecyclePresented (config : Config) (declaration : Declaration) (operations : List PlanOperation) :
    Except Failure Unit :=
  match config.readers.hostActionCredentials, operations with
  | some reader, [operation] =>
    if operation.operationType = "credential.activate" || operation.operationType = "credential.rotate" then do
      let lifecycle ← reader declaration.declarationID declaration.revision operation.operationID
      ensure (!lifecycle.hostActionConsole || lifecycle.nativeConsumers == 1) (planError .prerequisiteBlocked)
    else .ok ()
  | _, _ => .ok ()

def actionScopes : Option HostActionDraft → Except Failure (Option HostBaselineScope × Bool)
  | none => .ok (none, false)
  | some draft => do
    let baseline ← require draft.baselineScope (planError .inputInvalid)
    let role ← require draft.roleScope (planError .inputInvalid)
    return (baseline, role)

def planValiditySeconds : Int := 1800

def draftPlan (config : Config) (declaration : Declaration) (classified : Classified)
    (scopes : Option HostBaselineScope × Bool) (operations : List PlanOperation) (extensions : List ContractExtension)
    (current : Int × Int) (created : Time) : Authorization.Plan :=
  { planID := "", planDigest := "", binding := ⟨current.2, current.1 + 1, config.policyVersion⟩, operations,
    status := .planned, authorizationBranch := config.authorizationBranch, executorMode := config.executorMode,
    executorID := config.executorID, expiresAt := created + planValiditySeconds,
    requests :=
      { hostingLifecycle := declaration.hostingLifecycle.isSome, serviceRecovery := declaration.serviceRecovery.isSome,
        serviceDeployment := declaration.serviceDeployment.isSome, ciJob := declaration.ciJob.isSome,
        ciEnrollment := declaration.ciEnrollment.isSome, serviceImport := declaration.serviceImport.isSome,
        hostRoleScope := scopes.2, hostAccessSequence := classified.sequence.isSome,
        hostAction := classified.action.isSome },
    extensions, declarationID := declaration.declarationID, risk := classified.risk, hostBaselineScope := scopes.1,
    auxiliaryTargets := classified.sequence.getD [], hostDiscoveryTarget := classified.discovery,
    hostAdoption := classified.adoption, hostReplacement := classified.replacement,
    hostAliasClaim := classified.aliasClaim, hostAction := classified.action.map HostActionDraft.request }

def signPlan (environment : Environment) (plan : Authorization.Plan) : Except Failure Authorization.Plan := do
  let digest ← require (environment.planDigest plan) (planError .inputInvalid)
  return { plan with planDigest := digest, planID := "plan-" ++ digestID digest }

def exactPlan (environment : Environment) (plan : Authorization.Plan) : Bool :=
  !plan.operations.isEmpty && plan.operations.length ≤ 256 && environment.contract plan

def companionPlan (parent : Authorization.Plan) (policy : DeploymentPolicy) : Authorization.Plan :=
  { parent with
    planID := "", planDigest := "", requests := { parent.requests with ciJob := false }, executorMode := .external,
    executorID := some policy.executorID, risk := .productionLike, authorizationBranch := .human,
    operations := [⟨1, "external-deployment", "application.deploy.production-like", "hosting.coolify.external",
      policy.executorID, policy.serviceID, policy.inputDigest, policy.artifactDigest, false⟩],
    extensions := (parent.extensions ++ policy.extensions parent.planDigest).insertionSort byName }

/-- `ensureCICompanion` for the job of the declaration. -/
def ensureCICompanion (environment : Environment) (job : Option CIJobRequest) (parent : Authorization.Plan) :
    Except Failure (Option Authorization.Plan) :=
  match job with
  | none => .ok none
  | some job =>
    if job.deploymentDigest = "" then .ok none
    else do
      let policy ← environment.deploymentPolicy job.executionBindingID
      ensure (policy.bindingID != "" && policy.digest == job.deploymentDigest) (planError .planStale)
      let companion ← signPlan environment (companionPlan parent policy)
      environment.commitCompanion companion
      return some companion

def Declaration.desired (declaration : Declaration) (operations : List DeclarationOperation) (current : Int × Int) :
    Declaration :=
  { declaration with
    revision := declaration.revision + 1, stateRevision := current.1 + 1, status := .committed, operations }

/-- `CommitDeclarationAndPlan`: the content is checked again, and the rest of the
transaction is the environment's. -/
def commitDeclarationAndPlan (environment : Environment) (plan : Authorization.Plan) (desired : Declaration) (reason : String) :
    Except Failure Unit := do
  ensure (validDeclarationContent desired environment.validators environment.authorizationDigest reason)
    (.coded .inputInvalid "desired-declaration")
  environment.commit plan desired

inductive Outcome where
  | replayed (plan : Authorization.Plan) (companion : Option Authorization.Plan)
  | created (plan : Authorization.Plan) (companion : Option Authorization.Plan)

def currentDeclaration (environment : Environment) (request : PlanCreateRequest) (extensions : List ContractExtension) :
    Except Failure Declaration := do
  let declaration ← environment.declaration request.declarationID request.declarationRevision
  ensure (!maintenanceRecordOnly declaration) (planError .prerequisiteBlocked)
  ensure (declaration.status == .draft && declaration.declarationID == request.declarationID &&
    declaration.revision == request.declarationRevision) (planError .stateConflict)
  ensure (credentialBindingExtensionsEqual declaration.extensions extensions) (planError .inputInvalid)
  return declaration

/-- The part of `Create` after the declaration is read. -/
def createPlan (config : Config) (environment : Environment) (request : PlanCreateRequest)
    (extensions : List ContractExtension) (declaration : Declaration) : Except Failure Outcome := do
  let reason ← environment.reason request.declarationID request.declarationRevision
  let current ← environment.current
  ensure (current == (request.expectedStateRevision, request.recoveryEpoch) &&
    declaration.recoveryEpoch == request.recoveryEpoch) (planError .stateConflict)
  let fingerprint ← environment.fingerprint declaration.declarationID declaration.operations
  ensure (fingerprint == request.observationFingerprint && fingerprint != "") (planError .stateConflict)
  let ordered := declaration.operations.insertionSort bySequence
  ensure (validateGateOperations ordered (config.executorMode == .central)) (planError .inputInvalid)
  ensure (!ordered.any gateOperation || config.authorizationBranch == .human) (planError .authorizationDenied)
  let operations ← planOperations config.operationExecutorID 0 ordered
  let classified ← classify config environment declaration operations extensions
  lifecyclePresented config declaration operations
  let scopes ← actionScopes classified.action
  let plan ← signPlan environment
    (draftPlan config declaration classified scopes operations extensions current environment.clock)
  ensure (exactPlan environment plan) (planError .inputInvalid)
  commitDeclarationAndPlan environment plan (declaration.desired ordered current) reason
  let companion ← ensureCICompanion environment declaration.ciJob plan
  return .created plan companion

def create (config : Config) (environment : Environment) (author : AuthorScope) (request : PlanCreateRequest) :
    Except Failure Outcome := do
  ensure (author.principalID != "" && author.principalMethod != "" && request.exactContract) (planError .inputInvalid)
  let extensions := request.extensions.insertionSort byName
  ensure (decide (extensions.map ContractExtension.name).Nodup) (planError .inputInvalid)
  match ← environment.existing request with
  | some (plan, job) =>
    let companion ← ensureCICompanion environment job plan
    return .replayed plan companion
  | none =>
    let declaration ← currentDeclaration environment request extensions
    createPlan config environment request extensions declaration

end VskLabs.Planning

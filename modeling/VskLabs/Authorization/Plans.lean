import VskLabs.Contracts.Validation

/-! Plans as the authorization package reads them: the closed risk table and the
targets a plan names. -/

namespace VskLabs.Authorization

inductive RiskClass where
  | routine | productionLike | infrastructure | destructive | controlPlane
  deriving DecidableEq

/-- `riskRank`. -/
def RiskClass.rank : RiskClass → Nat
  | .routine => 1
  | .productionLike => 2
  | .infrastructure => 3
  | .destructive => 4
  | .controlPlane => 5

def operationRisk : List (String × RiskClass) :=
  [("operations.notification-readiness.test", .controlPlane), ("artifact.publish.manual", .controlPlane),
    ("ci.artifact.publish", .controlPlane), ("hosting.lifecycle.apply", .controlPlane),
    ("service.recover", .productionLike), ("network.ingress.bootstrap-tunnel", .infrastructure),
    ("network.ingress.bootstrap-group", .infrastructure), ("network.ingress.bootstrap-app", .infrastructure),
    ("network.ingress.bootstrap-policy", .infrastructure), ("network.ingress.bootstrap-seed", .infrastructure),
    ("network.ingress.bootstrap-cutover", .infrastructure), ("controller.setup.bootstrap", .controlPlane),
    ("network.ingress.import", .infrastructure), ("network.ingress.tunnel-config-update", .infrastructure),
    ("network.ingress.access-policy-update", .infrastructure),
    ("network.ingress.dns-record-update", .infrastructure),
    ("network.ingress.connector-disconnect", .infrastructure), ("network.ingress.token-rotate", .infrastructure),
    ("network.mesh.import", .infrastructure), ("network.mesh.profile-routing-update", .infrastructure),
    ("network.mesh.gateway-rule-update", .infrastructure), ("network.mesh.registration-delete", .infrastructure),
    ("gate.profile.bind", .destructive), ("gate.evidence.apply", .destructive),
    ("gate.evidence.supersede", .destructive), ("gate.evidence.revoke", .destructive),
    ("host.alias.claim", .infrastructure), ("host.replacement.freeze", .infrastructure),
    ("host.replacement.commit", .infrastructure), ("host.access.probe.local", .infrastructure),
    ("host.action.execute", .infrastructure), ("host.adopt", .controlPlane),
    ("host.discovery-target.activate", .controlPlane), ("host.discovery-target.revoke", .controlPlane),
    ("application.deploy.low-risk", .routine), ("application.deploy.production-like", .productionLike),
    ("audit.checkpoint", .routine), ("audit.checkpoint.anchor", .routine), ("backup.snapshot", .routine),
    ("backup.verify", .routine), ("backup.local.create", .routine), ("backup.local.verify", .routine),
    ("backup.offsite.copy", .infrastructure), ("drift.scan", .routine), ("health.check", .routine),
    ("schedule.gate.check", .routine), ("schedule.observation.refresh", .routine), ("node.add", .infrastructure),
    ("node.remove", .infrastructure), ("shell.grant", .infrastructure), ("shell.revoke", .infrastructure),
    ("public-exposure.change", .infrastructure), ("backup-policy.change", .infrastructure),
    ("backup.restore", .destructive), ("resource.delete", .destructive), ("backup.retention.change", .destructive),
    ("backup.retention-locks.activate", .destructive), ("backup.local.retire", .destructive),
    ("backup.retire.offsite", .destructive), ("network.change", .controlPlane), ("service.deploy", .productionLike),
    ("ci.job.execute", .infrastructure), ("ci.enrollment.register", .controlPlane),
    ("service.import", .controlPlane), ("network.endpoint.change", .controlPlane),
    ("identity.change", .controlPlane), ("secret-provider.change", .controlPlane),
    ("control-plane.change", .controlPlane), ("control-plane.recover", .controlPlane),
    ("recovery.restore.cutover", .controlPlane), ("recovery.canary.noop", .controlPlane),
    ("credential.stage", .controlPlane), ("credential.activate", .controlPlane),
    ("credential.rotate", .controlPlane), ("credential.revoke", .controlPlane),
    ("credential.recover", .controlPlane), ("schedule.policy.activate", .controlPlane)]

structure HostBaselineScope where
  (subjectHostID executionHostID : String)

structure HostDiscoveryTarget where
  (digest action targetID : String)
  recoveryEpoch : Int

structure HostAdoption where
  (digest hostID : String)
  recoveryEpoch : Int

structure HostReplacement where
  (digest operation oldHostID newHostID : String)
  recoveryEpoch : Int
  restorationClass : String

structure HostAliasClaim where
  (digest hostID : String)
  aliasIDs : List String
  (expectedStateRevision recoveryEpoch : Int)
  deriving DecidableEq

/-- `ControlRecoveryReceiveInput`, decoded from canonical bytes that match the
action's digest. -/
structure RecoveryReceive where
  (oldHostID newHostID formerHostID replacementHostID : String)

structure HostAction where
  (actionID actionVersion hostID : String)
  receive : Option RecoveryReceive

/-- `generated.Plan` with the fields that authorization reads beside those of
the run engine. -/
structure Plan extends VskLabs.Plan where
  declarationID : String
  risk : RiskClass
  hostBaselineScope : Option HostBaselineScope
  auxiliaryTargets : List String
  hostDiscoveryTarget : Option HostDiscoveryTarget
  hostAdoption : Option HostAdoption
  hostReplacement : Option HostReplacement
  hostAliasClaim : Option HostAliasClaim
  hostAction : Option HostAction

def Plan.operationRisk (plan : Plan) (operation : PlanOperation) : Option RiskClass :=
  (Authorization.operationRisk.lookup operation.operationType).map fun risk =>
    if (operation.operationType == "host.replacement.freeze" || operation.operationType == "host.replacement.commit") &&
        plan.hostReplacement.any fun replacement => replacement.restorationClass == "control-database" then
      .controlPlane
    else risk

def RiskClass.max (first second : RiskClass) : RiskClass := if first.rank < second.rank then second else first

/-- The loop of `ClassifyPlan` over the operations in sequence order. -/
def classifyFrom (plan : Plan) (index : Int) (result : RiskClass) : List PlanOperation → Option RiskClass
  | [] => some result
  | operation :: rest =>
    if operation.sequence != index + 1 then none
    else (plan.operationRisk operation).bind fun risk => classifyFrom plan (index + 1) (result.max risk) rest

def bySequence (first second : PlanOperation) : Prop := first.sequence ≤ second.sequence

instance : DecidableRel bySequence := fun _ _ => inferInstanceAs (Decidable (_ ≤ _))

def classifyPlan (plan : Plan) : Option RiskClass :=
  if plan.operations.isEmpty || 256 < plan.operations.length then none
  else (classifyFrom plan 0 .routine (plan.operations.insertionSort bySequence)).filter fun risk => plan.risk == risk

def preauthorizedOperation (operation : String) : Bool :=
  ["application.deploy.low-risk", "audit.checkpoint", "audit.checkpoint.anchor", "backup.snapshot", "backup.verify",
    "backup.local.create", "backup.local.verify", "drift.scan", "health.check", "schedule.gate.check",
    "schedule.observation.refresh"].contains operation

structure Validators where
  validateInput : HostReplacement → Bool
  validateAliasClaim : HostAliasClaim → Bool

/-- `digest[7:39]`. -/
def digestID (digest : String) : String := String.ofList ((digest.toList.drop 7).take 32)

def exactOperation (plan : Plan) (operation : PlanOperation) (id digest adapter kind : String) : Bool :=
  plan.declarationID == id && operation.targetID == id && operation.inputDigest == digest &&
    operation.artifactDigest == digest && operation.adapterID == adapter && operation.operationType == kind

section Targets

variable (validators : Validators) (plan : Plan) (operation : PlanOperation)

def discoveryIDs : Option (List String) := do
  let target ← plan.hostDiscoveryTarget
  if exactOperation plan operation ("discovery-draft-" ++ digestID target.digest) target.digest "core.host-discovery-target"
      ("host.discovery-target." ++ target.action) && target.recoveryEpoch == plan.binding.recoveryEpoch &&
      validRunToken target.targetID then
    some [target.targetID]
  else none

def adoptionIDs : Option (List String) := do
  let adoption ← plan.hostAdoption
  if exactOperation plan operation ("host-adoption-" ++ digestID adoption.digest) adoption.digest "core.host-adoption"
      "host.adopt" && adoption.recoveryEpoch == plan.binding.recoveryEpoch && validRunToken adoption.hostID then
    some [adoption.hostID]
  else none

def replacementIDs : Option (List String) := do
  let replacement ← plan.hostReplacement
  let kind := if replacement.operation = "commit" then "host.replacement.commit" else "host.replacement.freeze"
  if exactOperation plan operation ("host-replacement-" ++ digestID replacement.digest) replacement.digest
      "core.host-replacement" kind && validators.validateInput replacement &&
      replacement.recoveryEpoch == plan.binding.recoveryEpoch then
    some [replacement.oldHostID, replacement.newHostID]
  else none

def aliasClaimIDs : Option (List String) := do
  let claim ← plan.hostAliasClaim
  if exactOperation plan operation plan.declarationID claim.digest "core.host-replacement" "host.alias.claim" &&
      validators.validateAliasClaim claim && claim.recoveryEpoch == plan.binding.recoveryEpoch then
    some (claim.hostID :: claim.aliasIDs)
  else none

/-- `ExecutionResourceIDs`: the first request the single operation carries out
exactly names the resources, otherwise the operation's own target does. -/
def executionResourceIDs : List String :=
  if plan.authorizationBranch != .human || plan.executorMode != .central || plan.operations != [operation] then
    [operation.targetID]
  else
    ((discoveryIDs plan operation).or <| (adoptionIDs plan operation).or <|
      (replacementIDs validators plan operation).or (aliasClaimIDs validators plan operation)).getD [operation.targetID]

end Targets

def firstExecutionTarget (validators : Validators) (plan : Plan) (id : String) : Bool :=
  match plan.operations with
  | [] => false
  | operation :: _ => (executionResourceIDs validators plan operation).contains id

def receiveSource (plan : Plan) (targetID : String) : Bool :=
  plan.hostAction.any fun action => action.actionID == "debian.control.recovery-receive" && action.actionVersion == "1.0.0" &&
    action.receive.any (fun receive => receive.oldHostID != "" && receive.oldHostID != receive.newHostID &&
      receive.formerHostID == receive.oldHostID && receive.replacementHostID == receive.newHostID &&
      action.hostID == receive.newHostID && targetID == receive.oldHostID) &&
    plan.operations.any fun operation => operation.operationType == "host.action.execute" && operation.targetID == action.hostID

def planContainsTarget (validators : Validators) (plan : Plan) (targetID : String) : Bool :=
  receiveSource plan targetID ||
    (plan.hostBaselineScope.any fun scope => scope.subjectHostID == targetID || scope.executionHostID == targetID) ||
    plan.auxiliaryTargets.contains targetID ||
    plan.operations.any fun operation =>
      (executionResourceIDs validators plan operation).contains targetID || operation.targetID == targetID

end VskLabs.Authorization

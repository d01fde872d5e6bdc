import VskLabs.Authorization.Plans
import Mathlib.Data.String.Basic

/-! The effective policy: grants, the snapshot the store takes of them, and the
decision `Authorize` makes from one snapshot. -/

namespace VskLabs.Authorization

inductive Operation where
  | read | author | acknowledge | execute
  deriving DecidableEq

inductive Role where
  | reader | author | maintainer | infrastructureAdmin | controlPlaneAdmin | preauthorizedExecutor
  deriving DecidableEq

/-- The texts of the `role_id` and `action` columns. -/
def Role.id : Role → String
  | .reader => "reader"
  | .author => "author"
  | .maintainer => "maintainer"
  | .infrastructureAdmin => "infrastructure-admin"
  | .controlPlaneAdmin => "control-plane-admin"
  | .preauthorizedExecutor => "preauthorized-executor"

def Operation.id : Operation → String
  | .read => "read"
  | .author => "author"
  | .acknowledge => "acknowledge"
  | .execute => "execute"

structure Target where
  (capability resourceKind resourceID : String)
  deriving DecidableEq

def Target.valid (target : Target) : Bool :=
  [target.capability, target.resourceKind, target.resourceID].all validRunToken

/-- `EffectiveGrant`; a grant without a branch has the empty text in the source. -/
structure Grant where
  role : Role
  action : Operation
  target : Target
  branch : Option AuthorizationBranch

/-- `validEffectiveGrant`. -/
def Grant.valid (grant : Grant) : Bool :=
  grant.target.valid &&
    match grant.action with
    | .read | .author => grant.branch == none && grant.role != .preauthorizedExecutor
    | .acknowledge | .execute =>
      match grant.branch with
      | none => false
      | some branch =>
        if grant.role = .preauthorizedExecutor then grant.action == .execute && branch == .preauthorized
        else branch != .preauthorized

/-- `EffectivePolicySnapshot`. -/
structure Snapshot where
  principalID : String
  principalKind : PrincipalKind
  active : Bool
  (grantRevision stateRevision recoveryEpoch : Int)
  grants : List Grant

structure RevisionBinding where
  (grantRevision stateRevision recoveryEpoch : Int)

structure Request where
  action : Operation
  target : Target
  plan : Option Plan
  branches : List AuthorizationBranch
  expected : Option RevisionBinding
  recoveryContinuation : Bool

inductive Reason where
  | allowed | authenticationRequired | policyUnavailable | policyInactive | grantRevisionStale | stateRevisionStale
  | recoveryEpochMismatch | grantMissing | roleInsufficient | agentCannotAcknowledge | authorizationBranch | riskUnknown
  | preauthorizationDenied | targetMismatch
  deriving DecidableEq

/-- `EffectiveScope`; its digest stands for these values. -/
structure EffectiveScope where
  principalID : String
  action : Operation
  target : Target
  role : Role
  (grantRevision stateRevision recoveryEpoch : Int)

structure Decision where
  principalID : String
  action : Operation
  target : Target
  allowed : Bool
  branch : Option AuthorizationBranch
  reason : Reason
  (grantRevision stateRevision recoveryEpoch : Int)
  planDigest : String
  risk : Option RiskClass
  scope : Option EffectiveScope

def requestedBranch (request : Request) (principal : Principal) : Except Reason (Option AuthorizationBranch) :=
  match request.action with
  | .read | .author => if request.branches.isEmpty then .ok none else .error .authorizationBranch
  | .acknowledge | .execute =>
    match request.branches with
    | [branch] =>
      if (request.plan.map fun plan => plan.authorizationBranch) != some branch then .error .authorizationBranch
      else if branch = .human && effectivePrincipalKind principal == .policy then .error .authorizationBranch
      else .ok (some branch)
    | _ => .error .authorizationBranch

def validRecoveryContinuation (request : Request) (snapshot : Snapshot) : Bool :=
  request.recoveryContinuation && request.action == .execute &&
    (request.expected.any fun expected =>
      expected.stateRevision == snapshot.stateRevision && expected.recoveryEpoch == snapshot.recoveryEpoch) &&
    request.plan.any fun plan => plan.risk == .controlPlane && plan.authorizationBranch == .human &&
      plan.binding.recoveryEpoch < 9223372036854775807 && plan.binding.recoveryEpoch + 1 == snapshot.recoveryEpoch &&
      match plan.operations with
      | [operation] => operation.operationType == "recovery.restore.cutover" && operation.adapterID == "core.recovery" &&
          operation.targetID == request.target.resourceID
      | _ => false

def validPreauthorized (validators : Validators) (principal : Principal) (request : Request) (risk : RiskClass) : Bool :=
  effectivePrincipalKind principal == .policy && risk == .routine &&
    request.plan.any fun plan =>
      (plan.operations.all fun operation =>
        preauthorizedOperation operation.operationType && operation.targetID == request.target.resourceID) &&
      planContainsTarget validators plan request.target.resourceID

def Grant.matches (grant : Grant) (request : Request) (branch : Option AuthorizationBranch) : Bool :=
  grant.valid && grant.action == request.action && grant.target == request.target && grant.branch == branch

def matchingGrant (grants : List Grant) (request : Request) (branch : Option AuthorizationBranch) : Option Grant × Bool :=
  match grants.find? fun grant => grant.matches request branch with
  | some grant => (some grant, false)
  | none => (none, grants.any fun grant => grant.valid && grant.action == request.action &&
      grant.target.capability == request.target.capability && grant.target.resourceKind == request.target.resourceKind &&
      grant.target.resourceID != request.target.resourceID)

def roleAllows (role : Role) (action : Operation) (risk : RiskClass) : Bool :=
  match role with
  | .reader => action == .read
  | .author => action == .read || action == .author
  | .maintainer => action == .read || action == .author ||
      ((action == .acknowledge || action == .execute) && (risk == .routine || risk == .productionLike))
  | .infrastructureAdmin => risk != .controlPlane
  | .controlPlaneAdmin => true
  | .preauthorizedExecutor => action == .execute && risk == .routine

def bindEffectiveScope (snapshot : Snapshot) (grant : Grant) (target : Target) : Option EffectiveScope :=
  if !snapshot.active || snapshot.grantRevision ≤ 0 || snapshot.stateRevision < 0 || snapshot.recoveryEpoch < 0 ||
      !validRunToken snapshot.principalID || !grant.valid || !target.valid || grant.target != target then
    none
  else some ⟨snapshot.principalID, grant.action, target, grant.role, snapshot.grantRevision, snapshot.stateRevision,
    snapshot.recoveryEpoch⟩

def currentBinding (request : Request) (snapshot : Snapshot) : Except Reason Unit :=
  match request.expected with
  | none => .ok ()
  | some expected =>
    if expected.grantRevision != snapshot.grantRevision &&
        !(request.recoveryContinuation && expected.grantRevision == 0) then .error .grantRevisionStale
    else if expected.recoveryEpoch != snapshot.recoveryEpoch then .error .recoveryEpochMismatch
    else if expected.stateRevision != snapshot.stateRevision then .error .stateRevisionStale
    else .ok ()

structure Refusal where
  reason : Reason
  risk : Option RiskClass := none

/-- The class of the plan an acknowledgement or an execution is about. Reading
and authoring have none, and their roles are tested against routine risk. -/
def classifiedRisk (request : Request) (snapshot : Snapshot) : Except Refusal (Option RiskClass) :=
  match request.action with
  | .read | .author => .ok none
  | .acknowledge | .execute =>
    match request.plan with
    | none => .error { reason := .riskUnknown }
    | some plan =>
      match classifyPlan plan with
      | none => .error { reason := .riskUnknown }
      | some risk =>
        let continuation := validRecoveryContinuation request snapshot
        if plan.binding.recoveryEpoch != snapshot.recoveryEpoch && !continuation then
          .error ⟨.recoveryEpochMismatch, some risk⟩
        else if plan.binding.stateRevision != snapshot.stateRevision && !continuation then
          .error ⟨.stateRevisionStale, some risk⟩
        else .ok (some risk)

/-- Everything `Authorize` checks between the snapshot and its grants. -/
def screen (validators : Validators) (snapshot : Snapshot) (principal : Principal) (request : Request) :
    Except Refusal (Option AuthorizationBranch × Option RiskClass) :=
  if snapshot.principalID != principal.id || snapshot.principalKind != effectivePrincipalKind principal ||
      !snapshot.active || snapshot.grantRevision ≤ 0 then .error { reason := .policyInactive }
  else
    match currentBinding request snapshot with
    | .error reason => .error { reason }
    | .ok () =>
      match requestedBranch request principal with
      | .error reason => .error { reason }
      | .ok branch =>
        match classifiedRisk request snapshot with
        | .error refusal => .error refusal
        | .ok risk =>
          if request.action = .acknowledge && effectivePrincipalKind principal != .human then
            .error ⟨.agentCannotAcknowledge, risk⟩
          else if branch = some .preauthorized &&
              !validPreauthorized validators principal request (risk.getD .routine) then
            .error ⟨.preauthorizationDenied, risk⟩
          else if request.plan.any fun plan => !planContainsTarget validators plan request.target.resourceID then
            .error ⟨.targetMismatch, risk⟩
          else .ok (branch, risk)

/-- The grant part of `Authorize`: take the first match, then test its role. -/
def decideGrant (snapshot : Snapshot) (request : Request) (branch : Option AuthorizationBranch) (risk : RiskClass) :
    Except Reason EffectiveScope :=
  match matchingGrant snapshot.grants request branch with
  | (none, mismatch) => .error (if mismatch then .targetMismatch else .grantMissing)
  | (some grant, _) =>
    if !roleAllows grant.role request.action risk then .error .roleInsufficient
    else
      match bindEffectiveScope snapshot grant request.target with
      | none => .error .policyUnavailable
      | some scope => .ok scope

/-- `Authorize` for the snapshot the repository returns; no snapshot is the
repository's error. -/
def authorize (validators : Validators) (snapshot : Option Snapshot) (principal : Principal) (request : Request) : Decision :=
  let planDigest := (request.plan.map fun plan => plan.planDigest).getD ""
  let denied (refusal : Refusal) (revisions : RevisionBinding) : Decision :=
    ⟨principal.id, request.action, request.target, false, none, refusal.reason, revisions.grantRevision,
      revisions.stateRevision, revisions.recoveryEpoch, planDigest, refusal.risk, none⟩
  if !validPrincipal principal || !request.target.valid then denied { reason := .authenticationRequired } ⟨0, 0, 0⟩
  else
    match snapshot with
    | none => denied { reason := .policyUnavailable } ⟨0, 0, 0⟩
    | some snapshot =>
      let revisions : RevisionBinding := ⟨snapshot.grantRevision, snapshot.stateRevision, snapshot.recoveryEpoch⟩
      match screen validators snapshot principal request with
      | .error refusal => denied refusal revisions
      | .ok (branch, risk) =>
        match decideGrant snapshot request branch (risk.getD .routine) with
        | .error reason => denied ⟨reason, risk⟩ revisions
        | .ok scope => ⟨principal.id, request.action, request.target, true, branch, .allowed, revisions.grantRevision,
            revisions.stateRevision, revisions.recoveryEpoch, planDigest, risk, some scope⟩

/-! ### The snapshot of the store -/

/-- A row of `effective_authorization_grants`. -/
structure GrantRow where
  (grantID principalID : String)
  grant : Grant
  grantRevision : Int
  active : Bool

/-- `ORDER BY role_id,action,grant_id`. -/
def listedBefore (first second : GrantRow) : Prop :=
  first.grant.role.id < second.grant.role.id ∨ first.grant.role.id = second.grant.role.id ∧
    (first.grant.action.id < second.grant.action.id ∨ first.grant.action.id = second.grant.action.id ∧
      first.grantID ≤ second.grantID)

instance : DecidableRel listedBefore := fun _ _ => inferInstanceAs (Decidable (_ ∨ _ ∧ (_ ∨ _ ∧ _)))

def GrantRow.current (row : GrantRow) (principalID : String) (target : Target) (grantRevision : Int) : Bool :=
  row.principalID == principalID && row.grant.target == target && row.active && row.grantRevision == grantRevision

/-- The grants of `EffectiveAuthorizationRepository.Snapshot`. -/
def snapshotGrants (rows : List GrantRow) (principalID : String) (target : Target) (grantRevision : Int) : List Grant :=
  ((rows.filter fun row => row.current principalID target grantRevision).insertionSort listedBefore).map GrantRow.grant

end VskLabs.Authorization

import VskLabs.Authorization.Policy
import VskLabs.Library.Outcome
import Mathlib.Data.List.Dedup

/-! The projections of a plan onto targets: what a human acknowledges, what submitting
a run asks to execute, what the policy accepts as the plan's, and the hosts a host
action is carried out on. -/

namespace VskLabs.Authorization
open Library

section Projections

variable (validators : Validators) (plan : Plan)

def baselineHosts : List String :=
  plan.hostBaselineScope.toList.flatMap fun scope => [scope.subjectHostID, scope.executionHostID]

/-- The keys of the map in `uniqueTargets`, in the order they are written. -/
def namedTargets : List String :=
  baselineHosts plan ++ plan.auxiliaryTargets ++ plan.operations.flatMap (executionResourceIDs validators plan)

def uniqueTargets : List String := (namedTargets validators plan).dedup.insertionSort fun first second => first ≤ second

/-- What `validCurrentHumanPlan` asks about one target. -/
def acknowledgementRequest (targetID : String) : Request :=
  ⟨.acknowledge, ⟨"plan.acknowledge", "plan-target", targetID⟩, some plan, [.human], none, false⟩

/-- The subject of a baseline is asked for as one more host action, an operation
whose other fields are zero. -/
def baselineOperation (scope : HostBaselineScope) : PlanOperation :=
  ⟨0, "", "host.action.execute", "", "", scope.subjectHostID, "", "", false⟩

def projectedOperations : List PlanOperation :=
  (plan.operations ++ plan.hostBaselineScope.toList.map baselineOperation).flatMap fun operation =>
    (executionResourceIDs validators plan operation).map fun id => { operation with targetID := id }

def operationKey (operation : PlanOperation) : String := operation.operationType ++ "\x00" ++ operation.targetID

def unseenOperations (seen : List String) : List PlanOperation → List PlanOperation
  | [] => []
  | operation :: rest =>
    if seen.contains (operationKey operation) then unseenOperations seen rest
    else operation :: unseenOperations (operationKey operation :: seen) rest

def executionRequest (operation : PlanOperation) : Request :=
  ⟨.execute, ⟨operation.operationType, "execution-target", operation.targetID⟩, some plan, [plan.authorizationBranch], none,
    false⟩

/-- Every request that `authorizeRunPlan` makes when none is refused. -/
def runRequests : List Request :=
  (unseenOperations [] (projectedOperations validators plan)).map (executionRequest plan)

end Projections

/-- `authorizeRunPlan` over the caller's authorizer: the first refusal ends it,
and the first decision is its result. -/
def authorizeRunPlan {ε δ : Type} (validators : Validators) (inputInvalid : ε) (ask : Request → Except ε δ) (plan : Plan) :
    Except ε (Option δ) :=
  if plan.operations.isEmpty then .error inputInvalid
  else do
    let decisions ← (runRequests validators plan).mapM ask
    return decisions.head?

/-! ### The hosts of a host action -/

def recoveryReceiveAction : String := "debian.control.recovery-receive"

/-- The hosts of `authorizeRecoveryReceiveScope`. The effect suspends the old one. -/
def HostAction.receiveHosts (action : HostAction) : List String :=
  if action.actionID = recoveryReceiveAction then
    action.receive.toList.flatMap fun receive => [receive.oldHostID, receive.newHostID]
  else []

/-- The host that a recovery is received from. -/
def Plan.frozenSource (plan : Plan) (id : String) : Bool :=
  plan.hostAction.any fun action => action.actionID == recoveryReceiveAction &&
    action.receive.any fun receive => receive.oldHostID == id

def executionHosts (plan : Plan) (operation : PlanOperation) : List String :=
  plan.hostAction.toList.flatMap HostAction.receiveHosts ++ baselineHosts plan ++ plan.auxiliaryTargets ++ [operation.targetID]

section Execution

variable (validators : Validators) (snapshots : String → Target → Option Snapshot) (plan : Plan)

/-- `authorizeBaselinePrincipal`; the principal's kind is the one the policy has for it. -/
def authorizeBaselinePrincipal (principalID : String) (request : Request) : Bool :=
  (snapshots principalID request.target).any fun snapshot =>
    (request.action != .acknowledge || snapshot.principalKind == .human) &&
      (authorize validators (some snapshot) ⟨principalID, .localOSPeer, some snapshot.principalKind, ""⟩ request).allowed

/-- The grants that `CurrentExecution` counts itself, without the evaluator. -/
def countsGrant (accepts : Snapshot → Grant → Bool) (principalID : String) (request : Request) : Bool :=
  (snapshots principalID request.target).any fun snapshot => snapshot.active && snapshot.grants.any fun grant =>
    grant.action == request.action && grant.target == request.target && grant.branch == some .human && accepts snapshot grant

def hostActionRequest (targetID : String) : Request :=
  ⟨.execute, ⟨"host.action.execute", "execution-target", targetID⟩, some plan, [.human], none, false⟩

/-- The human who acknowledged a run and the principal who created it, about each host. -/
def allowsHosts (human actor : Request → Bool) (hosts : List String) : Bool :=
  hosts.all fun id => human (acknowledgementRequest plan id) && actor (hostActionRequest plan id)

def administers (snapshot : Snapshot) (grant : Grant) : Bool :=
  snapshot.principalKind == .human && (grant.role == .infrastructureAdmin || grant.role == .controlPlaneAdmin)

/-- `CurrentExecution`, as far as it is about hosts. -/
def currentExecution (human actor automation : String) (operation : PlanOperation) : Bool :=
  plan.operations.contains operation &&
    ["host.action.execute", "host.access.probe.local"].contains operation.operationType &&
    (plan.hostAction.all fun action => action.hostID == operation.targetID && (action.actionID != recoveryReceiveAction ||
      action.receive.any fun receive => receive.newHostID == action.hostID)) &&
    allowsHosts plan (authorizeBaselinePrincipal validators snapshots human) (authorizeBaselinePrincipal validators snapshots actor)
      (plan.hostAction.toList.flatMap HostAction.receiveHosts ++ baselineHosts plan) &&
    allowsHosts plan (countsGrant snapshots (fun _ _ => true) human) (countsGrant snapshots (fun _ _ => true) actor)
      plan.auxiliaryTargets &&
    allowsHosts plan (countsGrant snapshots administers human) (countsGrant snapshots (fun _ _ => true) actor)
      [operation.targetID] &&
    countsGrant snapshots (fun _ _ => true) automation (hostActionRequest plan operation.targetID)

end Execution

variable {validators : Validators} {plan : Plan}

theorem executionResourceIDs_ne_nil (operation : PlanOperation) : executionResourceIDs validators plan operation ≠ [] := by
  unfold executionResourceIDs
  split
  · exact List.cons_ne_nil _ _
  · cases chosen : ((discoveryIDs plan operation).or <| (adoptionIDs plan operation).or <|
        (replacementIDs validators plan operation).or (aliasClaimIDs validators plan operation)) with
    | none => exact List.cons_ne_nil _ _
    | some ids =>
      intro empty
      simp only [Option.getD_some] at empty
      subst empty
      simp only [Option.or_eq_some_iff, discoveryIDs, adoptionIDs, replacementIDs, aliasClaimIDs, Option.bind_eq_bind,
        Option.bind_eq_some_iff] at chosen
      grind

variable {operation : PlanOperation} {id : String} {request : Request} {snapshot : Snapshot}

theorem executionResourceIDs_foreign (foreign : operation ∉ plan.operations) :
    executionResourceIDs validators plan operation = [operation.targetID] := by
  have other : (plan.operations != [operation]) = true := by
    simp only [bne_iff_ne, ne_eq]
    intro same
    exact foreign (same ▸ List.mem_singleton_self operation)
  simp [executionResourceIDs, other]

@[simp] theorem mem_uniqueTargets :
    id ∈ uniqueTargets validators plan ↔ id ∈ namedTargets validators plan := by
  simp [uniqueTargets, List.mem_dedup]

theorem namedTargets_of_operation (member : operation ∈ plan.operations)
    (resource : id ∈ executionResourceIDs validators plan operation) : id ∈ namedTargets validators plan :=
  List.mem_append_right _ (List.mem_flatMap.mpr ⟨operation, member, resource⟩)

theorem namedTargets_of_baseline {scope : HostBaselineScope} (inScope : plan.hostBaselineScope = some scope)
    (resource : id ∈ executionResourceIDs validators plan (baselineOperation scope)) :
    id ∈ namedTargets validators plan := by
  by_cases own : baselineOperation scope ∈ plan.operations
  · exact namedTargets_of_operation own resource
  · rw [executionResourceIDs_foreign own, List.mem_singleton] at resource
    subst resource
    simp [namedTargets, baselineHosts, inScope, baselineOperation]

theorem namedTargets_of_projected
    (projected : operation ∈ projectedOperations validators plan) : operation.targetID ∈ namedTargets validators plan := by
  obtain ⟨source, member, image⟩ := List.mem_flatMap.mp projected
  obtain ⟨id, resource, rfl⟩ := List.mem_map.mp image
  rcases List.mem_append.mp member with listed | added
  · exact namedTargets_of_operation listed resource
  · obtain ⟨scope, inScope, rfl⟩ := List.mem_map.mp added
    exact namedTargets_of_baseline (Option.mem_toList.mp inScope) resource

theorem unseenOperations_sublist (seen : List String) (operations : List PlanOperation) :
    (unseenOperations seen operations).Sublist operations := by
  induction operations generalizing seen with
  | nil => exact List.Sublist.refl _
  | cons operation rest ih =>
    unfold unseenOperations
    split
    · exact (ih seen).cons operation
    · exact (ih _).cons_cons operation

theorem planContainsTarget_of_named (named : id ∈ namedTargets validators plan) :
    planContainsTarget validators plan id = true := by
  simp only [planContainsTarget, Bool.or_eq_true]
  rcases List.mem_append.mp named with early | resource
  · rcases List.mem_append.mp early with inScope | auxiliary
    · obtain ⟨scope, present, host⟩ := List.mem_flatMap.mp inScope
      refine .inl (.inl (.inr ?_))
      rw [Option.mem_toList.mp present]
      simp only [List.mem_cons, List.not_mem_nil, or_false] at host
      rcases host with rfl | rfl
      · simp
      · simp
    · exact .inl (.inr (List.contains_iff_mem.mpr auxiliary))
  · obtain ⟨operation, member, resource⟩ := List.mem_flatMap.mp resource
    refine .inr (List.any_eq_true.mpr ⟨operation, member, ?_⟩)
    rw [List.contains_iff_mem.mpr resource, Bool.true_or]

theorem currentBinding_reason {reason : Reason}
    (refused : currentBinding request snapshot = .error reason) : reason ≠ .targetMismatch := by
  unfold currentBinding at refused
  grind

theorem requestedBranch_reason {principal : Principal} {reason : Reason}
    (refused : requestedBranch request principal = .error reason) : reason ≠ .targetMismatch := by
  unfold requestedBranch at refused
  grind

theorem classifiedRisk_reason {refusal : Refusal}
    (refused : classifiedRisk request snapshot = .error refusal) : refusal.reason ≠ .targetMismatch := by
  unfold classifiedRisk at refused
  grind

theorem admit_of_contained {principal : Principal} {refusal : Refusal}
    (asked : request.plan = some plan) (contained : planContainsTarget validators plan request.target.resourceID = true)
    (refused : screen validators snapshot principal request = .error refusal) : refusal.reason ≠ .targetMismatch := by
  unfold screen at refused
  split at refused
  · cases refused
    simp
  split at refused
  next stale =>
    cases refused
    exact currentBinding_reason stale
  split at refused
  next other =>
    cases refused
    exact requestedBranch_reason other
  split at refused
  next unknown =>
    cases refused
    exact classifiedRisk_reason unknown
  split at refused
  · cases refused
    simp
  split at refused
  · cases refused
    simp
  split at refused
  next outside =>
    simp [asked, contained] at outside
  · cases refused

/-! ### The first target -/

/-- The decision that `authorizeRunPlan` returns is about a target of the first
operation, as the run engine demands of the decision a run is submitted with. -/
theorem first_decision_is_about_first_target {ε δ : Type} {inputInvalid : ε} {ask : Request → Except ε δ} {decision : δ}
    {about : δ → String} (answers : ∀ request decided, ask request = .ok decided → about decided = request.target.resourceID)
    (done : authorizeRunPlan validators inputInvalid ask plan = .ok (some decision)) :
    firstExecutionTarget validators plan (about decision) = true := by
  cases listed : plan.operations with
  | nil => simp [authorizeRunPlan, listed] at done
  | cons first rest =>
    obtain ⟨id, ids, named⟩ := List.exists_cons_of_ne_nil (@executionResourceIDs_ne_nil validators plan first)
    have requests : ∃ later, runRequests validators plan = executionRequest plan { first with targetID := id } :: later := by
      simp [runRequests, projectedOperations, listed, named, unseenOperations]
    obtain ⟨later, requests⟩ := requests
    simp only [authorizeRunPlan, listed, requests, List.isEmpty_cons, Bool.false_eq_true, if_false, List.mapM_cons, bind_assoc,
      pure_bind, bind_eq_ok, pure_eq_ok, List.head?_cons, Option.some.injEq] at done
    obtain ⟨decided, granted, _, _, rfl⟩ := done
    rw [answers _ _ granted]
    simp [firstExecutionTarget, listed, named, executionRequest]

/-! ### Carrying out a host action -/

theorem exactOperation_other {declaration digest adapter kind : String} (other : operation.operationType ≠ kind) :
    exactOperation plan operation declaration digest adapter kind = false := by
  simp [exactOperation, other]

/-- A host action stands for none of the requests that name other resources. -/
theorem executionResourceIDs_hostAction
    (hostAction : ["host.action.execute", "host.access.probe.local"].contains operation.operationType = true) :
    executionResourceIDs validators plan operation = [operation.targetID] := by
  have discovery (action : String) : operation.operationType ≠ "host.discovery-target." ++ action := by
    intro same
    rw [same] at hostAction
    simp [String.ext_iff] at hostAction
  have others : ∀ kind ∈ ["host.adopt", "host.replacement.commit", "host.replacement.freeze", "host.alias.claim"],
      operation.operationType ≠ kind := by
    have distinct : ∀ kind ∈ ["host.adopt", "host.replacement.commit", "host.replacement.freeze", "host.alias.claim"],
        ["host.action.execute", "host.access.probe.local"].contains kind = false := by decide
    intro kind listed same
    rw [same, distinct kind listed] at hostAction
    cases hostAction
  have replacement (commits : Prop) [Decidable commits] :
      operation.operationType ≠ if commits then "host.replacement.commit" else "host.replacement.freeze" := by
    split
    · exact others _ (by simp)
    · exact others _ (by simp)
  have discoveries : discoveryIDs plan operation = none := by
    simp [discoveryIDs, exactOperation_other (discovery _)]
  have adoptions : adoptionIDs plan operation = none := by
    simp [adoptionIDs, exactOperation_other (others "host.adopt" (by simp))]
  have replacements : replacementIDs validators plan operation = none := by
    simp [replacementIDs, exactOperation_other (replacement _)]
  have claims : aliasClaimIDs validators plan operation = none := by
    simp [aliasClaimIDs, exactOperation_other (others "host.alias.claim" (by simp))]
  simp [executionResourceIDs, discoveries, adoptions, replacements, claims]

variable {snapshots : String → Target → Option Snapshot} {human actor automation : String}

theorem mem_receiveHosts {action : HostAction} :
    id ∈ action.receiveHosts ↔ action.actionID = recoveryReceiveAction ∧
      ∃ receive, action.receive = some receive ∧ (id = receive.oldHostID ∨ id = receive.newHostID) := by
  unfold HostAction.receiveHosts
  split
  next receives => simp [receives]
  next other => simp [other]

theorem host_of_execution (admitted : currentExecution validators snapshots plan human actor automation operation = true)
    (host : id ∈ executionHosts plan operation) :
    id ∈ uniqueTargets validators plan ∨ plan.frozenSource id = true ∧
      authorizeBaselinePrincipal validators snapshots human (acknowledgementRequest plan id) = true ∧
      authorizeBaselinePrincipal validators snapshots actor (hostActionRequest plan id) = true := by
  simp only [currentExecution, Bool.and_eq_true, List.contains_iff_mem] at admitted
  obtain ⟨⟨⟨⟨⟨⟨member, kind⟩, same⟩, scope⟩, _⟩, _⟩, _⟩ := admitted
  have own : operation.targetID ∈ uniqueTargets validators plan := by
    refine mem_uniqueTargets.mpr (namedTargets_of_operation member ?_)
    rw [executionResourceIDs_hostAction (List.contains_iff_mem.mpr kind)]
    exact List.mem_singleton_self _
  simp only [executionHosts, List.append_assoc, List.mem_append, List.mem_singleton] at host
  rcases host with received | baseline | auxiliary | rfl
  · obtain ⟨action, present, received⟩ := List.mem_flatMap.mp received
    obtain ⟨receives, receive, found, host⟩ := mem_receiveHosts.mp received
    have chosen := Option.mem_toList.mp present
    rcases host with rfl | rfl
    · right
      refine ⟨by simp [Plan.frozenSource, Option.mem_def.mp chosen, receives, found], ?_⟩
      have allowed := List.all_eq_true.mp scope _ (List.mem_append_left _ (List.mem_flatMap.mpr ⟨action, present, received⟩))
      exact Bool.and_eq_true_iff.mp allowed
    · left
      rw [Option.mem_def.mp chosen] at same
      obtain ⟨acted, receiver⟩ : action.hostID = operation.targetID ∧ receive.newHostID = action.hostID := by
        simpa [receives, found] using same
      rw [receiver, acted]
      exact own
  · exact .inl (mem_uniqueTargets.mpr (List.mem_append_left _ (List.mem_append_left _ baseline)))
  · exact .inl (mem_uniqueTargets.mpr (List.mem_append_left _ (List.mem_append_right _ auxiliary)))
  · exact .inl own

/-- The old controller is frozen, and the new one receives the recovery of its database. -/
def receivingPlan : Plan where
  planID := "plan-1"
  planDigest := "digest-1"
  binding := ⟨0, 1, "policy-1"⟩
  operations := [⟨1, "operation-1", "host.action.execute", "core.host-action", "central", "host-new", "input", "artifact", false⟩]
  status := .approved
  authorizationBranch := .human
  executorMode := .central
  executorID := none
  expiresAt := 1800
  requests := {}
  extensions := []
  declarationID := "declaration-1"
  risk := .infrastructure
  hostBaselineScope := none
  auxiliaryTargets := []
  hostDiscoveryTarget := none
  hostAdoption := none
  hostReplacement := none
  hostAliasClaim := none
  hostAction := some ⟨recoveryReceiveAction, "1.0.0", "host-new", some ⟨"host-old", "host-new", "host-old", "host-new"⟩⟩

/-- Everyone may acknowledge and execute on the host they are asked about. -/
def administrators (principalID : String) (target : Target) : Option Snapshot :=
  some ⟨principalID, .human, true, 1, 1, 0, [⟨.infrastructureAdmin, .acknowledge, target, some .human⟩,
    ⟨.infrastructureAdmin, .execute, target, some .human⟩]⟩

end VskLabs.Authorization

import VskLabs.Planning.Service

/-! Where the risk that `Create` stores and the risk that `ClassifyPlan` derives
from the operation table agree. -/

namespace VskLabs.Planning
open Authorization Library

/-! ### The table -/

def tableRisk (replacement : Option HostReplacement) (kind : String) : Option RiskClass :=
  (operationRisk.lookup kind).map fun risk =>
    if (kind == "host.replacement.freeze" || kind == "host.replacement.commit") &&
        replacement.any fun replacement => replacement.restorationClass == "control-database" then .controlPlane
    else risk

theorem operationRisk_eq (plan : Authorization.Plan) (operation : PlanOperation) :
    plan.operationRisk operation = tableRisk plan.hostReplacement operation.operationType := rfl

def Settles (risk : RiskClass) (kind : String) : Prop :=
  operationRisk.lookup kind = some risk ∧ kind ≠ "host.replacement.freeze" ∧ kind ≠ "host.replacement.commit"

instance (risk : RiskClass) (kind : String) : Decidable (Settles risk kind) :=
  inferInstanceAs (Decidable (_ ∧ _ ∧ _))

variable {risk own : RiskClass} {kind : String} {operation : PlanOperation}
  {result : RiskClass × Option HostActionDraft}

theorem Settles.tableRisk (settles : Settles risk kind)
    (replacement : Option HostReplacement) : tableRisk replacement kind = some risk := by
  obtain ⟨entry, notFreeze, notCommit⟩ := settles
  simp [Planning.tableRisk, entry, notFreeze, notCommit]

def Settled (risk : RiskClass) (operations : List PlanOperation) : Prop :=
  ∀ operation ∈ operations, Settles risk operation.operationType

theorem Settled.of_kind (named : operation.operationType = kind) (settles : Settles risk kind) : Settled risk [operation] :=
  List.forall_mem_singleton.mpr (named ▸ settles)

def Right (replacement : Option HostReplacement) (operations : List PlanOperation) (risk : RiskClass) : Prop :=
  ∀ operation ∈ operations, tableRisk replacement operation.operationType = some risk

theorem Right.of_settles {operations : List PlanOperation}
    (settles : Settled risk operations) (replacement : Option HostReplacement) :
    Right replacement operations risk :=
  fun operation member => (settles operation member).tableRisk replacement

theorem lookup_mem {table : List (String × RiskClass)}
    (entry : table.lookup kind = some risk) : (kind, risk) ∈ table := by
  obtain ⟨before, after, rfl, _⟩ := List.lookup_eq_some_iff.mp entry
  simp

theorem isPrefixOf_bytes (start rest : String) : (bytes start).isPrefixOf (bytes (start ++ rest)) = true := by
  simp [bytes]

theorem network_entries : ∀ entry ∈ operationRisk,
    ((bytes "network.mesh.").isPrefixOf (bytes entry.1) || (bytes "network.ingress.").isPrefixOf (bytes entry.1)) = true →
      Settles .infrastructure entry.1 := by
  decide +kernel

/-! ### One stage

A stage passes the risk on, or it recognises the declaration and then every
operation has the risk it sets. -/

def Stage (operations : List PlanOperation) (candidate : Bool) (before after : RiskClass) : Prop :=
  candidate = false ∧ after = before ∨
    candidate = true ∧ Settled after operations

variable {config : Config} {environment : Environment} {declaration : Declaration} {operations : List PlanOperation}
  {extensions : List ContractExtension} {before after : RiskClass}

theorem single_of_mem (alone : (operations.length == 1) = true) (member : operation ∈ operations) :
    operations = [operation] := by
  obtain ⟨only, rfl⟩ := List.length_eq_one_iff.mp (beq_iff_eq.mp alone)
  rw [List.mem_singleton.mp member]

theorem sealedStage_ok {candidate sealed : Bool}
    (settles : candidate = true → sealed = true → Settled own operations)
    (done : sealedStage config candidate sealed own before = .ok after) : Stage operations candidate before after := by
  unfold sealedStage at done
  cases candidate with
  | false =>
    cases done
    exact .inl ⟨rfl, rfl⟩
  | true =>
    by_cases passed : (sealed && config.attended) = true
    · simp only [↓reduceIte, passed] at done
      cases done
      exact .inr ⟨rfl, settles rfl (Bool.and_eq_true_iff.mp passed).1⟩
    · simp [passed] at done

theorem settles_controllerSetup (closed : sealedSingleControllerSetup declaration operations = true) :
    Settled .controlPlane operations := by
  unfold sealedSingleControllerSetup at closed
  split at closed
  next only =>
    simp only [checks] at closed
    obtain ⟨⟨⟨⟨_, kind⟩, _⟩, _⟩, _⟩ := closed
    exact .of_kind kind (by decide)
  · cases closed

theorem settles_notificationReadiness (closed : sealedNotificationReadiness declaration operations = true) :
    Settled .controlPlane operations := by
  unfold sealedNotificationReadiness at closed
  split at closed
  next only =>
    simp only [checks] at closed
    obtain ⟨⟨⟨⟨⟨_, kind⟩, _⟩, _⟩, _⟩, _⟩ := closed
    exact .of_kind kind (by decide)
  · cases closed

theorem settles_credentialLifecycle (closed : sealedSingleCredentialLifecycle declaration operations = true) :
    Settled .controlPlane operations := by
  unfold sealedSingleCredentialLifecycle at closed
  split at closed
  next only _ _ =>
    simp only [checks, credentialLifecycleOperation, List.contains_iff_mem, List.mem_cons, List.not_mem_nil, or_false] at closed
    rcases closed with ⟨⟨⟨_, kind | kind | kind | kind | kind⟩, _⟩, _⟩ <;>
      exact .of_kind kind (by decide)
  · cases closed

theorem settles_localRetention (closed : sealedSingleLocalRetention declaration operations = true) :
    Settled .destructive operations := by
  unfold sealedSingleLocalRetention at closed
  split at closed
  next only =>
    simp only [checks] at closed
    rcases closed.2 with ⟨⟨⟨_, kind⟩, _⟩, _⟩ | ⟨⟨⟨⟨_, kind⟩, _⟩, _⟩, _⟩
    · exact .of_kind kind (by decide)
    · exact .of_kind kind (by decide)
  · cases closed

theorem settles_offsiteRetirement (closed : sealedSingleOffsiteRetirement declaration operations = true) :
    Settled .destructive operations := by
  unfold sealedSingleOffsiteRetirement at closed
  split at closed
  next only =>
    simp only [checks] at closed
    obtain ⟨⟨⟨⟨⟨_, kind⟩, _⟩, _⟩, _⟩, _⟩ := closed
    exact .of_kind kind (by decide)
  · cases closed

theorem settles_offsiteCopy (closed : sealedSingleOffsiteCopy declaration operations = true) :
    Settled .infrastructure operations := by
  unfold sealedSingleOffsiteCopy at closed
  split at closed
  next only =>
    simp only [checks] at closed
    obtain ⟨⟨⟨⟨_, kind⟩, _⟩, _⟩, _⟩ := closed
    exact .of_kind kind (by decide)
  · cases closed

/-! ### The loops -/

def Known (operations : List PlanOperation) : Prop :=
  ∀ operation ∈ operations, (operationRisk.lookup operation.operationType).isSome = true

variable {marked : PlanOperation → Bool}

theorem checkedStage_ok {σ β : Type} {check : PlanOperation → Except Failure β} {pick : σ → β → σ} {start final : σ}
    (risk : σ → RiskClass) (done : operations.foldlM (fun state operation =>
      if marked operation then (check operation).map (pick state) else .ok state) start = .ok final)
    (sets : ∀ state drawn, risk (pick state drawn) = own)
    (settles : ∀ operation ∈ operations, ∀ drawn, check operation = .ok drawn → Settled own operations) :
    Stage operations (operations.any marked) (risk start) (risk final) := by
  have last := foldlM_last marked (fun next => Settled (risk next) operations) ?_ ?_ done
  · rcases last with ⟨unmarked, rfl⟩ | settled
    · exact .inl ⟨unmarked, rfl⟩
    · exact .inr settled
  · intro state operation unmarked
    simp [unmarked]
  · intro state operation member next chosen stepped
    rw [if_pos chosen] at stepped
    cases checked : check operation with
    | error failure => simp [checked, Except.map] at stepped
    | ok drawn =>
      rw [checked] at stepped
      cases stepped
      exact sets state drawn ▸ settles operation member drawn checked

theorem settles_network {reader : Option (String → Except Failure Staged)}
    {adapterID start draft extension : String} (known : Known operations)
    (covered : start = "network.mesh." ∨ start = "network.ingress.") (member : operation ∈ operations)
    (checked : networkCheck config declaration operations extensions reader adapterID kind start draft extension
      operation = .ok ()) : Settled .infrastructure operations := by
  simp only [networkCheck, peel, Bool.and_eq_true] at checked
  obtain ⟨_, _, _, shape, change, _, _, exact, _⟩ := checked
  have single : (operations.length == 1) = true := by tauto
  have named : operation.operationType = start ++ change.action := by
    simp only [beq_iff_eq] at exact
    tauto
  rw [single_of_mem single member]
  obtain ⟨risk, entry⟩ := Option.isSome_iff_exists.mp (known operation member)
  refine .of_kind rfl (network_entries _ (lookup_mem entry) ?_)
  rw [named, Bool.or_eq_true]
  rcases covered with rfl | rfl
  · exact .inl (isPrefixOf_bytes _ _)
  · exact .inr (isPrefixOf_bytes _ _)

theorem meshStage_ok (known : Known operations) (done : meshStage config declaration operations extensions before = .ok after) :
    Stage operations (operations.any (networkMarked "cloudflare.mesh" "network.mesh.")) before after :=
  checkedStage_ok id done (fun _ _ => rfl) fun _ member _ => settles_network known (.inl rfl) member

theorem ingressStage_ok (known : Known operations)
    (done : ingressStage config declaration operations extensions before = .ok after) :
    Stage operations (operations.any (networkMarked "cloudflare.ingress" "network.ingress.")) before after :=
  checkedStage_ok id done (fun _ _ => rfl) fun _ member _ => settles_network known (.inr rfl) member

variable {apply : HostAction} {length index : Nat} {draft : HostActionDraft}

theorem accessOperation_kind
    (exact : accessOperation apply length index operation draft = true) :
    operation.operationType = "host.action.execute" ∨ operation.operationType = "host.access.probe.local" := by
  have chosen := (Bool.and_eq_true_iff.mp exact).2
  split at chosen
  · exact .inl (beq_iff_eq.mp (Bool.and_eq_true_iff.mp chosen).1)
  split at chosen
  · exact .inl (beq_iff_eq.mp (Bool.and_eq_true_iff.mp chosen).1)
  split at chosen
  · exact .inr (beq_iff_eq.mp (Bool.and_eq_true_iff.mp chosen).1)
  · exact .inl (beq_iff_eq.mp (Bool.and_eq_true_iff.mp chosen).2)

theorem settles_access {drafts : List HostActionDraft}
    (exact : accessOperations apply length index operations drafts = true) :
    Settled .infrastructure operations := by
  induction operations generalizing index drafts with
  | nil => exact List.forall_mem_nil _
  | cons operation rest ih =>
    cases drafts with
    | nil => cases exact
    | cons draft drafts =>
      simp only [accessOperations, checks] at exact
      refine List.forall_mem_cons.mpr ⟨?_, ih exact.2⟩
      rcases accessOperation_kind exact.1 with kind | kind
      · rw [kind]
        decide
      · rw [kind]
        decide

variable {sequence : Option (List String)}

theorem accessSequence_ok
    (done : accessSequence config environment declaration operations = .ok sequence) :
    declaration.declarationType ≠ "host.access" ∧ sequence = none ∨
      declaration.declarationType = "host.access" ∧ sequence.isSome = true ∧
        Settled .infrastructure operations := by
  unfold accessSequence at done
  split at done
  next other =>
    cases done
    exact .inl ⟨bne_iff_ne.mp other, rfl⟩
  next typed =>
    simp only [peel] at done
    obtain ⟨_, _, _, _, drafts, _, found, exact, _, _, rfl⟩ := done
    refine .inr ⟨by simpa using typed, rfl, ?_⟩
    unfold debianSequence at exact
    split at exact
    · cases exact
    split at exact
    next fits =>
      simp only [checks] at fits
      exact settles_access fits.2
    · cases exact

theorem settles_hostAction (member : operation ∈ operations)
    (checked : hostActionDraft config declaration operations extensions operation = .ok draft) :
    Settled .infrastructure operations := by
  simp only [hostActionDraft, peel, checks] at checked
  obtain ⟨_, shape, _⟩ := checked
  have single : operations.length = 1 := by tauto
  rw [single_of_mem (beq_iff_eq.mpr single) member]
  exact .of_kind shape.1.2 (by decide)

theorem hostActionStage_ok (noJob : declaration.ciJob = none)
    (done : hostActionStage config declaration operations extensions false before = .ok result) :
    Stage operations (operations.any hostActionMarked) before result.1 := by
  simp only [hostActionStage, noJob, Option.isSome_none, Bool.false_and, Bool.false_eq_true, ↓reduceIte] at done
  exact checkedStage_ok Prod.fst done (fun _ _ => rfl) fun _ member _ => settles_hostAction member

theorem tableRisk_replaced (replaces : kind = "host.replacement.freeze" ∨ kind = "host.replacement.commit")
    (replacement : HostReplacement) (before : RiskClass) :
    tableRisk (some replacement) kind = some (replacementRisk (some replacement) none before) := by
  have entry : operationRisk.lookup kind = some .infrastructure := by
    rcases replaces with rfl | rfl
    · decide
    · decide
  by_cases control : (replacement.restorationClass == "control-database") = true
  · simp [tableRisk, replacementRisk, entry, control, replaces]
  · simp [tableRisk, replacementRisk, entry, control]

theorem replacementPlan_ok {found : Option HostReplacement × Option HostAliasClaim}
    (done : replacementPlan config environment declaration operations = .ok found) :
    replacementPlanCandidate declaration operations = false ∧ found = (none, none) ∨
      replacementPlanCandidate declaration operations = true ∧
        ∀ before, Right found.1 operations (replacementRisk found.1 found.2 before) := by
  unfold replacementPlan at done
  by_cases candidate : replacementPlanCandidate declaration operations = true
  · refine .inr ⟨candidate, ?_⟩
    simp only [candidate, Bool.not_true, Bool.false_eq_true, ↓reduceIte] at done
    split at done
    next operation extension _ _ =>
      simp only [peel] at done
      obtain ⟨_, _, done⟩ := done
      split at done
      next kind =>
        simp only [peel] at done
        obtain ⟨claim, _, _, _, rfl⟩ := done
        intro before
        refine Right.of_settles (.of_kind kind ?_) none
        simp only [replacementRisk, Option.isSome_none, Option.isSome_some, Bool.or_true, ↓reduceIte, Option.any_none,
          Bool.false_eq_true]
        decide
      · simp only [peel, checks] at done
        obtain ⟨_, shape, _, _, draft, _, _, _, _, _, rfl⟩ := done
        intro before
        rw [Right, List.forall_mem_singleton]
        exact tableRisk_replaced shape.2 draft.request before
    · cases done
  · rw [Bool.not_eq_true] at candidate
    simp only [candidate, Bool.not_false, ↓reduceIte] at done
    cases done
    exact .inl ⟨candidate, rfl⟩

theorem adoptionStage_ok {result : RiskClass × Option HostAdoption}
    (done : adoptionStage config declaration operations before = .ok result) :
    Stage operations (operations.any adoptionMarked) before result.1 := by
  refine checkedStage_ok Prod.fst done (fun _ _ => rfl) ?_
  intro operation member draft checked
  simp only [adoptionDraft, peel, checks] at checked
  obtain ⟨_, shape, _⟩ := checked
  have single : operations.length = 1 := by tauto
  have kind : operation.operationType = "host.adopt" := by tauto
  rw [single_of_mem (beq_iff_eq.mpr single) member]
  exact .of_kind kind (by decide)

theorem discoveryStage_ok {result : RiskClass × Option HostDiscoveryTarget}
    (done : discoveryStage config declaration operations before = .ok result) :
    Stage operations (operations.any discoveryMarked) before result.1 := by
  refine checkedStage_ok Prod.fst done (fun _ _ => rfl) ?_
  intro operation member draft checked
  simp only [discoveryDraft, peel, checks] at checked
  obtain ⟨_, shape, _⟩ := checked
  have single : operations.length = 1 := by tauto
  rw [single_of_mem (beq_iff_eq.mpr single) member]
  rcases shape with ⟨⟨⟨_, kind | kind⟩, _⟩, _⟩
  · exact .of_kind kind (by decide)
  · exact .of_kind kind (by decide)

/-! ### The typed requests -/

/-- One of the requests whose risk `Create` sets without a look at the
operations. -/
def requested (declaration : Declaration) : Bool :=
  declaration.ciJob.isSome || declaration.ciEnrollment.isSome || declaration.serviceImport.isSome ||
    declaration.authorizationGrantBatch.isSome || declaration.networkEndpoint.isSome ||
    declaration.hostingLifecycle.isSome || declaration.serviceRecovery.isSome || declaration.serviceDeployment.isSome

def requestRisk (declaration : Declaration) (before : RiskClass) : RiskClass :=
  if declaration.serviceDeployment.isSome then .productionLike
  else if declaration.hostingLifecycle.isSome then .controlPlane
  else if declaration.serviceRecovery.isSome then .productionLike
  else if declaration.ciJob.isSome || declaration.ciEnrollment.isSome || declaration.serviceImport.isSome ||
      declaration.authorizationGrantBatch.isSome || declaration.networkEndpoint.isSome then .controlPlane
  else before

theorem requestStage_ok (done : requestStage config declaration before = .ok after) :
    after = requestRisk declaration before := by
  simp only [requestStage, peel] at done
  obtain ⟨_, _, _, _, _, _, rfl⟩ := done
  unfold requestRisk
  cases declaration.hostingLifecycle.isSome <;> cases declaration.serviceRecovery.isSome <;> simp

def Exact (declaration : Declaration) (operations : List PlanOperation) (shape : TypedShape) : Prop :=
  declaration.declarationType = shape.declarationType ∧ ∃ operation, operations = [operation] ∧
    operation.operationType = shape.operationType ∧ operation.adapterID = shape.adapterID

structure Typed (declaration : Declaration) (operations : List PlanOperation) : Prop where
  ciJob : declaration.ciJob.isSome = true →
    Exact declaration operations ⟨"ci.job.execute", "ci-job", "ci.job.execute", "host-action"⟩
  ciEnrollment : declaration.ciEnrollment.isSome = true →
    Exact declaration operations ⟨"ci.enrollment.register", "ci-enrollment", "ci.enrollment.register", "core.ci-enrollment"⟩
  serviceImport : declaration.serviceImport.isSome = true →
    Exact declaration operations ⟨"service.import", "service-import", "service.import", "core.service-import"⟩
  grantBatch : declaration.authorizationGrantBatch.isSome = true →
    Exact declaration operations ⟨"authorization.policy", "grant-batch", "identity.change", "core.authorization"⟩
  networkEndpoint : declaration.networkEndpoint.isSome = true →
    Exact declaration operations
      ⟨"network.endpoint", "network-endpoint", "network.endpoint.change", "core.network-endpoint"⟩
  hostingLifecycle : declaration.hostingLifecycle.isSome = true →
    Exact declaration operations
      ⟨"hosting.lifecycle", "hosting.lifecycle.apply.v1", "hosting.lifecycle.apply", "hosting-lifecycle"⟩
  serviceRecovery : declaration.serviceRecovery.isSome = true →
    Exact declaration operations ⟨"service.recovery", "service-recovery", "service.recover", "core.service-recovery"⟩
  serviceDeployment : declaration.serviceDeployment.isSome = true →
    Exact declaration operations ⟨"service.deployment", "service-deployment", "service.deploy", "core.service-deployment"⟩

variable {desired : Declaration} {shape : TypedShape}

theorem exact_of_validTyped {executorID : String}
    {request : Option TypedRequest} {named : DeclarationOperation → Bool} {foreign extended : Bool}
    {revision : TypedRequest → Int} {check : TypedRequest → DeclarationOperation → Bool}
    (valid : validTyped desired shape request named foreign extended revision check = true)
    (present : request.isSome = true) :
    Exact desired (desired.operations.map (DeclarationOperation.planned executorID)) shape := by
  obtain ⟨request, rfl⟩ := Option.isSome_iff_exists.mp present
  obtain ⟨kind, operation, single, typed, adapted⟩ := validTyped_some valid
  exact ⟨kind, operation.planned executorID, by rw [single]; rfl, typed, adapted⟩

theorem typed_of_content {validators : Validators} {digest reason executorID : String}
    (content : validDeclarationContent desired validators digest reason = true) :
    Typed desired (desired.operations.map (DeclarationOperation.planned executorID)) := by
  simp only [validDeclarationContent, checks] at content
  obtain ⟨⟨⟨⟨⟨⟨⟨⟨⟨⟨_, ciJob⟩, ciEnrollment⟩, hosting⟩, recovery⟩, deployment⟩, imported⟩, endpoint⟩, batch⟩, _⟩, _⟩ := content
  refine ⟨?_, exact_of_validTyped ciEnrollment, exact_of_validTyped imported, exact_of_validTyped batch,
    exact_of_validTyped endpoint, exact_of_validTyped hosting, exact_of_validTyped recovery,
    exact_of_validTyped deployment⟩
  intro present
  exact exact_of_validTyped ciJob (by rw [Option.isSome_map]; exact present)

theorem Exact.settles
    (exact : Exact declaration operations shape) (noJob : declaration.ciJob = none)
    (away : shape.adapterID ≠ "host-action" ∧ shape.operationType ≠ "host.action.execute")
    (settles : Settles before shape.operationType)
    (done : hostActionStage config declaration operations extensions false before = .ok result) :
    Settled result.1 operations := by
  obtain ⟨_, operation, rfl, typed, adapted⟩ := exact
  have unmarked : [operation].any hostActionMarked = false := by
    simp [hostActionMarked, typed, adapted, away]
  rcases hostActionStage_ok noJob done with ⟨_, same⟩ | ⟨marked, _⟩
  · exact .of_kind typed (same ▸ settles)
  · rw [unmarked] at marked
    cases marked

theorem hostActionStage_job {job : CIJobRequest}
    (exact : Exact declaration operations ⟨"ci.job.execute", "ci-job", "ci.job.execute", "host-action"⟩)
    (present : declaration.ciJob = some job)
    (done : hostActionStage config declaration operations extensions false before = .ok result) :
    Settled result.1 operations := by
  obtain ⟨_, operation, rfl, typed, adapted⟩ := exact
  simp [hostActionStage, present, typed, adapted] at done
  cases done
  exact .of_kind typed (by decide)

theorem absent_of_type {present : Bool} (typed : present = true → declaration.declarationType = kind)
    (other : declaration.declarationType ≠ kind) : present = false :=
  Bool.eq_false_iff.mpr fun held => other (typed held)

theorem Typed.settles (typed : Typed declaration operations)
    (present : requested declaration = true)
    (done : hostActionStage config declaration operations extensions false (requestRisk declaration before) = .ok result) :
    declaration.declarationType ≠ "host.access" ∧ Settled result.1 operations := by
  have job := absent_of_type fun held => (typed.ciJob held).1
  have hosting := absent_of_type fun held => (typed.hostingLifecycle held).1
  have recovery := absent_of_type fun held => (typed.serviceRecovery held).1
  have deployment := absent_of_type fun held => (typed.serviceDeployment held).1
  -- away from the host: the risk set by the requests is that of the operation
  have away : ∀ {shape : TypedShape} (own : RiskClass), Exact declaration operations shape →
      shape.declarationType ≠ "ci.job.execute" ∧ shape.declarationType ≠ "host.access" ∧
        (shape.adapterID ≠ "host-action" ∧ shape.operationType ≠ "host.action.execute") ∧ Settles own shape.operationType →
      (declaration.declarationType = shape.declarationType → requestRisk declaration before = own) →
      declaration.declarationType ≠ "host.access" ∧ Settled result.1 operations := by
    rintro shape own exact ⟨notJob, notAccess, elsewhere, settles⟩ same
    rw [← exact.1] at notJob notAccess
    have noJob : declaration.ciJob = none := Option.isSome_eq_false_iff.mp (job notJob) |> Option.isNone_iff_eq_none.mp
    exact ⟨notAccess, exact.settles noJob elsewhere (same exact.1 ▸ settles) done⟩
  simp only [requested, checks] at present
  rcases present with ((((((present | present) | present) | present) | present) | present) | present) | present
  · have kind := (typed.ciJob present).1
    obtain ⟨request, held⟩ := Option.isSome_iff_exists.mp present
    exact ⟨by simp [kind], hostActionStage_job (typed.ciJob present) held done⟩
  · refine away .controlPlane (typed.ciEnrollment present) (by decide) fun kind => ?_
    simp [requestRisk, present, hosting, recovery, deployment, kind]
  · refine away .controlPlane (typed.serviceImport present) (by decide) fun kind => ?_
    simp [requestRisk, present, hosting, recovery, deployment, kind]
  · refine away .controlPlane (typed.grantBatch present) (by decide) fun kind => ?_
    simp [requestRisk, present, hosting, recovery, deployment, kind]
  · refine away .controlPlane (typed.networkEndpoint present) (by decide) fun kind => ?_
    simp [requestRisk, present, hosting, recovery, deployment, kind]
  · refine away .controlPlane (typed.hostingLifecycle present) (by decide) fun kind => ?_
    simp [requestRisk, present, deployment, kind]
  · refine away .productionLike (typed.serviceRecovery present) (by decide) fun kind => ?_
    simp [requestRisk, present, hosting, deployment, kind]
  · refine away .productionLike (typed.serviceDeployment present) (by decide) fun _ => ?_
    simp [requestRisk, present]

/-! ### All stages -/

theorem Stage.trans {first second : Bool} {middle : RiskClass} (early : Stage operations first before middle)
    (late : Stage operations second middle after) : Stage operations (first || second) before after := by
  rcases late with ⟨rfl, rfl⟩ | ⟨rfl, settles⟩
  · rw [Bool.or_false]
    exact early
  · exact .inr ⟨Bool.or_true first, settles⟩

theorem hostStages_ok {acted : RiskClass × Option HostActionDraft}
    (typed : Typed declaration operations)
    (accessed : accessSequence config environment declaration operations = .ok sequence)
    (done : hostActionStage config declaration operations extensions sequence.isSome
      (if sequence.isSome then .infrastructure else requestRisk declaration before) = .ok acted) :
    Stage operations (requested declaration || declaration.declarationType == "host.access" ||
      operations.any hostActionMarked) before acted.1 := by
  rcases accessSequence_ok accessed with ⟨other, rfl⟩ | ⟨kind, some_, settles⟩
  · simp only [Option.isSome_none, Bool.false_eq_true, ↓reduceIte] at done
    have notAccess : (declaration.declarationType == "host.access") = false := by simpa using other
    by_cases present : requested declaration = true
    · rw [present, Bool.true_or, Bool.true_or]
      exact .inr ⟨rfl, (typed.settles present done).2⟩
    · rw [Bool.not_eq_true] at present
      rw [present, notAccess, Bool.false_or, Bool.false_or]
      have absent := present
      simp only [requested, Bool.or_eq_false_iff] at absent
      have noJob : declaration.ciJob = none := by
        simp only [Option.isSome_eq_false_iff, Option.isNone_iff_eq_none] at absent
        tauto
      have kept : requestRisk declaration before = before := by simp [requestRisk, absent]
      rw [kept] at done
      exact hostActionStage_ok noJob done
  · simp only [some_, ↓reduceIte, hostActionStage] at done
    cases done
    exact .inr ⟨by simp [kind], settles⟩

/-- One of the kinds of declaration that `Create` classifies by itself. -/
def selfClassified (declaration : Declaration) (operations : List PlanOperation) : Bool :=
  (controllerSetupPlanCandidate declaration operations ||
      operations.any (networkMarked "cloudflare.mesh" "network.mesh.") ||
      operations.any (networkMarked "cloudflare.ingress" "network.ingress.") ||
      declaration.declarationType == "ci.artifact.publish" ||
      (requested declaration || declaration.declarationType == "host.access" || operations.any hostActionMarked)) ||
    replacementPlanCandidate declaration operations ||
    (operations.any adoptionMarked || operations.any discoveryMarked ||
      notificationReadinessCandidate declaration operations || credentialLifecyclePlanCandidate declaration operations ||
      localRetentionPlanCandidate declaration operations || offsiteRetirementPlanCandidate declaration operations ||
      offsitePlanCandidate declaration operations)

theorem classify_ok {classified : Classified} (known : Known operations) (typed : Typed declaration operations)
    (published : (declaration.declarationType == "ci.artifact.publish") = true →
      Settled .controlPlane operations)
    (done : classify config environment declaration operations extensions = .ok classified) :
    selfClassified declaration operations = false ∧ classified.risk = config.risk ∧ classified.replacement = none ∨
      selfClassified declaration operations = true ∧ Right classified.replacement operations classified.risk := by
  simp only [classify, peel] at done
  obtain ⟨_, setup, _, mesh, _, ingress, _, publication, _, requests, sequence, accessed, acted, actions,
    ⟨replacement, aliasClaim⟩, replaced, adopted, adoption, discovered, discovery, _, readiness, _, credential, _,
    retention, _, retirement, risk, copy, rfl⟩ := done
  rw [requestStage_ok requests] at actions
  have early := (sealedStage_ok (fun _ => settles_controllerSetup) setup).trans (meshStage_ok known mesh)
    |>.trans (ingressStage_ok known ingress) |>.trans (sealedStage_ok (fun kind _ => published kind) publication)
    |>.trans (hostStages_ok typed accessed actions)
  have late := (adoptionStage_ok adoption).trans (discoveryStage_ok discovery)
    |>.trans (sealedStage_ok (fun _ => settles_notificationReadiness) readiness)
    |>.trans (sealedStage_ok (fun _ => settles_credentialLifecycle) credential)
    |>.trans (sealedStage_ok (fun _ => settles_localRetention) retention)
    |>.trans (sealedStage_ok (fun _ => settles_offsiteRetirement) retirement)
    |>.trans (sealedStage_ok (fun _ => settles_offsiteCopy) copy)
  unfold selfClassified
  rcases late with ⟨unseen, kept⟩ | ⟨seen, settles⟩
  · rw [unseen, Bool.or_false]
    rcases replacementPlan_ok replaced with ⟨unreplaced, same⟩ | ⟨candidate, right⟩
    · cases same
      rw [unreplaced, Bool.or_false, kept]
      rcases early with ⟨unseen, kept⟩ | ⟨seen, settles⟩
      · exact .inl ⟨unseen, kept, rfl⟩
      · exact .inr ⟨seen, Right.of_settles settles none⟩
    · rw [candidate, Bool.or_true, kept]
      exact .inr ⟨rfl, right acted.1⟩
  · rw [seen, Bool.or_true]
    exact .inr ⟨rfl, Right.of_settles settles replacement⟩

end VskLabs.Planning

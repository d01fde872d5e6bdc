import VskLabs.Planning.Classification

/-! The risk a committed plan carries against the risk `ClassifyPlan` accepts. -/

namespace VskLabs.Planning
open Authorization Library

/-! ### The maximum of the table -/

theorem max_cases (first second : RiskClass) :
    first.rank ≤ (first.max second).rank ∧ second.rank ≤ (first.max second).rank ∧
      (first.max second = first ∨ first.max second = second) := by
  unfold RiskClass.max
  split
  · exact ⟨by omega, le_refl _, .inr rfl⟩
  · exact ⟨le_refl _, by omega, .inl rfl⟩

theorem rank_injective {first second : RiskClass} (same : first.rank = second.rank) : first = second := by
  cases first <;> cases second <;> simp_all [RiskClass.rank]

def Numbered : Int → List PlanOperation → Prop
  | _, [] => True
  | index, operation :: rest => operation.sequence = index + 1 ∧ Numbered (index + 1) rest

variable {index : Int} {operations : List PlanOperation} {plan : Authorization.Plan} {declaration : Declaration}
  {environment : Environment} {companion : Option Authorization.Plan}

theorem Numbered.least (numbered : Numbered index operations) :
    ∀ operation ∈ operations, index + 1 ≤ operation.sequence := by
  induction operations generalizing index with
  | nil => simp
  | cons operation rest ih =>
    refine List.forall_mem_cons.mpr ⟨numbered.1.ge, ?_⟩
    intro later member
    have bound := ih numbered.2 later member
    omega

theorem Numbered.sorted (numbered : Numbered index operations) :
    operations.Pairwise Authorization.bySequence := by
  induction operations generalizing index with
  | nil => exact List.Pairwise.nil
  | cons operation rest ih =>
    refine List.pairwise_cons.mpr ⟨?_, ih numbered.2⟩
    intro later member
    have bound := numbered.2.least later member
    have first := numbered.1
    unfold Authorization.bySequence
    omega

theorem classifyFrom_max (result : RiskClass)
    (numbered : Numbered index operations) (known : ∀ operation ∈ operations, (plan.operationRisk operation).isSome = true) :
    ∃ highest, classifyFrom plan index result operations = some highest ∧ result.rank ≤ highest.rank ∧
      (highest = result ∨ ∃ operation ∈ operations, plan.operationRisk operation = some highest) ∧
      ∀ operation ∈ operations, ∀ risk, plan.operationRisk operation = some risk → risk.rank ≤ highest.rank := by
  induction operations generalizing index result with
  | nil => exact ⟨result, rfl, le_refl _, .inl rfl, by simp⟩
  | cons operation rest ih =>
    obtain ⟨first, known⟩ := List.forall_mem_cons.mp known
    obtain ⟨risk, entry⟩ := Option.isSome_iff_exists.mp first
    obtain ⟨highest, done, above, origin, bounds⟩ := ih (result.max risk) numbered.2 known
    obtain ⟨left, right, either⟩ := max_cases result risk
    refine ⟨highest, ?_, left.trans above, ?_, ?_⟩
    · simp [classifyFrom, numbered.1, entry, done]
    · rcases origin with rfl | ⟨later, member, found⟩
      · rcases either with same | same
        · exact .inl same
        · exact .inr ⟨operation, .head _, by rw [same]; exact entry⟩
      · exact .inr ⟨later, .tail _ member, found⟩
    · intro other member value found
      rcases List.mem_cons.mp member with rfl | later
      · rw [entry] at found
        cases found
        exact right.trans above
      · exact bounds other later value found

theorem classifyPlan_iff (numbered : Numbered 0 plan.operations) (some_ : plan.operations ≠ [])
    (bounded : plan.operations.length ≤ 256)
    (known : ∀ operation ∈ plan.operations, (plan.operationRisk operation).isSome = true) :
    classifyPlan plan = some plan.risk ↔
      (∃ operation ∈ plan.operations, plan.operationRisk operation = some plan.risk) ∧
        ∀ operation ∈ plan.operations, ∀ risk, plan.operationRisk operation = some risk → risk.rank ≤ plan.risk.rank := by
  obtain ⟨highest, done, above, origin, bounds⟩ := classifyFrom_max .routine numbered known
  have attained : ∃ operation ∈ plan.operations, plan.operationRisk operation = some highest := by
    rcases origin with rfl | attained
    · -- nothing exceeds routine, so the first operation is routine
      obtain ⟨operation, member⟩ := List.exists_mem_of_ne_nil _ some_
      obtain ⟨risk, entry⟩ := Option.isSome_iff_exists.mp (known operation member)
      have low := bounds operation member risk entry
      have same : risk = .routine := by
        revert low
        cases risk <;> simp [RiskClass.rank]
      exact ⟨operation, member, same ▸ entry⟩
    · exact attained
  have reduced : classifyPlan plan = if plan.risk = highest then some highest else none := by
    have open_ : (plan.operations.isEmpty || decide (256 < plan.operations.length)) = false := by
      simp [some_, bounded]
    simp only [classifyPlan, open_, Bool.false_eq_true, ↓reduceIte, numbered.sorted.insertionSort_eq, done]
    by_cases same : plan.risk = highest
    · simp [Option.filter, same]
    · simp [Option.filter, same]
  rw [reduced]
  by_cases same : plan.risk = highest
  · rw [if_pos same, same]
    exact ⟨fun _ => ⟨attained, bounds⟩, fun _ => rfl⟩
  · rw [if_neg same]
    refine ⟨fun impossible => (by cases impossible), ?_⟩
    rintro ⟨⟨operation, member, entry⟩, limits⟩
    obtain ⟨other, inside, found⟩ := attained
    have up := bounds operation member _ entry
    have down := limits other inside _ found
    exact absurd (rank_injective (le_antisymm up down)) same

theorem classifyPlan_of_right (numbered : Numbered 0 plan.operations)
    (some_ : plan.operations ≠ []) (bounded : plan.operations.length ≤ 256)
    (right : Right plan.hostReplacement plan.operations plan.risk) : classifyPlan plan = some plan.risk := by
  have entries : ∀ operation ∈ plan.operations, plan.operationRisk operation = some plan.risk := right
  refine (classifyPlan_iff numbered some_ bounded fun operation member => ?_).mpr ⟨?_, ?_⟩
  · rw [entries operation member]
    rfl
  · obtain ⟨operation, member⟩ := List.exists_mem_of_ne_nil _ some_
    exact ⟨operation, member, entries operation member⟩
  · intro operation member risk found
    rw [entries operation member] at found
    cases found
    exact le_refl _

theorem companion_classifies (parent : Authorization.Plan) (policy : DeploymentPolicy) (digest id : String) :
    classifyPlan { companionPlan parent policy with planDigest := digest, planID := id } = some .productionLike := by
  have settles : Settles .productionLike "application.deploy.production-like" := by decide
  refine classifyPlan_of_right ⟨rfl, trivial⟩ (by simp [companionPlan]) (by simp [companionPlan]) ?_
  exact Right.of_settles (.of_kind rfl settles) _

/-! ### The declaration and its plan -/

theorem planOperations_ok {executorID : String} {declared : List DeclarationOperation}
    (done : planOperations executorID index declared = .ok operations) :
    operations = declared.map (DeclarationOperation.planned executorID) ∧ Numbered index operations := by
  induction declared generalizing index operations with
  | nil =>
    cases done
    exact ⟨rfl, trivial⟩
  | cons operation rest ih =>
    unfold planOperations at done
    split at done
    · cases done
    next numbered =>
      cases later : planOperations executorID (index + 1) rest with
      | error failure => simp [later, Except.map] at done
      | ok others =>
        rw [later] at done
        cases done
        obtain ⟨rfl, tail⟩ := ih later
        have first : operation.sequence = index + 1 := by simpa using numbered
        exact ⟨rfl, first, tail⟩

def highestRiskIs (risk : RiskClass) (operations : List PlanOperation) : Bool :=
  (operations.any fun operation => operationRisk.lookup operation.operationType == some risk) &&
    operations.all fun operation => (operationRisk.lookup operation.operationType).all fun other => other.rank ≤ risk.rank

def Declaration.planned (declaration : Declaration) : List PlanOperation :=
  declaration.operations.map (DeclarationOperation.planned "executor-central")

theorem selfClassified_perm {first second : List PlanOperation} (same : first.Perm second) :
    selfClassified declaration first = selfClassified declaration second := by
  simp only [selfClassified, controllerSetupPlanCandidate, replacementPlanCandidate, notificationReadinessCandidate,
    credentialLifecyclePlanCandidate, localRetentionPlanCandidate, offsiteRetirementPlanCandidate, offsitePlanCandidate,
    same.any_eq]

theorem publication_of_content {desired : Declaration} {validators : Validators} {authorizationDigest reason : String}
    (content : validDeclarationContent desired validators authorizationDigest reason = true) :
    validCIPublicationDeclaration desired = true := by
  simp only [validDeclarationContent, checks] at content
  tauto

theorem settles_publication {desired : Declaration} {executorID : String}
    (valid : validCIPublicationDeclaration desired = true)
    (kind : (desired.declarationType == "ci.artifact.publish") = true) :
    Settled .controlPlane (desired.operations.map (DeclarationOperation.planned executorID)) := by
  simp only [validCIPublicationDeclaration, validPublication, kind, Bool.true_or, ↓reduceIte] at valid
  split at valid
  next operation single =>
    simp only [checks] at valid
    rw [single, List.map_singleton]
    obtain ⟨⟨⟨⟨_, typed⟩, _⟩, _⟩, _⟩ := valid
    exact @Settled.of_kind _ _ (operation.planned executorID) typed (by decide)
  · cases valid

theorem Typed.of_desired {ordered : List DeclarationOperation} {current : Int × Int}
    (typed : Typed (declaration.desired ordered current) operations) :
    Typed declaration operations :=
  { typed with }

theorem create_created {config : Config} {author : AuthorScope} {request : PlanCreateRequest}
    (done : create config environment author request = .ok (.created plan companion)) :
    ∃ extensions declaration, environment.declaration request.declarationID request.declarationRevision = .ok declaration ∧
      createPlan config environment request extensions declaration = .ok (.created plan companion) := by
  simp only [create, peel] at done
  obtain ⟨_, _, _, _, existing, _, done⟩ := done
  cases existing with
  | some found =>
    simp only [peel] at done
    obtain ⟨_, _, impossible⟩ := done
    cases impossible
  | none =>
    simp only [peel, currentDeclaration] at done
    obtain ⟨declaration, ⟨found, read, _, _, _, _, _, _, rfl⟩, done⟩ := done
    exact ⟨_, found, read, done⟩

theorem createPlan_created {config : Config} {request : PlanCreateRequest}
    {extensions : List ContractExtension}
    (done : createPlan config environment request extensions declaration = .ok (.created plan companion)) :
    ∃ current reason classified, let desired := declaration.desired (declaration.operations.insertionSort bySequence) current
      planOperations config.operationExecutorID 0 desired.operations = .ok plan.operations ∧
      classify config environment declaration plan.operations extensions = .ok classified ∧
      plan.risk = classified.risk ∧ plan.hostReplacement = classified.replacement ∧
      exactPlan environment plan = true ∧
      validDeclarationContent desired environment.validators environment.authorizationDigest reason = true ∧
      ensureCICompanion environment declaration.ciJob plan = .ok companion := by
  simp only [createPlan, peel, commitDeclarationAndPlan] at done
  obtain ⟨reason, _, current, _, _, _, _, _, _, _, _, _, _, _, operations, planned, classified, sorted_, _, _, scopes, _,
    signed, sign, _, exact, _, ⟨_, content, _⟩, other, companions, same⟩ := done
  cases same
  simp only [signPlan, peel] at sign
  obtain ⟨digest, _, rfl⟩ := sign
  exact ⟨current, reason, classified, planned, sorted_, rfl, rfl, exact, content, companions⟩

theorem ensureCICompanion_classifies {job : Option CIJobRequest} {parent : Authorization.Plan}
    (done : ensureCICompanion environment job parent = .ok companion) :
    ∀ other ∈ companion, classifyPlan other = some other.risk := by
  unfold ensureCICompanion at done
  split at done
  · cases done
    simp
  split at done
  · cases done
    simp
  · simp only [peel, signPlan] at done
    obtain ⟨policy, _, _, _, _, ⟨digest, _, rfl⟩, _, _, rfl⟩ := done
    intro other member
    cases member
    exact companion_classifies parent policy digest _

/-- `ClassifyPlan` accepts what the server's `Create` commits exactly if the
declaration is of a kind that `Create` classifies by itself, or the table calls
its operations destructive. -/
theorem committed_plan_is_classifiable {environment : Environment} {readers : Readers} {author : AuthorScope}
    {request : PlanCreateRequest} {declaration : Declaration} {plan : Authorization.Plan}
    {companion : Option Authorization.Plan}
    (read : environment.declaration request.declarationID request.declarationRevision = .ok declaration)
    (known : ∀ operation ∈ declaration.operations, (operationRisk.lookup operation.operationType).isSome = true)
    (done : create (.production readers) environment author request = .ok (.created plan companion)) :
    (classifyPlan plan = some plan.risk ↔
      selfClassified declaration declaration.planned = true ∨ highestRiskIs .destructive declaration.planned = true) ∧
    ∀ other ∈ companion, classifyPlan other = some other.risk := by
  obtain ⟨extensions, found, same, done⟩ := create_created done
  rw [read] at same
  cases same
  obtain ⟨current, reason, classified, planned, sorted_, risk, replacement, exact, content, companions⟩ :=
    createPlan_created done
  refine ⟨?_, ensureCICompanion_classifies companions⟩
  obtain ⟨listed, numbered⟩ := planOperations_ok planned
  simp only [exactPlan, checks, List.isEmpty_eq_false_iff] at exact
  have reordered : plan.operations.Perm declaration.planned := by
    rw [listed]
    exact (List.perm_insertionSort bySequence declaration.operations).map _
  have tabled : Known plan.operations := by
    intro operation member
    obtain ⟨source, inside, rfl⟩ := List.mem_map.mp (reordered.mem_iff.mp member)
    exact known source inside
  have typed : Typed declaration plan.operations := by
    rw [listed]
    exact (typed_of_content content).of_desired
  have published : (declaration.declarationType == "ci.artifact.publish") = true →
      Settled .controlPlane plan.operations := by
    intro kind
    rw [listed]
    exact settles_publication (publication_of_content content) kind
  rw [← selfClassified_perm reordered]
  rcases classify_ok tabled typed published sorted_ with ⟨generic, configured, unreplaced⟩ | ⟨special, right⟩
  · -- the configured risk stays, and nothing is replaced
    rw [configured] at risk
    rw [unreplaced] at replacement
    have entries : ∀ operation, plan.operationRisk operation = operationRisk.lookup operation.operationType := by
      intro operation
      rw [operationRisk_eq, replacement]
      simp [tableRisk]
    have accepted := classifyPlan_iff numbered exact.1.1 exact.1.2 fun operation member => by
      rw [entries]
      exact tabled operation member
    rw [accepted, generic, highestRiskIs, ← reordered.any_eq, ← reordered.all_eq]
    simp only [entries, risk, Config.production, Bool.false_eq_true, false_or, checks, List.any_eq_true, Option.all_eq_true]
  · rw [← risk, ← replacement] at right
    have accepted := classifyPlan_of_right numbered exact.1.1 exact.1.2 right
    exact ⟨fun _ => .inl special, fun _ => accepted⟩

/-! ### Two declarations of one operation -/

def createdPlan : Except Failure Outcome → Option (Authorization.Plan × Option Authorization.Plan)
  | .ok (.created plan companion) => some (plan, companion)
  | _ => none

theorem createdPlan_eq {outcome : Except Failure Outcome} {pair : Authorization.Plan × Option Authorization.Plan}
    (made : createdPlan outcome = some pair) : outcome = .ok (.created pair.1 pair.2) := by
  unfold createdPlan at made
  split at made
  · cases made
    rfl
  · cases made

def sampleDeclaration (operationType adapterID : String) (extensions : List ContractExtension) : Declaration :=
  { declarationID := "declaration-a", declarationType := "operation.single", revision := 1, stateRevision := 7,
    recoveryEpoch := 1, status := .draft,
    operations := [⟨1, "operation-a", operationType, adapterID, "target-a", "input-a", "artifact-a", false, none⟩],
    extensions, maintenance := none, hostingLifecycle := none, serviceRecovery := none, serviceDeployment := none,
    ciJob := none, ciEnrollment := none, serviceImport := none, networkEndpoint := none,
    authorizationGrantBatch := none, hostAliasClaim := none }

def noReaders : Readers := ⟨none, none, none, none, none, none, none⟩

def agreeable (declaration : Declaration) : Environment :=
  { validators := ⟨fun _ => true, fun _ => true⟩, existing := fun _ => .ok none,
    declaration := fun _ _ => .ok declaration, reason := fun _ _ => .ok "reason-a", current := .ok (7, 1),
    fingerprint := fun _ _ => .ok "fingerprint-a", accessInputs := fun _ _ => none, clock := 100,
    planDigest := fun _ => some "sha256:0123456789abcdef0123456789abcdef", contract := fun _ => true,
    authorizationDigest := "", commit := fun _ _ => .ok (), deploymentPolicy := fun _ => .error .unclassified,
    commitCompanion := fun _ => .ok () }

def sampleCreate (declaration : Declaration) : Except Failure Outcome :=
  create (.production noReaders) (agreeable declaration) ⟨"operator-a", "local-os-peer"⟩
    ⟨"declaration-a", 1, 7, 1, "fingerprint-a", "key-a", declaration.extensions, true⟩

/-- Deleting a resource is destructive, as the server's configuration says. -/
theorem deletion_is_classifiable :
    ∃ plan companion, sampleCreate (sampleDeclaration "resource.delete" "local.resource" []) = .ok (.created plan companion) ∧
      classifyPlan plan = some plan.risk := by
  have made : (createdPlan (sampleCreate (sampleDeclaration "resource.delete" "local.resource" []))).isSome = true := by
    decide +kernel
  obtain ⟨pair, found⟩ := Option.isSome_iff_exists.mp made
  have done := createdPlan_eq found
  exact ⟨pair.1, pair.2, done, (committed_plan_is_classifiable rfl (by decide) done).1.mpr (.inr (by decide +kernel))⟩

/-- Creating a backup is routine, but its committed plan is called destructive,
and `ClassifyPlan` rejects it. -/
theorem backup_plan_is_unclassifiable :
    let declaration := sampleDeclaration "backup.local.create" "local.backup" [⟨"x-backup-policy", "policy-a"⟩]
    (declaration.operations.all fun operation => (operationRisk.lookup operation.operationType).isSome) = true ∧
      (createdPlan (sampleCreate declaration)).map (fun pair => (pair.1.risk, classifyPlan pair.1)) =
        some (.destructive, none) := by
  decide +kernel

end VskLabs.Planning

import VskLabs.Backup.Journal
import VskLabs.Backup.OffsiteRetirement

/-! Staging the retirement of an offsite generation: it is derived from a staged local
selection, shown by a dry run, planned, and staged with the committed plan. -/

namespace VskLabs.Backup
open Library

structure SurvivorKey where
  (pointID generationID referenceID : String)
  deriving DecidableEq

/-- `OffsiteRetirementIntent`; what the candidate leaves out is the same for the same catalog. -/
structure OffsiteIntent where
  candidate : OffsiteRetirementCandidate
  (lockAdminReferenceID retentionReferenceID : String)
  survivorKeys : List SurvivorKey
  (stateRevision recoveryEpoch : Int)
  deriving DecidableEq

structure StepBinding where
  (operationID adapterID targetID consumerID resolverID purposeID referenceID : String)
  (stateRevision recoveryEpoch : Int)
  deriving DecidableEq

/-- A row of `immutable_plans` with the credential bindings stored for its declaration.
`operationID` is the operation that names the generation and the digest, `declared`
stands for what `GetStepBindings` checks besides the revisions, `binds` for the same of
`planBindsOffsiteRetirement`. -/
structure OffsitePlan where
  (planID planDigest intentDigest operationID : String)
  bindings : List StepBinding
  (stateRevision recoveryEpoch : Int)
  (declared binds : Bool)

/-- What the catalog source shows: the ledger, the provider's rules, the repository key
of a generation and the references of the credential profile. -/
structure OffsiteView where
  ledger : OffsiteLedger
  observed : OffsiteObservation
  keyReferenceID : String → String
  (lockAdminReferenceID retentionReferenceID : String)

structure OffsiteInput where
  intentID : String
  (expectedStateRevision recoveryEpoch : Int)
  (lockAdminReferenceID retentionReferenceID : String)

/-- `admitted` stands for the request's own contract, `wellFormed` for the checks of the
intent that read no table, `exact` for the rows of the generation and its catalog. -/
structure OffsiteStageRequest extends OffsiteInput where
  (planID planDigest targetDigest credentialBindingDigest : String)
  (admitted wellFormed exact : Bool)

section Offsite

variable (view : OffsiteView) (digest : OffsiteIntent → String) (manifest : List StepBinding → String)
  (backups : Backups) (plans : List OffsitePlan)

/-- An empty reference in the profile matches every reference. -/
def matchesProfile (profile reference : String) : Bool := profile == "" || profile == reference

def derive (input : OffsiteInput) : Except Failure OffsiteIntent := do
  let staged ← require (backups.intents.find? input.intentID) (failed .resourceNotFound "local-retirement-intent")
  ensure (staged.selection.stateRevision == input.expectedStateRevision &&
    staged.selection.recoveryEpoch == input.recoveryEpoch) (failed .planStale "offsite-retirement-selection")
  let catalog ← (currentOffsiteRetirementCatalog view.ledger view.observed input.recoveryEpoch).mapError fun _ =>
    failed .prerequisiteBlocked "offsite-retirement-qualified-catalog"
  let candidate ← (selectOffsiteRetirement catalog (staged.selection.targets.map (·.pointID)) input.recoveryEpoch
    catalog.observedAt).mapError fun _ => failed .prerequisiteBlocked "offsite-retirement-dry-run"
  ensure (matchesProfile view.lockAdminReferenceID input.lockAdminReferenceID &&
    matchesProfile view.retentionReferenceID input.retentionReferenceID)
    (failed .authorizationDenied "offsite-retirement-credential-profile")
  let keys := candidate.survivorPointIDs.flatMap fun pointID => (catalog.generations.filter (·.sourcePointID == pointID)).map
    fun row => (⟨pointID, row.generationID, view.keyReferenceID row.generationID⟩ : SurvivorKey)
  ensure (keys.length == candidate.survivorPointIDs.length) (failed .prerequisiteBlocked "offsite-retirement-survivor-keys")
  return ⟨candidate, input.lockAdminReferenceID, input.retentionReferenceID, keys, input.expectedStateRevision,
    input.recoveryEpoch⟩

/-- `DryRun`, which shows the digest of the intent it derives. -/
def dryRunOffsite (input : OffsiteInput) : Except Failure String := (derive view backups input).map digest

/-- `CommitDeclarationAndPlan`: the plan is bound to the revision its own commit makes. -/
def commitOffsitePlan (plan : OffsitePlan) : Backups × List OffsitePlan :=
  ({ backups with stateRevision := backups.stateRevision + 1 },
    { plan with stateRevision := backups.stateRevision + 1, recoveryEpoch := backups.recoveryEpoch } :: plans)

/-- `GetStepBindings`. The bindings of a scheduled plan are not compared here, but they
are only stored with the plan's revision. -/
def getStepBindings (plan : OffsitePlan) : Except Failure (List StepBinding) := do
  ensure plan.declared (failed .prerequisiteBlocked "credential-binding-uncommitted")
  ensure (plan.bindings.all fun binding => binding.stateRevision == plan.stateRevision &&
    binding.recoveryEpoch == plan.recoveryEpoch) (failed .planStale "credential-binding")
  return plan.bindings.filter (·.operationID == plan.operationID)

/-- The references still to be seen. -/
structure Outstanding where
  (lock retention : Bool)
  keys : List String

def seeBinding (intent : OffsiteIntent) (left : Outstanding) (binding : StepBinding) : Option Outstanding :=
  if binding.adapterID != "r2.retention" || binding.targetID != intent.candidate.generationID ||
      binding.consumerID != "r2.retention" || binding.resolverID != "native-systemd" ||
      binding.stateRevision != intent.stateRevision || binding.recoveryEpoch != intent.recoveryEpoch then none
  else match binding.purposeID with
    | "lock-admin" =>
      if left.lock && binding.referenceID == intent.lockAdminReferenceID then some { left with lock := false } else none
    | "retention" =>
      if left.retention && binding.referenceID == intent.retentionReferenceID then some { left with retention := false }
      else none
    | "repository-key" =>
      if left.keys.contains binding.referenceID then some { left with keys := left.keys.filter (· != binding.referenceID) }
      else none
    | _ => none

def exactOffsiteCredentialBindings (bindings : List StepBinding) (intent : OffsiteIntent) : Bool :=
  (bindings.foldlM (seeBinding intent) ⟨true, true, intent.survivorKeys.map (·.referenceID)⟩).any fun left =>
    !left.lock && !left.retention && left.keys.isEmpty

def stageOffsiteRetirement (request : OffsiteStageRequest) (intent : OffsiteIntent) : Except Failure OffsiteIntent := do
  ensure request.wellFormed (failed .inputInvalid "offsite-retirement-intent")
  let plan ← require (plans.find? fun plan => plan.planID == request.planID && plan.planDigest == request.planDigest)
    (failed .planStale "offsite-retirement-plan")
  ensure ((getStepBindings plan).toOption.any fun bindings => bindings.length == 2 + intent.survivorKeys.length &&
    manifest bindings == request.credentialBindingDigest && exactOffsiteCredentialBindings bindings intent)
    (failed .integrityFailure "offsite-retirement-credential-bindings")
  ensure (atRevision backups ⟨intent.stateRevision, intent.recoveryEpoch⟩) (failed .planStale "offsite-retirement-intent")
  ensure (plan.stateRevision == intent.stateRevision && plan.recoveryEpoch == intent.recoveryEpoch && request.exact)
    (failed .planStale "offsite-retirement-generation")
  ensure (plan.binds && plan.intentDigest == digest intent) (failed .integrityFailure "offsite-retirement-plan")
  return intent

/-- `Stage`. -/
def stageOffsite (request : OffsiteStageRequest) : Except Failure OffsiteIntent := do
  ensure request.admitted (failed .inputInvalid "offsite-retirement-stage")
  let intent ← derive view backups request.toOffsiteInput
  ensure (request.targetDigest == digest intent) (failed .planStale "offsite-retirement-intent")
  stageOffsiteRetirement digest manifest backups plans request intent

end Offsite

section Dates

variable {backups next : Backups} {now : Instant} {call : Call}

/-- No selection is bound to a revision that is still to come. -/
def Dated (backups : Backups) : Prop :=
  ∀ intent ∈ backups.intents.rows, intent.selection.stateRevision ≤ backups.stateRevision

theorem Dated.transact (dated : Dated backups) (done : call.transact backups now = .ok next) : Dated next := by
  cases Call.transact_effect done with
  | stage selection intents canonical current added =>
    intro intent member
    rcases (Table.mem_insert? added).mp member with old | rfl
    · exact dated intent old
    · simp only [atRevision, checks] at current
      exact le_of_eq current.1.symm
  | advanceRevision =>
    intro intent member
    have kept := dated intent member
    change intent.selection.stateRevision ≤ backups.stateRevision + 1
    omega
  | _ => exact dated

theorem dated_after (clock : Instant) (history : List Event) : Dated (after clock history).backups := by
  refine @execute_invariant _ _ _ _ _ (fun moment : Moment => Dated moment.backups) ?_ ?_
  · intro intent member
    cases member
  · intro moment event dated
    cases event with
    | tick elapsed => exact dated
    | call age made => exact made.perform_cases Dated dated fun next done => dated.transact done

end Dates

section Refusal

variable {view : OffsiteView} {backups : Backups} {input : OffsiteInput} {intent : OffsiteIntent} {bindings : List StepBinding}
  {plan : OffsitePlan}

theorem derive_dated (derived : derive view backups input = .ok intent) :
    ∃ staged ∈ backups.intents.rows, staged.selection.stateRevision = intent.stateRevision := by
  unfold derive at derived
  simp only [↓ensure_bind, peel, mapError_eq_ok, checks] at derived
  obtain ⟨staged, found, ⟨revision, epoch⟩, catalog, read, candidate, selected, profile, keys, rfl⟩ := derived
  exact ⟨staged, Table.mem_of_find? found, revision⟩

theorem derive_congr {later : Backups} (same : later.intents = backups.intents) :
    derive view later input = derive view backups input := by
  rw [derive, derive, same]

theorem exactOffsiteCredentialBindings_stale (stale : ∀ binding ∈ bindings, binding.stateRevision ≠ intent.stateRevision) :
    exactOffsiteCredentialBindings bindings intent = false := by
  cases bindings with
  | nil => rfl
  | cons first rest => simp [exactOffsiteCredentialBindings, seeBinding, stale first (.head _)]

/-- The bindings of a plan carry its revision. -/
theorem getStepBindings_dated (read : getStepBindings plan = .ok bindings) :
    ∀ binding ∈ bindings, binding.stateRevision = plan.stateRevision := by
  simp only [getStepBindings, peel, List.all_eq_true, Bool.and_eq_true, beq_iff_eq] at read
  obtain ⟨_, _, _, dated, rfl⟩ := read
  exact fun binding member => (dated binding (List.mem_filter.mp member).1).1

/-- No bindings of a plan of another revision are those of the intent. -/
theorem bindings_refused {accepts : List StepBinding → Bool} (moved : plan.stateRevision ≠ intent.stateRevision) :
    ((getStepBindings plan).toOption.any fun bindings => accepts bindings &&
      exactOffsiteCredentialBindings bindings intent) = false := by
  cases read : getStepBindings plan with
  | error failure => rfl
  | ok bindings =>
    have stale := fun binding member => (getStepBindings_dated read binding member).trans_ne moved
    simp [Except.toOption, exactOffsiteCredentialBindings_stale stale]

end Refusal

/-- Committing the plan moves the revision past the one its intent is bound to. Stage
derives the intent of the dry run and then refuses the plan's credential bindings, which
carry the plan's revision, whatever else it checks. -/
theorem offsite_stage_refuses_its_plan (view : OffsiteView) (digest : OffsiteIntent → String)
    (manifest : List StepBinding → String) (clock : Instant) (history : List Event) (plans : List OffsitePlan)
    (plan : OffsitePlan) (request : OffsiteStageRequest) (shown : String)
    (named : request.planID = plan.planID ∧ request.planDigest = plan.planDigest)
    (dry : dryRunOffsite view digest (after clock history).backups request.toOffsiteInput = .ok shown) :
    let committed := commitOffsitePlan (after clock history).backups plans plan
    dryRunOffsite view digest committed.1 request.toOffsiteInput = .ok shown ∧
      (∀ staged, stageOffsite view digest manifest committed.1 committed.2 request ≠ .ok staged) ∧
      (request.admitted = true → request.wellFormed = true → request.targetDigest = shown →
        stageOffsite view digest manifest committed.1 committed.2 request =
          .error (failed .integrityFailure "offsite-retirement-credential-bindings")) := by
  intro committed
  obtain ⟨intent, derived, rfl⟩ := map_eq_ok.mp dry
  have again : derive view committed.1 request.toOffsiteInput = .ok intent := (derive_congr rfl).trans derived
  obtain ⟨bound, found, moved⟩ : ∃ bound, committed.2.find? (fun plan => plan.planID == request.planID &&
      plan.planDigest == request.planDigest) = some bound ∧ bound.stateRevision ≠ intent.stateRevision := by
    refine ⟨_, List.find?_cons_of_pos (by simp [named]), ?_⟩
    obtain ⟨staged, member, same⟩ := derive_dated derived
    have dated := dated_after clock history staged member
    change (after clock history).backups.stateRevision + 1 ≠ intent.stateRevision
    omega
  refine ⟨by rw [dryRunOffsite, again]; rfl, ?_, ?_⟩
  · intro staged done
    unfold stageOffsite stageOffsiteRetirement at done
    simp only [again, found, ok_bind, require, ↓ensure_bind] at done
    obtain ⟨admitted, target, wellFormed, exact, _⟩ := done
    rw [bindings_refused moved] at exact
    cases exact
  · intro admitted wellFormed target
    simp only [stageOffsite, stageOffsiteRetirement, again, found, admitted, wellFormed, target, ensure, require, ok_bind,
      bindings_refused moved, beq_self_eq_true, if_true, Bool.false_eq_true, if_false, error_bind]

section Example

/-- Two generations, of the point that is retired and of the one that stays. -/
def offsiteView : OffsiteView where
  ledger := ledgerAfter [.appendGeneration (generationOf "1" 1), .appendProof "1",
    .appendGeneration (generationOf "2" (2 * offsiteRetentionWindow)), .appendProof "2", .advanceLastGood 0 "2"]
  observed := observedWith ["1", "2"]
  keyReferenceID generationID := "key-" ++ generationID
  lockAdminReferenceID := "lock"
  retentionReferenceID := "retention"

def offsiteIntent : OffsiteIntent :=
  ⟨⟨"1", "point-1", ["point-2"], 0⟩, "lock", "retention", [⟨"point-2", "2", "key-2"⟩], 1, 0⟩

def offsiteDigest (intent : OffsiteIntent) : String := intent.candidate.generationID ++ "@" ++ toString intent.stateRevision

def bindingsAt (revision : Int) : List StepBinding :=
  [("lock-admin", "lock"), ("retention", "retention"), ("repository-key", "key-2")].map fun (purpose, reference) =>
    ⟨"operation", "r2.retention", "1", "r2.retention", "native-systemd", purpose, reference, revision, 0⟩

/-- The bindings are those of the revision the plan will have. -/
def offsitePlan : OffsitePlan := ⟨"offsite-plan", "offsite-plan-digest", "1@1", "operation", bindingsAt 2, 0, 0, true, true⟩

def offsiteRequest : OffsiteStageRequest :=
  ⟨⟨"intent", 1, 0, "lock", "retention"⟩, "offsite-plan", "offsite-plan-digest", "1@1", "manifest", true, true, true⟩

/-- Only the revision keeps the bindings from being those of the intent. -/
theorem planned_offsite_retirement_refused :
    (derive offsiteView (after 0 retiring).backups offsiteRequest.toOffsiteInput = .ok offsiteIntent ∧
      exactOffsiteCredentialBindings (bindingsAt 1) offsiteIntent = true) ∧
    (commitOffsitePlan (after 0 retiring).backups [] offsitePlan).1.stateRevision = 2 ∧
    stageOffsite offsiteView offsiteDigest (fun _ => "manifest") (commitOffsitePlan (after 0 retiring).backups [] offsitePlan).1
      (commitOffsitePlan (after 0 retiring).backups [] offsitePlan).2 offsiteRequest =
        .error (failed .integrityFailure "offsite-retirement-credential-bindings") := by
  refine ⟨⟨?_, ?_⟩, ?_, ?_⟩ <;> decide +kernel

theorem dry_run_repeats_after_commit :
    dryRunOffsite offsiteView offsiteDigest (commitOffsitePlan (after 0 retiring).backups [] offsitePlan).1
      offsiteRequest.toOffsiteInput = .ok "1@1" :=
  (offsite_stage_refuses_its_plan offsiteView offsiteDigest (fun _ => "manifest") 0 retiring [] offsitePlan offsiteRequest
    "1@1" ⟨rfl, rfl⟩ (by decide +kernel)).1

end Example

end VskLabs.Backup

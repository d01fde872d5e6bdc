import VskLabs.Run.Obedience

/-! The entry points keep the discipline: submission, resumption, cancellation
and reconciliation of the engine, and the protocol of the external executors. -/

namespace VskLabs
open Library Program

-- with these rules simp walks through the calls of a job
attribute [local simp] issue clock getRun mutateRun transitionRun obedient_getRun Permitted credible
  justified_iff phase_cons touch forall_except Option.forall whatever

variable {plan : Plan} {executorID leaseID : String} {now : Time} {current run : Run}
  {runs : List Run}

namespace Engine

variable {config : EngineConfig} {resumes : Bool} {past : Past}

theorem createRun_obedient {request : RunCreateRequest}
    (submitted : RunRepository.admissible request = true → Submitted past request plan) :
    Obedient resumes (createRun request) past fun result later => ∀ run created, result = .ok (run, created) →
      Saw later run ∧ (created = true → run = request.run) ∧
        (run.planID = request.run.planID ∨ run.planID = request.request.reference.planID) := by
  simp [createRun, Saw, delivered]
  intro admissible
  have submitted := submitted admissible
  exact ⟨⟨plan, { submitted with read := .tail _ submitted.read }⟩, fun _ same => .inr same⟩

theorem createAndStart_obedient {controllerSetup : Bool} {request : SubmitRequest}
    (read : ReadPlan past plan) (reference : request.reference.planID = plan.planID) :
    Obedient resumes (createAndStart config controllerSetup plan request executorID now) past whatever := by
  have untouched : ∀ step ∈ (submittedRun config plan request executorID now).steps,
      step.status = .queued ∧ step.effectState = .notStarted := by
    intro step member
    obtain ⟨operation, _, rfl⟩ := List.mem_map.mp member
    exact ⟨rfl, rfl⟩
  refine (createRun_obedient fun admissible =>
    (⟨read, admissible, rfl, rfl, reference, untouched⟩ : Submitted past _ plan)).then fun result later made longer => ?_
  rcases result with failure | ⟨run, created⟩
  · trivial
  obtain ⟨saw, fresh, planned⟩ := made run created rfl
  have planID : run.planID = plan.planID := by
    rcases planned with same | same
    · exact same
    · exact same.trans reference
  have queued (unsettled : created = false → run.status = .queued) : run.status = .queued := by
    cases created with
    | true => rw [fresh rfl]; rfl
    | false => exact unsettled rfl
  simp
  intro unsettled _ central _
  have central : plan.executorMode = .central := by
    cases mode : plan.executorMode with
    | central => rfl
    | external => exact absurd mode central
  refine start_obedient (saw.grow (by simp)) (fun _ => .inl ?_) fun interrupted => ?_
  · exact ⟨plan, run, .tail _ (longer read), central, saw.grow (by simp), rfl, planID⟩
  · rw [queued unsettled] at interrupted
    cases interrupted

theorem admitExternalCredentials_neutral (plan : Plan) : (admitExternalCredentials config plan).Issues neutral := by
  simp [admitExternalCredentials, neutral]

theorem verifyAdmission_neutral (plan : Plan) (decision : AuthorizationDecision) (acknowledgementID : Option String) :
    (verifyAdmission plan decision acknowledgementID).Issues neutral := by
  simp [verifyAdmission, neutral]

theorem submit_obedient (controllerSetup : Bool) (request : SubmitRequest) :
    Obedient resumes (submit config controllerSetup request) past whatever := by
  simp [submit]
  intro _ _ plan believed _ _ _ _ _
  refine Obedient.quietly (admitExternalCredentials_neutral plan) fun credentials admitted quiet => ?_
  rcases credentials with failure | _
  · trivial
  refine Obedient.quietly (verifyAdmission_neutral plan _ _) fun admission verified calm => ?_
  rcases admission with failure | _
  · trivial
  refine Obedient.quietly (validateScheduled_neutral plan) fun scheduled checked still => ?_
  rcases scheduled with failure | _
  · trivial
  rcases planExecutorID plan with failure | executorID
  · simp
  simp
  refine fun _ now _ => createAndStart_obedient (.tail _ (((quiet.trans calm).trans still).subset ?_)) believed.symm
  rw [← believed]
  exact .head _

theorem resumeAs_obedient (runID : String) : Obedient true (resumeAs config runID) past whatever := by
  simp [resumeAs]
  intro run _ _ interrupted _ plan _ _
  refine start_obedient ?_ (fun other => absurd interrupted other) fun _ => rfl
  exact ⟨⟨.getRun runID, .ok run⟩, by simp, .head _⟩

theorem cancelAs_obedient (runID : String) : Obedient resumes (cancelAs runID) past whatever := by
  simp [cancelAs]
  intro run _ now
  cases run.status <;> simp

variable {operation : RunOperation}

theorem operate_obedient {runID : String}
    (resumption : operation = .resume → resumes = true) :
    Obedient resumes (operate config operation runID current) past whatever := by
  cases operation with
  | cancel => simp [operate, cancelAs_obedient]
  | resume =>
    rw [resumption rfl]
    cases shown : current.status <;> simp [operate, shown, resumeAs_obedient]

theorem mutateAs_obedient {reference : RunReferenceRequest}
    (resumption : operation = .resume → resumes = true) :
    Obedient resumes (mutateAs config operation reference) past whatever := by
  simp [mutateAs]
  intro _ current _ _ _ _
  refine (operate_obedient resumption).then fun outcome _ _ _ => ?_
  obtain ⟨_ | run, failure⟩ := outcome <;> simp

structure Grounded (past : Past) (runID : String) (visited : List RunStep) (verdict : Verdict) : Prop where
  ambiguous : verdict.ambiguous = true → PartialSeen past runID
  allSucceeded : verdict.allSucceeded = true → ∀ step ∈ visited, step.status = .succeeded

theorem classify_obedient {visited remaining : List RunStep} {verdict : Verdict}
    (saw : Saw past run) (split : run.steps = visited ++ remaining) (grounded : Grounded past run.runID visited verdict) :
    Obedient resumes (classify run.runID now remaining verdict) past fun result later =>
      ∀ reached, result = .ok reached → Grounded later run.runID run.steps reached := by
  induction remaining generalizing past visited verdict with
  | nil =>
    rintro _ ⟨⟩
    rw [split, List.append_nil]
    exact grounded
  | cons step rest ih =>
    have split : run.steps = (visited ++ [step]) ++ rest := by simp [split]
    have member : step ∈ run.steps := by simp [split]
    -- the verdict with this step counted in
    have succeeded (all : (verdict.allSucceeded && step.status == .succeeded && step.effectState == .verified) = true) :
        ∀ other ∈ visited ++ [step], other.status = .succeeded := by
      simp only [checks] at all
      intro other inside
      rcases List.mem_append.mp inside with old | new
      · exact grounded.allSucceeded all.1.1 other old
      · rw [List.mem_singleton.mp new]
        exact all.1.2
    unfold classify
    dsimp only
    split
    next ambiguous =>
      refine ih saw split ⟨fun _ => .inl ⟨run, saw, rfl, step, member, by simpa using ambiguous⟩, succeeded⟩
    split
    · exact ih saw split ⟨grounded.ambiguous, succeeded⟩
    split
    · refine Obedient.mutate trivial (by simp) fun marked later told => ?_
      exact ih (saw.grow told.inside) split ⟨fun _ => .inr (.inl ⟨step.stepID, now, told.finished⟩), succeeded⟩
    · exact ih saw split ⟨grounded.ambiguous, succeeded⟩

theorem allDone_of_succeeded (saw : Saw past run) (all : ∀ step ∈ run.steps, step.status = .succeeded) :
    AllDone past run.runID := by
  refine ⟨run, saw, rfl, fun step _ => ?_⟩
  cases found : findStep run step.stepID with
  | none => exact .inr (.inr ⟨run, saw, rfl, found⟩)
  | some live => exact .inl ⟨run, live, saw, rfl, found, all live (List.mem_of_find?_eq_some found)⟩

theorem reconcileRun_obedient (saw : Saw past run) :
    Obedient resumes (reconcileRun config run) past whatever := by
  simp [reconcileRun, -transitionRun]
  intro now _ _ _
  refine (classify_obedient (saw.grow fun _ member => by simp [member]) (List.nil_append _).symm ⟨by simp, by simp⟩).then
    fun result last reached longer => ?_
  rcases result with failure | verdict
  · trivial
  have grounded := reached verdict rfl
  refine Obedient.mutate ?_ (by simp) (by simp)
  unfold Verdict.transition
  split
  next ambiguous => exact ⟨by simp, by simp, fun _ => grounded.ambiguous ambiguous⟩
  split
  · simp
  split
  next succeeded =>
    have saw := saw.grow (fun event member => longer (by simp [member]) : past ⊆ last)
    exact ⟨by simp, fun _ => ⟨rfl, allDone_of_succeeded saw (grounded.allSucceeded succeeded)⟩, by simp⟩
  · simp

theorem reconcileRuns_obedient (saw : ∀ run ∈ runs, Saw past run) :
    Obedient resumes (reconcileRuns config runs) past whatever := by
  induction runs generalizing past with
  | nil => trivial
  | cons run rest ih =>
    obtain ⟨first, others⟩ := List.forall_mem_cons.mp saw
    refine (reconcileRun_obedient first).then fun result later _ longer => ?_
    rcases result with failure | _
    · trivial
    · exact ih fun run member => (others run member).grow longer

theorem reconcile_obedient : Obedient resumes (reconcile config) past whatever := by
  simp [reconcile]
  exact fun runs => reconcileRuns_obedient fun run member => ⟨_, .head _, member⟩

theorem startup_obedient : Obedient resumes (startup config) past whatever := by
  simp [startup, reconcile_obedient]

end Engine

namespace ExternalExecutor

variable {config : EngineConfig} {resumes : Bool} {past : Past}

variable {step : RunStep} {lease : ExecutorLease}

theorem recoveryRequired_obedient (saw : Saw past current) :
    Obedient resumes (recoveryRequired current step lease) past whatever := by
  have marked : Obedient resumes (do
      if step.status == .running && (step.effectState == .intentRecorded || step.effectState == .receiptRecorded) then
        let now ← clock
        mutateRun (.markStepUnknown current.runID step.stepID now)
      else return .ok current : Job (Except Failure Run)) past
        fun result later => ∀ updated, result = .ok updated → Saw later updated := by
    split
    · simp [Saw, delivered]
    · simpa using saw
  refine marked.then fun result later known _ => ?_
  rcases result with failure | updated
  · trivial
  have moved : Obedient resumes (do
      if updated.status == .running &&
          (findStep updated step.stepID).any fun updated => updated.effectState == .effectUnknown then
        Engine.leavePartial updated.runID true
      else return .ok updated : Job (Except Failure Run)) later whatever := by
    split
    next unknown =>
      simp only [checks, Option.any_eq_true_iff_get] at unknown
      obtain ⟨_, found, unknown⟩ := unknown
      simp [Engine.leavePartial]
      refine fun now => .inl ⟨updated, (known updated rfl).grow (by simp), rfl, _, ?_, .inr unknown⟩
      exact List.mem_of_find?_eq_some (Option.some_get found).symm
    · trivial
  refine moved.then fun result last _ _ => ?_
  rcases result with failure | _ <;> simp

theorem expire_neutral (now : Time) : (expire now).Issues neutral := by
  simp [expire, neutral]

theorem recoverLeases_obedient (leases : List ExecutorLease) :
    Obedient resumes (recoverLeases leases) past whatever := by
  induction leases generalizing past with
  | nil => trivial
  | cons lease rest ih =>
    simp [recoverLeases]
    intro current _
    split
    · exact ih
    split
    · exact ih
    refine (recoveryRequired_obedient ⟨_, .head _, .head _⟩).then fun failure _ _ _ => ?_
    simp [ih]

theorem reconcile_obedient : Obedient resumes reconcile past whatever := by
  refine Obedient.quietly clock_neutral fun now _ _ => Obedient.quietly (expire_neutral now) fun expired _ _ => ?_
  rcases expired with failure | leases
  · trivial
  · exact recoverLeases_obedient leases

theorem recordAuthorizationDenial_neutral (principal : Principal) (reason target : String) :
    (recordAuthorizationDenial principal reason target).Issues neutral := by
  cases attributed : externalAttribution principal <;> simp [recordAuthorizationDenial, attributed, neutral]

theorem authorizationDenied_neutral (principal : Principal) (reason target : String) :
    (authorizationDenied principal reason target).Issues neutral := by
  simp [authorizationDenied, Issues.bind, recordAuthorizationDenial_neutral]

theorem refused_neutral {α : Type} (principal : Principal) (reason target : String) :
    (do return .error (← authorizationDenied principal reason target) : Job (Except Failure α)).Issues neutral :=
  (authorizationDenied_neutral principal reason target).bind fun _ => trivial

theorem refused_obedient {α : Type} (principal : Principal) (reason target : String) :
    Obedient resumes (do return .error (← authorizationDenied principal reason target) : Job (Except Failure α)) past whatever :=
  (obedient_of_neutral (refused_neutral principal reason target)).weaken fun _ _ _ => trivial

theorem verifyJob_neutral (caller : Caller) (plan : Plan) (step : RunStep) : (verifyJob caller plan step).Issues neutral := by
  cases proven : caller.proof <;> simp [verifyJob, proven, neutral]

theorem verifyDeploymentJob_neutral (caller : Caller) (plan : Plan) (current : Run) (step : RunStep) (receipt : Bool) :
    (verifyDeploymentJob config caller plan current step receipt).Issues neutral := by
  simp [verifyDeploymentJob, neutral, Issues.bind, refused_neutral, verifyJob_neutral]

theorem Unoccupied.extends {past later : Past} (longer : Extends past later)
    (free : Unoccupied past executorID) : Unoccupied later executorID := by
  obtain ⟨runs, read, idle⟩ := free
  exact ⟨runs, by rw [longer.lastRead]; exact read, idle⟩

variable {caller : Caller} {request : ExecutorClaimRequest}

theorem claimStep_obedient
    (free : Unoccupied past request.executorID) :
    Obedient resumes (claimStep config caller request plan current step) past whatever := by
  simp only [claimStep, obeys_ite, refused_obedient, implies_true, true_and]
  intro _ _
  refine Obedient.quietly (verifyDeploymentJob_neutral _ _ _ _ _) fun verified later quiet => ?_
  rcases verified with failure | _
  · trivial
  have free := Unoccupied.extends quiet free
  cases externalAttribution caller.principal <;> simp
  exact fun _ _ _ _ _ => ⟨free, fun _ _ => trivial⟩

theorem selectWork_obedient
    (free : Unoccupied past request.executorID) :
    Obedient resumes (selectWork config caller request runs) past whatever := by
  induction runs generalizing past with
  | nil => trivial
  | cons current rest ih =>
    simp [selectWork, ih free]
    intro _ _ _ _ _ plan _ _ _
    split
    · exact ih free
    split
    · exact ih free
    · exact claimStep_obedient free

theorem claim_obedient (caller : Caller) (request : ExecutorClaimRequest) :
    Obedient resumes (claim config caller request) past whatever := by
  simp [claim]
  intro _ _
  refine reconcile_obedient.then fun recovered later _ _ => ?_
  rcases recovered with failure | _
  · trivial
  simp
  intro runs idle
  refine selectWork_obedient ⟨runs, rfl, fun run member => ?_⟩
  exact idle run member

structure BoundLease.Seen (past : Past) (leaseID : String) (bound : BoundLease) : Prop where
  read : ⟨.getLease bound.lease.leaseID, .ok bound.lease⟩ ∈ past
  leaseID : bound.lease.leaseID = leaseID
  saw : Saw past bound.current
  runID : bound.current.runID = bound.lease.runID
  stepID : bound.step.stepID = bound.lease.stepID

variable {bound : BoundLease}

theorem BoundLease.Seen.grow {later : Past} (inside : past ⊆ later)
    (seen : bound.Seen past leaseID) : bound.Seen later leaseID :=
  { seen with read := inside seen.read, saw := seen.saw.grow inside }

theorem boundLease_obedient (caller : Caller) (leaseID : String) (evidence : List ContractExtension) :
    Obedient resumes (boundLease caller leaseID evidence) past fun result later =>
      ∀ bound, result = .ok bound → bound.Seen later leaseID := by
  simp [boundLease]
  rintro _ lease rfl current ofRun plan _
  split
  · simp
  next step located =>
    simp
    intro _
    constructor
    · intro _
      refine Obedient.quietly (authorizationDenied_neutral _ _ _) fun failure _ _ => by simp
    · exact fun _ => {
        read := by simp
        leaseID := rfl
        saw := ⟨⟨.getRun lease.runID, .ok current⟩, by simp, .head _⟩
        runID := ofRun
        stepID := findStep_stepID located }

theorem renew_obedient (caller : Caller) (request : ExecutorRenewRequest) :
    Obedient resumes (renew config caller request) past whatever := by
  simp [renew]
  intro _
  refine reconcile_obedient.then fun recovered _ _ _ => ?_
  rcases recovered with failure | _
  · trivial
  refine (boundLease_obedient caller _ _).then fun result _ _ _ => ?_
  rcases result with failure | ⟨lease, current, plan, step⟩
  · trivial
  simp [refused_obedient]
  intro _ _ _ _ _
  refine Obedient.quietly (verifyDeploymentJob_neutral _ _ _ _ _) fun job _ _ => ?_
  cases externalAttribution caller.principal <;> cases job <;> simp
  exact fun _ _ _ => ⟨trivial, fun _ _ => trivial⟩

variable {receipt : ExecutionReceipt}

theorem closeReceipt_obedient {updated : Run}
    (saw : Saw past updated) : Obedient resumes (closeReceipt config receipt lease updated now) past whatever := by
  simp [closeReceipt]
  intro _ _ _ verified
  simp only [allStepsVerified, checks] at verified
  exact Engine.allDone_of_succeeded (saw.grow (by simp)) fun step member => (verified.2 step member).1

theorem settleReceipt_obedient {operation : Operation}
    {bindingExact : Bool} (seen : bound.Seen past leaseID)
    (recorded : bindingExact = true → ∃ request reply, ⟨.recordExternalReceipt ⟨request, now⟩, .ok reply⟩ ∈ past ∧
      request.receipt = receipt ∧ validExecutionReceiptBinding bound.lease receipt = true) :
    Obedient resumes (settleReceipt config receipt bound operation bindingExact now) past whatever := by
  unfold settleReceipt
  dsimp only
  split
  · exact (recoveryRequired_obedient seen.saw).then fun _ _ _ _ => trivial
  split
  · split
    · exact (recoveryRequired_obedient seen.saw).then fun _ _ _ _ => trivial
    · trivial
  refine Obedient.call trivial fun verified _ => ?_
  obtain ⟨verification, verifyFailure⟩ := verified
  have seen := seen.grow (List.subset_cons_self
    ⟨.verifyReceipt operation receipt.status receipt.resultDigest, (verification, verifyFailure)⟩ past)
  dsimp only
  split
  · exact (recoveryRequired_obedient seen.saw).then fun _ _ _ _ => trivial
  next clear =>
    simp only [Bool.or_eq_true, Bool.not_eq_true', not_or, Bool.not_eq_false, Option.isSome_iff_ne_none, ne_eq,
      not_not] at clear
    obtain ⟨⟨⟨⟨live, rfl⟩, _⟩, verified⟩, _⟩ := clear
    simp only [checks] at live
    obtain ⟨⟨bound_exact, active⟩, early⟩ := live
    obtain ⟨request, reply, recorded, same, binding⟩ := recorded bound_exact
    have permitted : Verified (⟨.verifyReceipt operation receipt.status receipt.resultDigest, (verification, none)⟩ :: past)
        ⟨bound.current.runID, bound.step.stepID, bound.lease.leaseID, receipt, receipt.status, .verified,
          verification.digest, verification.changed, now⟩ bound.lease ⟨request, now⟩ := {
      read := seen.read
      active := active
      recorded := ⟨reply, .tail _ recorded⟩
      receipt := same
      binding := binding
      early := early
      verified := ⟨operation, verification, verified, .head _⟩
      leaseID := rfl
      runID := seen.runID
      stepID := seen.stepID
      status := rfl }
    exact Obedient.mutate (.inr ⟨_, _, permitted⟩) (by simp) fun updated last told => closeReceipt_obedient told.saw

theorem submitReceipt_obedient (caller : Caller) (request : ExecutionReceiptRequest) :
    Obedient resumes (submitReceipt config caller request) past whatever := by
  unfold submitReceipt
  split
  · trivial
  refine (boundLease_obedient caller _ _).then fun result read known _ => ?_
  rcases result with failure | bound
  · trivial
  simp
  intro _
  refine Obedient.quietly (verifyDeploymentJob_neutral _ _ _ _ _) fun job later quiet => ?_
  rcases job with failure | _
  · trivial
  rcases exactOperation bound.plan bound.step with failure | operation
  · trivial
  rcases externalAttribution caller.principal with failure | _
  · simp
  simp
  intro handle _ now
  have seen := (known bound rfl).grow (fun event member => by simp [quiet.subset (.tail _ member)] :
    read ⊆ ⟨.clock, now⟩ :: ⟨.resolveAdapter operation.adapterID, .ok handle⟩ :: later)
  constructor
  · intro _ binding reply
    refine settleReceipt_obedient (seen.grow (by simp)) fun _ => ⟨request, reply, .head _, rfl, binding⟩
  · intro _
    refine Obedient.quietly (recordAuthorizationDenial_neutral _ _ _) fun denied _ calm => ?_
    rcases denied with failure | _
    · trivial
    · exact settleReceipt_obedient (seen.grow calm.subset) (by simp)

theorem managedContext_obedient (planID : String) : Obedient resumes (managedContext config planID) past whatever := by
  simp [managedContext]
  intro _ plan _ _ _ runs
  split
  · split <;> simp
  · trivial

theorem managed_obedient {α : Type} {planID : String} {refuse : Failure → α} {job : Caller → Job α}
    (obedient : ∀ caller later, Obedient resumes (job caller) later whatever) :
    Obedient resumes (do
      match ← managedContext config planID with
      | .error failure => return refuse failure
      | .ok caller => job caller) past whatever := by
  refine (managedContext_obedient planID).then fun context later _ _ => ?_
  cases context <;> simp [obedient]

theorem claimManaged_obedient (planID : String) (request : ExecutorClaimRequest) :
    Obedient resumes (claimManaged config planID request) past whatever :=
  managed_obedient fun caller _ => claim_obedient caller request

theorem renewManaged_obedient (request : ExecutorRenewRequest) :
    Obedient resumes (renewManaged config request) past whatever := by
  simp [renewManaged]
  exact fun _ _ => managed_obedient fun caller _ => renew_obedient caller request

theorem submitManagedReceipt_obedient (request : ExecutionReceiptRequest) :
    Obedient resumes (submitManagedReceipt config request) past whatever := by
  simp [submitManagedReceipt]
  exact fun _ _ => managed_obedient fun caller _ => submitReceipt_obedient caller request

end ExternalExecutor

def EntryPoint.resumes : EntryPoint → Bool
  | .resumeAs _ | .mutateAs .resume _ => true
  | _ => false

theorem EntryPoint.program_obedient {config : EngineConfig} {allowed : Bool} (entry : EntryPoint)
    (may : entry.resumes = true → allowed = true) : Obedient allowed (entry.program config) [] whatever := by
  have ignored {α : Type} {job : Job α} (obedient : Obedient allowed job [] whatever) :
      Obedient allowed (do let _ ← job) [] whatever := obedient.then fun _ _ _ _ => trivial
  cases entry with
  | submit request => exact ignored (Engine.submit_obedient false request)
  | submitControllerSetup request => exact ignored (Engine.submit_obedient true request)
  | resumeAs runID =>
    cases may rfl
    exact ignored (Engine.resumeAs_obedient runID)
  | cancelAs runID => exact ignored (Engine.cancelAs_obedient runID)
  | mutateAs operation reference => exact ignored (Engine.mutateAs_obedient fun resume => may (by rw [resume]; rfl))
  | reconcile => exact ignored Engine.reconcile_obedient
  | startup => exact ignored Engine.startup_obedient
  | claim principal request => exact ignored (ExternalExecutor.claim_obedient _ request)
  | renew principal request => exact ignored (ExternalExecutor.renew_obedient _ request)
  | submitReceipt principal request => exact ignored (ExternalExecutor.submitReceipt_obedient _ request)
  | claimManaged planID request => exact ignored (ExternalExecutor.claimManaged_obedient planID request)
  | renewManaged request => exact ignored (ExternalExecutor.renewManaged_obedient request)
  | submitManagedReceipt request => exact ignored (ExternalExecutor.submitManagedReceipt_obedient request)
  | reconcileLeases => exact ignored ExternalExecutor.reconcile_obedient
  | advanceState => exact ⟨trivial, fun _ _ => trivial⟩
  | insertReference row => exact ⟨trivial, fun _ _ => trivial⟩

end VskLabs

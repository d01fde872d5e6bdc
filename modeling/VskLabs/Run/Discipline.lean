import VskLabs.Run.System
import Mathlib.Tactic.MkIffOfInductiveProp

/-! The discipline of the programs: what each of them has seen by the time it
issues a call. A permission speaks about the thread's own calls and replies
only, so it says nothing about what the other threads did meanwhile. -/

namespace VskLabs
open Library

abbrev Past := List (Event Call Reply)

def credible : (query : Call) → Reply query → Prop
  | .getRun runID, .ok run => run.runID = runID
  | .mutate mutation, .ok (some run) => run.runID = mutation.runID
  | .createRun request, .ok (some run) => run = request.run
  | .existingRun _ digest, .ok (some run) => run.planID = digest.reference.planID
  | .getPlan planID, .ok plan => plan.planID = planID
  | .getLease leaseID, .ok lease => lease.leaseID = leaseID
  | _, _ => True

def delivered : Event Call Reply → List Run
  | ⟨.getRun _, .ok run⟩ => [run]
  | ⟨.mutate _, .ok (some run)⟩ => [run]
  | ⟨.existingRun _ _, .ok (some run)⟩ => [run]
  | ⟨.createRun _, .ok (some run)⟩ => [run]
  | ⟨.activeRuns, .ok runs⟩ => runs
  | _ => []

def Saw (past : Past) (run : Run) : Prop := ∃ event ∈ past, run ∈ delivered event

def Done (past : Past) (mutation : Mutation) : Prop := ∃ result, ⟨.mutate mutation, .ok result⟩ ∈ past

def ReadPlan (past : Past) (plan : Plan) : Prop := ⟨.getPlan plan.planID, .ok plan⟩ ∈ past

/-! ### One attempt at a step -/

inductive Phase where
  | idle | held | calling
  | returned (observed : Bool)
  deriving DecidableEq

def observed : Option (Effect × Option Failure) → Bool
  | some (effect, _) => effect.effectObserved
  | none => true

def touch (runID stepID : String) : Event Call Reply → Option Phase
  | ⟨.mutate (.beginStep request), .ok _⟩ =>
    if request.runID = runID ∧ request.stepID = stepID then some .held else none
  | ⟨.mutate (.interruptStepBeforeEffect run step _), _⟩ => if run = runID ∧ step = stepID then some .idle else none
  | ⟨.execute binding, _⟩ => if binding.runID = runID ∧ binding.stepID = stepID then some .calling else none
  | ⟨.executed binding, outcome⟩ =>
    if binding.runID = runID ∧ binding.stepID = stepID then some (.returned (observed outcome)) else none
  | _ => none

def phase (runID stepID : String) (past : Past) : Phase := (past.findSome? (touch runID stepID)).getD .idle

theorem phase_cons (runID stepID : String) (event : Event Call Reply) (past : Past) :
    phase runID stepID (event :: past) = (touch runID stepID event).getD (phase runID stepID past) := by
  simp only [phase, List.findSome?_cons]
  cases touch runID stepID event <;> rfl

def holding : Past → Option String
  | [] => none
  | ⟨.drawLease _, .ok (leaseID, _)⟩ :: _ => some leaseID
  | ⟨.mutate (.beginStep _), _⟩ :: _ => none
  | _ :: past => holding past

def lastRead : Past → Option (List Run)
  | [] => none
  | ⟨.activeRuns, .ok runs⟩ :: _ => some runs
  | ⟨.activeRuns, .error _⟩ :: _ => none
  | _ :: past => lastRead past

/-! ### What has to be seen before a call -/

def Entitled (past : Past) (runID : String) : Prop :=
  (∃ plan run, ReadPlan past plan ∧ plan.executorMode = .central ∧ Saw past run ∧ run.runID = runID ∧
    run.planID = plan.planID) ∨
  ∃ request, Done past (.transitionRun request) ∧ request.runID = runID ∧ request.source = .interrupted ∧
    request.target = .running

def StepDone (past : Past) (runID stepID : String) : Prop :=
  (∃ run step, Saw past run ∧ run.runID = runID ∧ findStep run stepID = some step ∧ step.status = .succeeded) ∨
  (∃ request, Done past (.finishStep request) ∧ request.runID = runID ∧ request.stepID = stepID ∧
    request.status = .succeeded) ∨
  ∃ run, Saw past run ∧ run.runID = runID ∧ findStep run stepID = none

def AllDone (past : Past) (runID : String) : Prop :=
  ∃ run, Saw past run ∧ run.runID = runID ∧ ∀ step ∈ run.steps, StepDone past runID step.stepID

def PartialSeen (past : Past) (runID : String) : Prop :=
  (∃ run, Saw past run ∧ run.runID = runID ∧
    ∃ step ∈ run.steps, step.status = .partialOutcome ∨ step.effectState = .effectUnknown) ∨
  (∃ stepID time, Done past (.markStepUnknown runID stepID time)) ∨
  ∃ request, Done past (.finishStep request) ∧ request.runID = runID ∧ request.status = .partialOutcome

@[mk_iff] structure Justified (resumes : Bool) (past : Past) (request : RunTransitionRequest) : Prop where
  resumption : request.source = .interrupted → request.target = .running → resumes = true
  success : request.target = .succeeded → request.verificationStatus = some .verified ∧ AllDone past request.runID
  ambiguity : request.target = .partialOutcome → PartialSeen past request.runID

structure Submitted (past : Past) (request : RunCreateRequest) (plan : Plan) : Prop where
  read : ReadPlan past plan
  admissible : RunRepository.admissible request = true
  planID : request.run.planID = plan.planID
  executorMode : request.run.executorMode = plan.executorMode
  reference : request.request.reference.planID = plan.planID
  steps : ∀ step ∈ request.run.steps, step.status = .queued ∧ step.effectState = .notStarted

/-- The receipt of an external step was recorded under a lease read as active,
before its expiry, and verified. -/
structure Verified (past : Past) (request : StepFinishRequest) (lease : ExecutorLease)
    (report : ExecutorReceiptPersistenceRequest) : Prop where
  read : ⟨.getLease lease.leaseID, .ok lease⟩ ∈ past
  active : lease.status = .active
  recorded : ∃ receipt, ⟨.recordExternalReceipt report, .ok receipt⟩ ∈ past
  receipt : report.request.receipt = request.receipt
  binding : validExecutionReceiptBinding lease request.receipt = true
  early : report.time < lease.leaseExpiresAt
  verified : ∃ operation verification, verification.verified = true ∧
    ⟨.verifyReceipt operation request.receipt.status request.receipt.resultDigest, (verification, none)⟩ ∈ past
  leaseID : request.leaseID = lease.leaseID
  runID : request.runID = lease.runID
  stepID : request.stepID = lease.stepID
  status : request.status = request.receipt.status

def Unoccupied (past : Past) (executorID : String) : Prop :=
  ∃ runs, lastRead past = some runs ∧ ∀ run ∈ runs, ExternalExecutor.workActive executorID run = false

/-- When a thread may issue a call. `resumes` says whether it may resume runs. -/
def Permitted (resumes : Bool) (past : Past) : Call → Prop
  | .execute binding => phase binding.runID binding.stepID past = .held ∧ Entitled past binding.runID
  | .executed binding => phase binding.runID binding.stepID past = .calling
  | .acquireTargetLease lease => Entitled past lease.runID
  | .createRun request => ∃ plan, Submitted past request plan
  | .claimLease request => Unoccupied past request.request.executorID
  | .mutate (.beginStep request) => holding past = some request.leaseID ∧ Entitled past request.runID
  | .mutate (.interruptStepBeforeEffect runID stepID _) =>
    phase runID stepID past = .held ∨ phase runID stepID past = .returned false
  | .mutate (.transitionRun request) => Justified resumes past request
  | .mutate (.recordReceipt request) => Entitled past request.runID
  | .mutate (.finishStep request) => Entitled past request.runID ∨ ∃ lease report, Verified past request lease report
  | _ => True

/-- Calls that need no permission and leave every attempt, every drawn lease and
the latest reading as they are. -/
def neutral : Call → Prop
  | .execute _ | .executed _ | .drawLease _ | .activeRuns | .createRun _ | .acquireTargetLease _ | .claimLease _
  | .mutate _ => False
  | _ => True

theorem neutral.permitted {query : Call} (free : neutral query) (resumes : Bool) (past : Past) :
    Permitted resumes past query := by
  cases query <;> trivial

def Extends (past later : Past) : Prop := ∃ new, later = new ++ past ∧ ∀ event ∈ new, neutral event.call

theorem Extends.refl (past : Past) : Extends past past := ⟨[], rfl, by simp⟩

theorem Extends.trans {first second third : Past} (early : Extends first second) (late : Extends second third) :
    Extends first third := by
  obtain ⟨old, rfl, quiet⟩ := early
  obtain ⟨new, rfl, silent⟩ := late
  refine ⟨new ++ old, by simp, fun event member => ?_⟩
  rcases List.mem_append.mp member with inside | inside
  · exact silent event inside
  · exact quiet event inside

variable {past later : Past}

theorem Extends.cons {event : Event Call Reply} (free : neutral event.call) : Extends past (event :: past) :=
  ⟨[event], rfl, by simpa using free⟩

theorem Extends.subset (longer : Extends past later) : past ⊆ later := by
  obtain ⟨new, rfl, _⟩ := longer
  exact List.subset_append_right new past

theorem touch_neutral {event : Event Call Reply} (free : neutral event.call) (runID stepID : String) :
    touch runID stepID event = none := by
  obtain ⟨call, reply⟩ := event
  cases call <;> first | rfl | exact free.elim

theorem Extends.phase (longer : Extends past later) (runID stepID : String) :
    VskLabs.phase runID stepID later = VskLabs.phase runID stepID past := by
  obtain ⟨new, rfl, quiet⟩ := longer
  have untouched : new.findSome? (touch runID stepID) = none := by
    rw [List.findSome?_eq_none_iff]
    exact fun event member => touch_neutral (quiet event member) runID stepID
  simp [VskLabs.phase, List.findSome?_append, untouched]

theorem Extends.lastRead (longer : Extends past later) :
    VskLabs.lastRead later = VskLabs.lastRead past := by
  obtain ⟨new, rfl, quiet⟩ := longer
  induction new with
  | nil => rfl
  | cons event rest ih =>
    obtain ⟨call, reply⟩ := event
    obtain ⟨here, others⟩ := List.forall_mem_cons.mp quiet
    rw [← ih others]
    cases call <;> first | rfl | exact here.elim

/-! ### Evidence is never lost -/

section Growth

variable {past later : Past} (inside : past ⊆ later)
include inside

theorem Saw.grow {run : Run} (saw : Saw past run) : Saw later run := by
  obtain ⟨event, member, given⟩ := saw
  exact ⟨event, inside member, given⟩

theorem Done.grow {mutation : Mutation} (done : Done past mutation) : Done later mutation := by
  obtain ⟨result, member⟩ := done
  exact ⟨result, inside member⟩

theorem Entitled.grow {runID : String} (entitled : Entitled past runID) : Entitled later runID := by
  rcases entitled with ⟨plan, run, read, central, saw, same⟩ | ⟨request, done, same⟩
  · exact .inl ⟨plan, run, inside read, central, saw.grow inside, same⟩
  · exact .inr ⟨request, done.grow inside, same⟩

theorem StepDone.grow {runID stepID : String} (done : StepDone past runID stepID) : StepDone later runID stepID := by
  rcases done with ⟨run, step, saw, same⟩ | ⟨request, done, same⟩ | ⟨run, saw, same⟩
  · exact .inl ⟨run, step, saw.grow inside, same⟩
  · exact .inr (.inl ⟨request, done.grow inside, same⟩)
  · exact .inr (.inr ⟨run, saw.grow inside, same⟩)

theorem PartialSeen.grow {runID : String} (seen : PartialSeen past runID) : PartialSeen later runID := by
  rcases seen with ⟨run, saw, same⟩ | ⟨stepID, time, done⟩ | ⟨request, done, same⟩
  · exact .inl ⟨run, saw.grow inside, same⟩
  · exact .inr (.inl ⟨stepID, time, done.grow inside⟩)
  · exact .inr (.inr ⟨request, done.grow inside, same⟩)

end Growth

end VskLabs

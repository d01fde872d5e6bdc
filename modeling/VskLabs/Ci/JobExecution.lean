import Mathlib.Data.List.Pairwise
import VskLabs.Contracts.Documents
import VskLabs.Library.Machine
import VskLabs.Library.Outcome

/-! The CI job of a host. It is begun and completed under the authority of one run,
and a job that is not known to be cleaned up keeps the next one out. -/

namespace VskLabs.Ci
open Library

/-- What the approved plan, the binding and the lease fix. -/
structure Job where
  (runID stepID leaseID hostID : String)
  (stateRevision recoveryEpoch : Int)
  (createdAt maximumSeconds planExpiresAt leaseExpiresAt maximumExpiresAt : Int)
  deriving DecidableEq

/-- A row of `ci_job_executions`; `completion` is its digest and whether `cleanup_status`
became verified. The intent keys of a job are taken when its row and its completion are. -/
structure JobExecution where
  job : Job
  completion : Option (String × Bool)
  deriving DecidableEq

def JobExecution.verified (row : JobExecution) : Bool := row.completion.any Prod.snd

/-- What is stored about a run, its step, lease and approval; whether the grants of its
principals stand; whether its host still passes the checks of its admission. -/
structure Authority where
  (status stepStatus : Status)
  effectState : EffectState
  leaseStatus : LeaseStatus
  (cancellationRequested approved granted admitted : Bool)

structure Jobs where
  (stateRevision recoveryEpoch : Int)
  authority : String → Authority
  executions : List JobExecution

namespace Jobs

variable (state : Jobs) (now : Int) (job : Job)

def currentExecutionTx : Except ErrorCode Unit := do
  let found := state.authority job.runID
  ensure (state.stateRevision == job.stateRevision && state.recoveryEpoch == job.recoveryEpoch) .planStale
  ensure (found.status == .running && !found.cancellationRequested && found.leaseStatus == .active) .authorizationDenied
  ensure ([job.leaseExpiresAt, job.maximumExpiresAt, job.planExpiresAt].all (now < ·)) .planStale
  ensure (found.approved && found.stepStatus == .running && found.effectState == .intentRecorded) .approvalRequired
  ensure found.granted .authorizationDenied
  ensure found.admitted .planStale
  ensure (now < job.createdAt + job.maximumSeconds) .planStale

/-- `mutate`; a `replay` is answered without looking at the authority. -/
def mutate (replay : Option (Except ErrorCode Jobs)) (change : Except ErrorCode Jobs) : Except ErrorCode Jobs := do
  ensure (state.authority job.runID).admitted .prerequisiteBlocked
  ensure (state.recoveryEpoch == job.recoveryEpoch) .recoveryEpochMismatch
  ensure (state.stateRevision == job.stateRevision) .stateConflict
  match replay with
  | some answer => answer
  | none => do
    state.currentExecutionTx now job
    change

/-- Some job of the host is not known to be cleaned up. -/
def busy (hostID : String) : Bool := state.executions.any fun row => row.job.hostID == hostID && !row.verified

/-- `Begin`; a step that was begun before is refused by its intent or by the key of its row. -/
def begins : Except ErrorCode Jobs :=
  state.mutate now job
    (if state.executions.any fun row => row.job.runID == job.runID && row.job.stepID == job.stepID then
      some (.error .stateConflict) else none) do
    ensure (!state.busy job.hostID) .recoveryRequired
    return { state with executions := ⟨job, none⟩ :: state.executions }

def recordCompletion (digest : String) (verified : Bool) : Except ErrorCode Jobs :=
  state.mutate now job (if state.executions.any fun row => row.job == job && row.completion.isSome then some (.ok state) else none)
    (.ok { state with executions := state.executions.map fun row =>
      if row.job == job then { row with completion := some (digest, verified) } else row })

end Jobs

inductive Deed where
  | begins (now : Int) (job : Job)
  | recordCompletion (now : Int) (job : Job) (digest : String) (verified : Bool)
  /-- Commits of other components, and what becomes of runs, leases, approvals and grants. -/
  | environment (stateRevision recoveryEpoch : Int) (authority : String → Authority)

def Jobs.step (state : Jobs) : Deed → Jobs
  | .begins now job => (state.begins now job).toOption.getD state
  | .recordCompletion now job digest verified => (state.recordCompletion now job digest verified).toOption.getD state
  | .environment stateRevision recoveryEpoch authority => { state with stateRevision, recoveryEpoch, authority }

def after (history : List Deed) : Jobs :=
  execute Jobs.step ⟨0, 0, fun _ => ⟨.queued, .queued, .notStarted, .active, false, false, false, false⟩, []⟩ history

/-- Nothing the job was begun under has changed, and none of it has expired. -/
structure Live (state : Jobs) (now : Int) (job : Job) : Prop where
  revision : state.stateRevision = job.stateRevision ∧ state.recoveryEpoch = job.recoveryEpoch
  running : (state.authority job.runID).status = .running ∧ (state.authority job.runID).cancellationRequested = false
  leased : (state.authority job.runID).leaseStatus = .active ∧ now < job.leaseExpiresAt ∧ now < job.maximumExpiresAt
  planned : now < job.planExpiresAt ∧ now < job.createdAt + job.maximumSeconds
  approved : (state.authority job.runID).approved = true ∧ (state.authority job.runID).granted = true
  step : (state.authority job.runID).stepStatus = .running ∧ (state.authority job.runID).effectState = .intentRecorded
  admitted : (state.authority job.runID).admitted = true

/-- The completion is recorded, and a verified one lets the next job of the host in. -/
def Recordable (state : Jobs) (now : Int) (job : Job) (digest : String) (verified : Bool) : Prop :=
  ∃ next, state.recordCompletion now job digest verified = .ok next ∧ ⟨job, some (digest, verified)⟩ ∈ next.executions ∧
    (verified = true → next.busy job.hostID = false)

/-- Two rows are of different steps, and not both open on one host. -/
def Apart (first second : JobExecution) : Prop :=
  (first.job.runID = second.job.runID → first.job.stepID ≠ second.job.stepID) ∧
    (first.job.hostID = second.job.hostID → first.verified = true ∨ second.verified = true)

section Laws

variable {state next : Jobs} {now : Int} {job : Job} {digest : String} {verified : Bool} {row other : JobExecution}

theorem mutate_eq_ok {replay : Option (Except ErrorCode Jobs)} {change : Except ErrorCode Jobs} :
    state.mutate now job replay change = .ok next ↔ (state.authority job.runID).admitted = true ∧
      state.recoveryEpoch = job.recoveryEpoch ∧ state.stateRevision = job.stateRevision ∧
        (replay = some (.ok next) ∨ (replay = none ∧ Live state now job ∧ change = .ok next)) := by
  simp only [Jobs.mutate, peel, checks, exists_const]
  refine and_congr_right fun admitted => and_congr_right fun epoch => and_congr_right fun revision => ?_
  cases replay with
  | some answer => simp
  | none =>
    simp only [Jobs.currentExecutionTx, peel, checks, List.all_cons, List.all_nil, and_true, exists_const, reduceCtorEq,
      false_or, true_and]
    constructor
    · rintro ⟨⟨current, ⟨running, leased⟩, ⟨lease, maximum, plan⟩, ⟨⟨approved, step⟩, intent⟩, granted, _, deadline⟩, done⟩
      exact ⟨⟨current, running, ⟨leased, lease, maximum⟩, ⟨plan, deadline⟩, ⟨approved, granted⟩, ⟨step, intent⟩, admitted⟩, done⟩
    · rintro ⟨live, done⟩
      exact ⟨⟨live.revision, ⟨live.running, live.leased.1⟩, ⟨live.leased.2.1, live.leased.2.2, live.planned.1⟩,
        ⟨⟨live.approved.1, live.step.1⟩, live.step.2⟩, live.approved.2, live.admitted, live.planned.2⟩, done⟩

instance : Std.Symm Apart where
  symm _ _ apart := ⟨fun run step => apart.1 run.symm step.symm, fun host => (apart.2 host.symm).symm⟩

theorem begins_apart (done : state.begins now job = .ok next) (apart : state.executions.Pairwise Apart) :
    next.executions.Pairwise Apart := by
  obtain ⟨_, _, _, replay | ⟨fresh, _, ran⟩⟩ := mutate_eq_ok.mp done
  · split at replay <;> simp at replay
  simp only [peel, checks] at ran
  obtain ⟨_, free, rfl⟩ := ran
  refine List.pairwise_cons.mpr ⟨fun row member => ⟨fun run step => ?_, fun host => .inr ?_⟩, apart⟩
  · simp only [ite_eq_right_iff, reduceCtorEq, imp_false, Bool.not_eq_true, List.any_eq_false] at fresh
    simpa [← run, ← step] using fresh row member
  · simpa [← host] using List.any_eq_false.mp free row member

theorem recordCompletion_eq_ok (done : state.recordCompletion now job digest verified = .ok next) :
    next = state ∨ (Live state now job ∧ (∀ row ∈ state.executions, row.job = job → row.completion = none) ∧
      next = { state with executions := state.executions.map fun row =>
        if row.job == job then { row with completion := some (digest, verified) } else row }) := by
  obtain ⟨_, _, _, replay | ⟨fresh, live, ran⟩⟩ := mutate_eq_ok.mp done
  · split at replay
    · cases replay
      exact .inl rfl
    · cases replay
  · refine .inr ⟨live, fun row member mine => ?_, (Except.ok.inj ran).symm⟩
    simp only [ite_eq_right_iff, reduceCtorEq, imp_false, Bool.not_eq_true, List.any_eq_false] at fresh
    simpa [mine] using fresh row member

theorem recordCompletion_apart (done : state.recordCompletion now job digest verified = .ok next)
    (apart : state.executions.Pairwise Apart) : next.executions.Pairwise Apart := by
  rcases recordCompletion_eq_ok done with rfl | ⟨_, fresh, rfl⟩
  · exact apart
  refine List.pairwise_map.mpr (apart.imp_of_mem fun {first second} firstMember secondMember apart => ?_)
  have ids (row : JobExecution) :
      (if row.job == job then { row with completion := some (digest, verified) } else row).job = row.job := by
    split <;> rfl
  have settles {row : JobExecution} (member : row ∈ state.executions) (settled : row.verified = true) :
      (if row.job == job then { row with completion := some (digest, verified) } else row).verified = true := by
    split
    next mine => simp [JobExecution.verified, fresh row member (beq_iff_eq.mp mine)] at settled
    next => exact settled
  rw [Apart, ids, ids]
  exact ⟨apart.1, fun host => (apart.2 host).imp (settles firstMember) (settles secondMember)⟩

theorem after_apart (history : List Deed) : (after history).executions.Pairwise Apart := by
  refine @execute_invariant _ _ _ _ _ (fun state : Jobs => state.executions.Pairwise Apart) List.Pairwise.nil ?_
  intro state deed apart
  cases deed with
  | begins now job =>
    rw [Jobs.step]
    cases done : state.begins now job with
    | error failure => exact apart
    | ok next => exact begins_apart done apart
  | recordCompletion now job digest verified =>
    rw [Jobs.step]
    cases done : state.recordCompletion now job digest verified with
    | error failure => exact apart
    | ok next => exact recordCompletion_apart done apart
  | environment stateRevision recoveryEpoch authority => exact apart

end Laws

/-- The completion of a begun job whose cleanup is open can be recorded, and frees its
host, exactly while all it was begun under stands and no completion was recorded. -/
theorem completion_recordable_iff (history : List Deed) {row : JobExecution} (begun : row ∈ (after history).executions)
    (unverified : row.verified = false) (now : Int) (digest : String) {verified : Bool}
    (news : row.completion = none ∨ verified = true) :
    Recordable (after history) now row.job digest verified ↔ Live (after history) now row.job ∧ row.completion = none := by
  have apart := after_apart history
  have same {other : JobExecution} (member : other ∈ (after history).executions) (job : other.job = row.job) : other = row := by
    by_contra different
    have keys := (apart.forall member begun different).1
    rw [job] at keys
    exact keys rfl rfl
  constructor
  · rintro ⟨next, done, recorded, _⟩
    rcases recordCompletion_eq_ok done with rfl | ⟨live, fresh, _⟩
    · have equal := congrArg JobExecution.completion (same recorded rfl)
      rcases news with unreported | rfl
      · cases equal.trans unreported
      · rw [JobExecution.verified, ← equal] at unverified
        cases unverified
    · exact ⟨live, fresh row begun rfl⟩
  · rintro ⟨live, unreported⟩
    have fresh : ((after history).executions.any fun other => other.job == row.job && other.completion.isSome) = false := by
      rw [List.any_eq_false]
      intro other member
      simp only [checks, not_and]
      intro mine
      simp [same member mine, unreported]
    refine ⟨_, mutate_eq_ok.mpr ⟨live.admitted, live.revision.2, live.revision.1, .inr ⟨by simp [fresh], live, rfl⟩⟩, ?_, ?_⟩
    · exact List.mem_map.mpr ⟨row, begun, by simp⟩
    · rintro rfl
      simp only [Jobs.busy, List.any_eq_false, List.mem_map]
      rintro _ ⟨other, member, rfl⟩
      by_cases mine : other.job = row.job
      · simp [mine, JobExecution.verified]
      · have settled := (apart.forall member begun (by rintro rfl; exact mine rfl)).2
        simp only [unverified, Bool.false_eq_true, or_false] at settled
        simpa [mine] using settled

section Revision

def job : Job := ⟨"run-a", "step-a", "lease-a", "host-a", 7, 1, 0, 3600, 3600, 3600, 3600⟩

def running : Authority := ⟨.running, .running, .intentRecorded, .active, false, true, true, true⟩

def started : List Deed := [.environment 7 1 fun _ => running, .begins 10 job]

/-- An unrelated commit advances the state revision while the job runs. -/
theorem cleaned_host_stays_busy : (after started).executions = [⟨job, none⟩] ∧
    ((after (started ++ [.environment 8 1 fun _ => running])).recordCompletion 20 job "digest" true).toOption.isNone ∧
    (after (started ++ [.environment 8 1 fun _ => running, .recordCompletion 20 job "digest" true])).busy "host-a" = true := by
  decide

theorem undisturbed_completion_recordable : Recordable (after started) 20 job "digest" true :=
  (@completion_recordable_iff started ⟨job, none⟩ (by decide) rfl 20 "digest" true (.inl rfl)).mpr
    ⟨⟨⟨rfl, rfl⟩, ⟨rfl, rfl⟩, ⟨rfl, by decide, by decide⟩, ⟨by decide, by decide⟩, ⟨rfl, rfl⟩, ⟨rfl, rfl⟩, rfl⟩, rfl⟩

end Revision

end VskLabs.Ci

import VskLabs.Library.Retry
import VskLabs.Schedule.Attempts
import VskLabs.Schedule.Operations
import VskLabs.Schedule.Timing

/-! How the calls of one thread follow each other: what its leases, claims, attempts,
submissions and retries are founded on, whatever the replies are. -/

namespace VskLabs.Schedule
open Library ScheduleRepository

abbrev Past := List (Event Call Reply)

abbrev Saw (past : Past) (query : Call) (reply : Reply query) : Prop := (⟨query, reply⟩ : Event Call Reply) ∈ past

/-- An attempt of a thread at a job. -/
structure Undertaking where
  jobID : String
  trial : Trial String

def Undertaking.to (undertaking : Undertaking) (stage : TrialStage) : Undertaking :=
  { undertaking with trial.stage := stage }

def advance (current : Option Undertaking) : Event Call Reply → Option Undertaking
  | ⟨.appendAttempt attempt, .ok ()⟩ => some ⟨attempt.jobID, .filed, attempt.attempt, attempt.runID⟩
  | ⟨.transitionOccurrence request, .ok ()⟩ => if request.target = .running then current.map (·.to .started) else none
  | ⟨.getOccurrence _, _⟩ => current
  | ⟨.submitScheduled _ _ _ _, reply⟩ =>
    current.map (·.to (if reply.toOption.any allNotStarted then .untouched else .submitted))
  | _ => none

/-- What the thread with this past is at. -/
def undertaking : Past → Option Undertaking
  | [] => none
  | event :: past => advance (undertaking past) event

def lastClock : Past → Option Instant
  | [] => none
  | ⟨.clock, instant⟩ :: _ => some instant
  | _ :: past => lastClock past

/-- Whether a call is an attempt at no other job. -/
def Call.tends (jobID : String) (call : Call) : Prop := ∀ attempt, call = .appendAttempt attempt → attempt.jobID = jobID

def Untried (past : Past) (jobID : String) : Prop :=
  ∀ event ∈ past, ∀ attempt, event.call = .appendAttempt attempt → attempt.jobID ≠ jobID

/-- An attempt under the policy of the occurrence, numbered as it was read. -/
structure Grounds (past : Past) (jobID : String) (number : Int) (source : JobStatus) (policy : ScheduledJobPolicy) : Prop where
  funded : ∃ job, Saw past (.getOccurrence jobID) (.ok job) ∧ Saw past (.getActivePolicy job.policyID) (.ok policy) ∧
    policy.revision = job.policyRevision
  numbered : (∃ job, Saw past (.getOccurrence jobID) (.ok job) ∧ job.attempt = number) ∨ source = .retryWait ∧
    ∃ last, Saw past (.latestScheduledAttempt jobID) (.ok (some last)) ∧ number = wrap64 (last.attempt + 1)

/-- A running job that was not tried since it was read, with a run that has no effect. -/
structure Recovers (past : Past) (jobID : String) (job : ScheduledJob) (runID : String) (run : Run)
    (policy : ScheduledJobPolicy) : Prop where
  untried : Untried past jobID
  read : Saw past (.getOccurrence jobID) (.ok job)
  running : job.status = .running ∧ job.runID = some runID
  seen : Saw past (.getScheduledRun runID) (.ok run) ∧ allNotStarted run = true
  below : Saw past (.getActivePolicy job.policyID) (.ok policy) ∧ job.attempt < policy.maxAttempts

variable (config : ScheduleConfig)

/-- What each call of a thread is founded on. -/
def Founded (past : Past) : Call → Prop
  | .acquireOccurrenceLease jobID _ _ expiresAt => Saw past (.windowClosesAt jobID) (.ok expiresAt)
  | .claimOccurrence claim => ∃ instant policyID slot, Saw past .clock instant ∧
    Saw past (.getActivePolicy policyID) (.ok claim.policy) ∧ Falls claim.policy instant.second slot ∧
      claim.scheduledAt = slot.scheduledAt ∧ (claim.windowClosesAt = slot.windowClosesAt ∨ claim.policy.catchUp = .latest)
  | .appendAttempt attempt => ∃ source policy, Grounds past attempt.jobID attempt.attempt source policy
  | .transitionOccurrence request =>
    match request.target with
    | .running => ∃ attempt rest policy, past = ⟨.appendAttempt attempt, .ok ()⟩ :: rest ∧ attempt.jobID = request.jobID ∧
      request.runID = some attempt.runID ∧ Grounds rest request.jobID attempt.attempt request.source policy
    | .retryWait => (∃ number run source policy, undertaking past = some ⟨request.jobID, .untouched, number, run⟩ ∧
        Grounds past request.jobID number source policy ∧ number < policy.maxAttempts) ∨
      request.source = .running ∧ ∃ job runID run policy, Recovers past request.jobID job runID run policy
    | _ => True
  | .submitScheduled plan _ key _ => ∃ jobID number source policy closes reading,
    undertaking past = some ⟨jobID, .started, number, config.runID plan.planID key⟩ ∧ key = submitKey jobID number ∧
      Grounds past jobID number source policy ∧ Saw past (.windowClosesAt jobID) (.ok closes) ∧
      lastClock past = some reading ∧ reading.second + planValiditySeconds ≤ closes
  | .activate _ => past = []
  | _ => True

def Credible : (query : Call) → Reply query → Prop
  | .getOccurrence jobID, .ok job => job.jobID = jobID
  | .recoverableIDs, .ok ids => ids.Nodup
  | _, _ => True

def FoundedFor (jobID : String) (past : Past) (call : Call) : Prop := Founded config past call ∧ call.tends jobID

abbrev Orderly {α : Type} (jobID : String) (routine : Routine α) (past : Past) : Prop :=
  routine.Obeys Credible (FoundedFor config jobID) (fun _ _ => True) past

variable {config} {past later : Past} {query : Call} {jobID : String}

theorem Grounds.mono {number : Int} {source : JobStatus} {policy : ScheduledJobPolicy}
    (grounds : Grounds past jobID number source policy) (inside : past ⊆ later) : Grounds later jobID number source policy := by
  obtain ⟨⟨job, read, active, same⟩, numbered⟩ := grounds
  refine ⟨⟨job, inside read, inside active, same⟩, numbered.imp ?_ ?_⟩
  · exact fun ⟨job, read, number⟩ => ⟨job, inside read, number⟩
  · exact fun ⟨waiting, last, read, number⟩ => ⟨waiting, last, inside read, number⟩

theorem block_orderly (job : ScheduledJob) (reason : String) : Orderly config jobID (block job reason) past := by
  simp [block, transitionOccurrence, issue, forall_except, FoundedFor, Founded, Call.tends]

theorem settleSubmitted_orderly {attempt : Attempt} {planID runID run : String} {submitted : Except Failure Run}
    (sent : undertaking past = some ⟨attempt.job.jobID,
      if submitted.toOption.any allNotStarted then .untouched else .submitted, attempt.job.attempt, run⟩)
    (grounds : Grounds past attempt.job.jobID attempt.job.attempt attempt.source attempt.policy) :
    Orderly config jobID (settleSubmitted attempt planID runID submitted) past := by
  cases submitted with
  | error failure => simp [settleSubmitted, transitionOccurrence, issue, forall_except, FoundedFor, Founded, Call.tends]
  | ok current =>
    simp [settleSubmitted, transitionOccurrence, issue, forall_except, FoundedFor, Founded, Call.tends]
    intro _ _ _ untouched fits
    simp only [retryFits, checks] at fits
    refine .inl ⟨_, ⟨run, ?_⟩, _, _, grounds, fits.1⟩
    simpa [Except.toOption, untouched] using sent

theorem attemptOccurrence_orderly {attempt : Attempt}
    (window : Saw past (.windowClosesAt attempt.job.jobID) (.ok attempt.windowClosesAt))
    (grounds : Grounds past attempt.job.jobID attempt.job.attempt attempt.source attempt.policy) :
    Orderly config attempt.job.jobID (attemptOccurrence config attempt) past := by
  have known (events : Past) := grounds.mono (List.subset_append_right events past)
  simp [attemptOccurrence, createScheduled, clock, issue, Program.ite_bind, transitionOccurrence, FoundedFor, Founded, Call.tends,
    block_orderly, forall_except]
  intro statuses _ _ observation _ _ _ digest _ reading _ fits plan _ decision _ _ _ _ _
  simp only [planWindowAdmits, checks, Bool.or_eq_false_iff, decide_eq_false_iff_not, Int.not_lt] at fits
  refine ⟨⟨_, _, known [_, _, _, _, _, _]⟩, fun _ _ => ⟨⟨_, known [_, _, _, _, _, _]⟩, fun _ _ job _ => ⟨?_, ?_, ?_⟩⟩⟩
  · exact ⟨_, _, rfl, rfl, ⟨_, _, known [_, _, _, _, _, _, _, _, _]⟩, _, by simp [window], reading, rfl, fits.1⟩
  · exact fun _ _ => settleSubmitted_orderly rfl (known [_, _, _, _, _, _, _, _, _, _])
  · exact fun _ _ => settleSubmitted_orderly rfl (known [_, _, _, _, _, _, _, _, _, _])

theorem beginAttempt_orderly {job : ScheduledJob} {policy : ScheduledJobPolicy} {attribution : Attribution} {now : Time}
    (mine : job.jobID = jobID) (grounds : Grounds past job.jobID job.attempt job.status policy) :
    Orderly config jobID (beginAttempt config job policy attribution now) past := by
  subst mine
  cases scheduled : job.scheduledAt with
  | none => simp [beginAttempt, scheduled, block_orderly]
  | some scheduledAt =>
    simp [beginAttempt, scheduled, acquireOccurrenceLease, clock, issue, Program.ite_bind, FoundedFor, Founded, Call.tends, block_orderly,
      forall_except]
    intros
    refine (attemptOccurrence_orderly (by simp) ?_).bind fun _ _ _ => by simp [FoundedFor, Founded, Call.tends]
    exact grounds.mono (List.subset_append_right [_, _, _, _] past)

theorem run_orderly {job : ScheduledJob} {attribution : Attribution} (read : Saw past (.getOccurrence job.jobID) (.ok job)) :
    Orderly config job.jobID (run config job attribution) past := by
  simp [run, clock, issue, FoundedFor, Founded, Call.tends, block_orderly, forall_except, Option.forall]
  intro _ _ policy _ fits _ _ approver _ _ now _
  simp only [bound, checks] at fits
  refine ⟨fun waiting last _ _ => beginAttempt_orderly rfl ⟨⟨job, ?_, ?_, fits.1.2⟩, .inr ⟨waiting, last, .head _, rfl⟩⟩,
    fun _ => beginAttempt_orderly rfl ⟨⟨job, ?_, ?_, fits.1.2⟩, .inl ⟨job, ?_, rfl⟩⟩⟩
  all_goals simp [read]

/-! ### Recovery, dispatch and cancellation -/

theorem recoverJob_orderly {job : ScheduledJob} {now : Time} (untried : Untried past job.jobID)
    (read : Saw past (.getOccurrence job.jobID) (.ok job)) : Orderly config job.jobID (recoverJob config job now) past := by
  have ran (attribution : Attribution) : Orderly config job.jobID (do return (← run config job attribution).2) past :=
    (run_orderly read).bind fun _ _ _ => trivial
  cases known : job.runID with
  | none => simp [recoverJob, known, transitionOccurrence, issue, forall_except, FoundedFor, Founded, Call.tends, ran]
  | some runID =>
    simp [recoverJob, settleRecovered, known, transitionOccurrence, issue, FoundedFor, Founded, Call.tends, forall_except, ran]
    intro running current _ _ _ unstarted policy _ closes _ fits
    simp only [retryFits, checks] at fits
    refine .inr ⟨job, runID, current, policy, ?_, ?_, ⟨running, known⟩, ⟨?_, unstarted⟩, ?_, fits.1⟩
    · simpa [Untried] using untried
    all_goals simp [read]

theorem recoverJobs_founded {jobs : List ScheduledJob} {now : Time} (distinct : (jobs.map ScheduledJob.jobID).Nodup)
    (known : ∀ job ∈ jobs, Untried past job.jobID ∧ Saw past (.getOccurrence job.jobID) (.ok job)) :
    (recoverJobs config now jobs).Obeys Credible (Founded config) (fun _ _ => True) past := by
  induction jobs generalizing past with
  | nil => trivial
  | cons job rest ih =>
    obtain ⟨first, others⟩ := List.forall_mem_cons.mp known
    obtain ⟨fresh, distinct⟩ := List.nodup_cons.mp distinct
    refine (recoverJob_orderly first.1 first.2).tracked.bind fun outcome later grown => ?_
    obtain ⟨_, new, rfl, tends⟩ := grown
    cases outcome with
    | some failure => trivial
    | none =>
      refine ih distinct fun other member => ⟨?_, List.mem_append_right _ (others other member).2⟩
      intro event inside attempt called mine
      rcases List.mem_append.mp inside with added | old
      · exact fresh (tends event added attempt called ▸ mine ▸ List.mem_map_of_mem member)
      · exact (others other member).1 event old attempt called mine

theorem readJobs_founded (ids : List String) : (readJobs ids).Obeys Credible
    (fun past call => Founded config past call ∧ ∃ jobID, call = .getOccurrence jobID) (fun reply later =>
      ∀ jobs, reply = .ok jobs → jobs.map ScheduledJob.jobID = ids ∧
        ∀ job ∈ jobs, Saw later (.getOccurrence job.jobID) (.ok job)) past := by
  induction ids generalizing past with
  | nil => simp [readJobs]
  | cons jobID rest ih =>
    refine ⟨⟨trivial, jobID, rfl⟩, fun reply believed => ?_⟩
    cases reply with
    | error failure => exact fun _ impossible => by cases impossible
    | ok job =>
      refine ih.grows.bind fun reply later known => ?_
      cases reply with
      | error failure => exact fun _ impossible => by cases impossible
      | ok jobs =>
        obtain ⟨rfl, read⟩ := known.1 jobs rfl
        obtain rfl : job.jobID = jobID := believed
        rintro _ ⟨⟩
        exact ⟨rfl, List.forall_mem_cons.mpr ⟨known.2 (.head _), read⟩⟩

theorem startup_founded : (startup config).Obeys Credible (Founded config) (fun _ _ => True) [] := by
  simp [startup, clock, issue, Founded, forall_except]
  intro instant _ _ _ ids distinct
  refine (readJobs_founded ids).tracked.bind fun reply later known => ?_
  obtain ⟨known, new, rfl, kinds⟩ := known
  cases reply with
  | error failure => trivial
  | ok jobs =>
    obtain ⟨rfl, read⟩ := known jobs rfl
    refine recoverJobs_founded distinct fun job member => ⟨fun event inside attempt called => ?_, read job member⟩
    rcases List.mem_append.mp inside with added | old
    · obtain ⟨jobID, same⟩ := kinds event added
      cases same.symm.trans called
    · simp only [List.mem_cons, List.not_mem_nil, or_false] at old
      rcases old with rfl | rfl | rfl <;> cases called

/-- A job that is returned is as it was read. -/
def Returned (result : Except Failure ScheduledJob) (past : Past) : Prop :=
  ∀ job, result = .ok job → Saw past (.getOccurrence job.jobID) (.ok job)

theorem read_returned : (issue (.getOccurrence jobID)).Obeys Credible (Founded config) Returned past := by
  refine ⟨trivial, ?_⟩
  rintro _ believed job rfl
  obtain rfl : job.jobID = jobID := believed
  exact .head _

theorem dispatch_founded (request : DispatchRequest) :
    (dispatch config request).Obeys Credible (Founded config) Returned [] := by
  have refused (failure : Failure) (past : Past) : Returned (.error failure) past := fun _ impossible => by cases impossible
  have claimed {claim : OccurrenceClaim} {past : Past} (founded : Founded config past (.claimOccurrence claim)) :
      (claimOccurrence config claim).Obeys Credible (Founded config) Returned past := by
    refine ⟨founded, fun reply _ => ?_⟩
    cases reply with
    | error failure => exact refused failure _
    | ok done => exact read_returned
  simp [dispatch, clock, issue, Founded, forall_except, refused]
  intro _ _ _ _ _ _ instant _ _ policy _ _ _ revision _ _ _ _ _ _
  split
  · exact refused _ _
  · exact refused _ _
  · next slot found =>
    have falls : Falls policy (Instant.second instant) slot := .inl found
    split
    · next late => exact claimed ⟨instant, request.policyID, slot, by simp, by simp, falls, rfl, .inr late.1⟩
    · exact claimed ⟨instant, request.policyID, slot, by simp, by simp, falls, rfl, .inl rfl⟩
  · next slot found =>
    refine (claimed ⟨instant, request.policyID, slot, by simp, by simp, .inr found, rfl, .inl rfl⟩).bind fun result later read => ?_
    cases result with
    | error failure => exact refused failure _
    | ok job =>
      refine Program.obeys_ite.mpr ⟨fun _ => ⟨trivial, fun reply _ => ?_⟩, fun _ => read⟩
      cases reply with
      | error failure => exact refused failure _
      | ok done => exact read_returned

theorem operation_founded (operation : Operation) :
    (operation.program config).Obeys Credible (Founded config) (fun _ _ => True) [] := by
  have ran (result : Except Failure ScheduledJob) (attribution : Attribution) (later : Past) (returned : Returned result later) :
      ∀ job, result = .ok job → (do let _ ← run config job attribution).Obeys Credible (Founded config) (fun _ _ => True) later :=
    fun job known => (run_orderly (returned job known)).tracked.bind fun _ _ _ => trivial
  cases operation with
  | dispatch request => exact (dispatch_founded request).bind fun _ _ _ => trivial
  | cancel jobID =>
    simp [Operation.program, cancel, transitionOccurrence, issue, Program.ite_bind, forall_except, Founded]
  | run jobID attribution =>
    refine read_returned.bind fun result later returned => ?_
    cases result with
    | error failure => trivial
    | ok job => exact ran _ attribution later returned job rfl
  | dispatchAndRun request attribution =>
    simp only [Operation.program, dispatchAndRun, Program.bind_bind]
    refine (dispatch_founded request).bind fun result later returned => ?_
    cases result with
    | error failure => trivial
    | ok job =>
      have := ran _ attribution later returned job rfl
      simp [Program.ite_bind, this]
  | startup => exact startup_founded.bind fun _ _ _ => trivial
  | activate row => exact ⟨rfl, fun _ _ => trivial⟩
  | advanceState => exact ⟨trivial, fun _ _ => trivial⟩

theorem Effect.credible {journal after : Journal} {reply : Reply query} (effect : Effect config query reply journal after) :
    Credible query reply := by
  unfold Credible
  split
  · obtain ⟨_, _, _, _, mine, _⟩ := getOccurrence_law (effect.told rfl).2
    exact mine
  · obtain rfl := Except.ok.inj (effect.told rfl).2
    exact ((List.perm_insertionSort _ _).map _).nodup_iff.mpr (journal.occurrences.distinct.sublist (List.filter_sublist.map _))
  · trivial

/-- In every history each call is founded on the past of its thread. -/
theorem operate_founded {initial : Journal} {actions : List (Action (world config) Operation)} {last : System (world config)}
    (ran : operate config initial actions = some last) :
    Along (System.Recorded (fun _ => True) (Founded config)) last.history :=
  (System.Recorded.of_boot (fun _ => True) (fun _ _ _ _ _ _ answered => (respond_effect answered).credible)
    (fun _ _ _ _ _ _ _ _ _ => trivial) operation_founded trivial ran).2

end VskLabs.Schedule

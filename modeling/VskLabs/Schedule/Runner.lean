import VskLabs.Schedule.Interface

/-! Dispatching, cancelling, running and recovering scheduled occurrences, and
the system of any number of such calls over one journal. -/

namespace VskLabs.Schedule
open Library

structure DispatchRequest where
  (policyID occurrenceToken targetDigest idempotencyKey : String)
  (policyRevision expectedStateRevision recoveryEpoch : Int)
  observedAt : Instant

/-- The job and the error a method returns, `none` for the zero job. -/
abbrev Outcome := Option ScheduledJob × Option Failure

def Outcome.of : Except Failure ScheduledJob → Outcome
  | .ok job => (some job, none)
  | .error failure => (none, some failure)

def clock : Routine Instant := issue .clock

variable (config : ScheduleConfig)

/-- `ClaimOccurrence`: the transaction and the read after it. -/
def claimOccurrence (claim : OccurrenceClaim) : Routine (Except Failure ScheduledJob) := do
  match ← issue (.claimOccurrence claim) with
  | .error failure => return .error failure
  | .ok () => issue (.getOccurrence (config.claimedJob claim))

def transitionOccurrence (request : OccurrenceTransition) : Routine (Except Failure ScheduledJob) := do
  match ← issue (.transitionOccurrence request) with
  | .error failure => return .error failure
  | .ok () => issue (.getOccurrence request.jobID)

/-- `Service.Dispatch`. -/
def dispatch (request : DispatchRequest) : Routine (Except Failure ScheduledJob) := do
  if request.policyID == "" || request.policyRevision ≤ 0 || request.occurrenceToken == "" ||
      request.targetDigest == "" || request.idempotencyKey == "" || request.observedAt == 0 then
    return .error (.coded .inputInvalid "scheduled-dispatch")
  else
    let now := (← clock).second
    if request.observedAt.second != now then return .error (.coded .stateConflict "scheduled-clock")
    else
      match ← issue (.getActivePolicy request.policyID) with
      | .error failure => return .error failure
      | .ok policy =>
        if policy.revision != request.policyRevision || !policy.enabled then
          return .error (.coded .planStale "scheduled-policy")
        else
          match ← issue .currentScheduleRevision with
          | .error failure => return .error failure
          | .ok current =>
            if current != ⟨request.expectedStateRevision, request.recoveryEpoch⟩ ||
                policy.stateRevision != current.stateRevision || policy.recoveryEpoch != current.recoveryEpoch then
              return .error (.coded .recoveryEpochMismatch "scheduled-policy")
            else if config.targetDigest policy != request.targetDigest then
              return .error (.coded .authorizationDenied "scheduled-target")
            else if policy.expiresAt.all fun expires => decide (expires ≤ now) then
              return .error (.coded .planStale "scheduled-policy")
            else
              let claim (slot : Slot) : Routine (Except Failure ScheduledJob) := claimOccurrence config
                ⟨policy, slot.scheduledAt, slot.windowClosesAt, request.occurrenceToken, request.targetDigest,
                  request.idempotencyKey, current⟩
              match due policy now with
              | .invalid | .notDue => return .error (.coded .stateConflict "scheduled-slot")
              | .slot slot =>
                -- a late slot of a catching-up policy gets a fresh window
                if policy.catchUp == .latest && slot.windowClosesAt ≤ ofSecond now then
                  claim { slot with windowClosesAt := ofSecond now + durationOfSeconds policy.windowSeconds }
                else claim slot
              | .windowMissed slot =>
                match ← claim slot with
                | .error failure => return .error failure
                | .ok job =>
                  if job.status == .queued then
                    transitionOccurrence ⟨job.jobID, .queued, .skipped, "window-missed", none, none⟩
                  else return .ok job

/-- `Service.Cancel`. -/
def cancel (jobID : String) : Routine Outcome := do
  if jobID == "" then return (none, some (.coded .inputInvalid "scheduled-cancel"))
  else
    match ← issue (.getOccurrence jobID) with
    | .error failure => return (none, some failure)
    | .ok job =>
      if job.status == .cancelled then return (some job, none)
      else if job.status != .queued && job.status != .retryWait then
        return (some job, some (.coded .stateConflict "scheduled-cancel"))
      else
        return Outcome.of (← transitionOccurrence ⟨jobID, job.status, .cancelled, "operator-cancelled", job.planID, job.runID⟩)

/-- `ValidateScheduledJobBinding`. -/
def bound (policy : ScheduledJobPolicy) (job : ScheduledJob) : Bool :=
  policy.enabled && !policy.exactTargetIDs.isEmpty && policy.policyID == job.policyID &&
    policy.revision == job.policyRevision && policy.recoveryEpoch == job.recoveryEpoch

def hasUncertainEffect (run : Run) : Bool :=
  run.steps.any fun step => step.effectState == .intentRecorded || step.effectState == .effectUnknown ||
    step.effectState == .receiptRecorded

def allNotStarted (run : Run) : Bool :=
  !run.steps.isEmpty && run.steps.all fun step => step.effectState == .notStarted

def block (job : ScheduledJob) (reason : String) : Routine Outcome := do
  if job.status == .retryWait then
    return Outcome.of (← transitionOccurrence ⟨job.jobID, .retryWait, .failed, reason, job.planID, job.runID⟩)
  else return Outcome.of (← transitionOccurrence ⟨job.jobID, .queued, .blocked, reason, none, none⟩)

/-- `AcquireOccurrenceLease`; its check reads the store's clock a first time. -/
def acquireOccurrenceLease (jobID leaseID holderID : String) (expiresAt : Time) : Routine (Except Failure Unit) := do
  let checked ← clock
  if jobID == "" || leaseID == "" || holderID == "" || ofSecond expiresAt ≤ checked then
    return .error (.coded .inputInvalid "scheduled-lease")
  else issue (.acquireOccurrenceLease jobID leaseID holderID expiresAt)

/-- The window check of `CreateScheduled` when its clock shows `reading`. -/
def planWindowAdmits (scheduledAt windowClosesAt : Time) (reading : Instant) : Bool :=
  let created := reading.second
  let expires := created + planValiditySeconds
  !(decide (windowClosesAt < expires) || decide (created < scheduledAt))

/-- `CreateScheduled`; what it does after the window check is one call. -/
def createScheduled (request : PlanRequest) : Routine (Except Failure Plan) := do
  let reading ← clock
  if !planWindowAdmits request.scheduledAt request.windowClosesAt reading then return .error (.coded .planStale "plan")
  else issue (.createScheduledPlan request)

/-- One attempt at an occurrence: what `Run` knows once it may take the lease. -/
structure Attempt where
  job : ScheduledJob
  source : JobStatus
  policy : ScheduledJobPolicy
  attribution : Attribution
  (now scheduledAt windowClosesAt : Time)
  revision : Revision

def retryFits (policy : ScheduledJobPolicy) (attempt : Int) (now windowClosesAt : Time) : Bool :=
  decide (attempt < policy.maxAttempts) && decide (ofSecond now + backoff policy attempt < ofSecond windowClosesAt)

/-- The end of an attempt whose run was submitted. A run document has no status
`uncertain`, so that comparison of the source never holds. -/
def settleSubmitted (attempt : Attempt) (planID runID : String) (submitted : Except Failure Run) : Routine Outcome := do
  let settle (target : JobStatus) (reason : String) : Routine Outcome := do
    return Outcome.of (← transitionOccurrence ⟨attempt.job.jobID, .running, target, reason, some planID, some runID⟩)
  match submitted with
  | .error _ => settle .uncertain "effect-unknown"
  | .ok run =>
    if hasUncertainEffect run then settle .uncertain "effect-unknown"
    else if run.status == .succeeded then settle .succeeded "verified"
    else if run.status == .failed && allNotStarted run then
      if retryFits attempt.policy attempt.job.attempt attempt.now attempt.windowClosesAt then
        settle .retryWait "failed-before-effect"
      else settle .failed "retry-exhausted"
    else settle .uncertain "non-terminal-run"

/-- The part of `Run` that holds the occurrence lease. -/
def attemptOccurrence (attempt : Attempt) : Routine Outcome := do
  let job := attempt.job
  let policy := attempt.policy
  match ← issue (.prerequisites (requirements policy)) with
  | .error _ => block job "prerequisite-unavailable"
  | .ok statuses =>
    if !requireCurrent (requirements policy) statuses attempt.now then block job "prerequisite-blocked"
    else
      match ← issue (.observationFingerprint policy) with
      | .error _ => block job "observation-unavailable"
      | .ok observation =>
        if observation == "" then block job "observation-unavailable"
        else if !canonicalPolicy policy then block job "policy-invalid"
        else
          match ← issue (.occurrenceDigest job.jobID) with
          | .error _ => block job "occurrence-invalid"
          | .ok occurrenceDigest =>
            match ← createScheduled ⟨policy, config.policyDigest policy, job.jobID, occurrenceDigest, observation, job.attempt,
                attempt.scheduledAt, attempt.windowClosesAt, attempt.revision⟩ with
            | .error _ => block job "plan-create-failed"
            | .ok plan =>
              match ← issue (.authorizeScheduled attempt.attribution.authenticatedPrincipalID plan) with
              | .error _ => block job "authorization-denied"
              | .ok decision =>
                if !decision.allowed || decision.branch != some .preauthorized ||
                    decision.grantRevision != policy.grantRevision || decision.recoveryEpoch != policy.recoveryEpoch then
                  block job "authorization-denied"
                else
                  let submitKey := job.jobID ++ "-attempt-" ++ toString job.attempt
                  let runID := config.runID plan.planID submitKey
                  match ← issue (.appendAttempt
                      ⟨job.jobID, job.attempt, .running, plan.planID, runID, false, attempt.now⟩) with
                  | .error failure => return (some job, some failure)
                  | .ok () =>
                    match ← transitionOccurrence
                        ⟨job.jobID, attempt.source, .running, "attempt-started", some plan.planID, some runID⟩ with
                    | .error failure => return (some job, some failure)
                    | .ok _ =>
                      let submitted ← issue (.submitScheduled plan decision submitKey attempt.attribution)
                      settleSubmitted attempt plan.planID runID submitted

/-- The part of `Run` after the attempt number is known. -/
def beginAttempt (job : ScheduledJob) (policy : ScheduledJobPolicy) (attribution : Attribution) (now : Time) :
    Routine Outcome := do
  match job.scheduledAt with
  | none => block job "scheduled-at-invalid"
  | some scheduledAt =>
    match ← issue (.windowClosesAt job.jobID) with
    | .error _ => block job "window-unavailable"
    | .ok windowClosesAt =>
      if windowClosesAt ≤ now then block job "window-closed"
      else
        match ← issue .currentScheduleRevision with
        | .error failure => return (some job, some failure)
        | .ok revision =>
          if revision != ⟨policy.stateRevision, policy.recoveryEpoch⟩ then block job "revision-or-epoch-stale"
          else
            let leaseID := job.jobID ++ "-lease-" ++ toString job.attempt
            match ← acquireOccurrenceLease job.jobID leaseID ("schedule:" ++ policy.policyID) windowClosesAt with
            | .error _ => block job "overlap"
            | .ok () =>
              let outcome ← attemptOccurrence config
                ⟨job, job.status, policy, attribution, now, scheduledAt, windowClosesAt, revision⟩
              -- the deferred release, whose own error is dropped
              let _ ← issue (.releaseOccurrenceLease job.jobID leaseID)
              return outcome

def run (job : ScheduledJob) (attribution : Attribution) : Routine Outcome := do
  if (job.status != .queued && job.status != .retryWait) || job.attempt ≤ 0 then return (none, some .unclassified)
  else
    match ← issue (.getActivePolicy job.policyID) with
    | .error failure => return (some job, some failure)
    | .ok policy =>
      if !bound policy job then block job "policy-binding-stale"
      else if attribution.authenticatedPrincipalID == "" || attribution.authenticatedPrincipalMethod == "" then
        block job "runner-principal-missing"
      else
        match ← issue (.getActivePolicyApprover policy.policyID policy.revision) with
        | .error _ => block job "policy-approver-unavailable"
        | .ok approver =>
          if approver == "" then block job "policy-approver-unavailable"
          else
            let attribution := { attribution with responsibleHumanPrincipalID := some approver }
            let now := (← clock).second
            if job.status == .retryWait then
              match ← issue (.latestScheduledAttempt job.jobID) with
              | .error failure => return (some job, some failure)
              | .ok none => return (some job, none)
              | .ok (some previous) =>
                if ofSecond now < ofSecond previous.recordedAt + backoff policy previous.attempt then return (some job, none)
                else beginAttempt config { job with attempt := wrap64 (previous.attempt + 1) } policy attribution now
            else beginAttempt config job policy attribution now

def settleRecovered (job : ScheduledJob) (current : Run) (now : Time) : Routine (Option Failure) := do
  let settle (target : JobStatus) (reason : String) : Routine (Option Failure) := do
    return (Outcome.of (← transitionOccurrence ⟨job.jobID, .running, target, reason, job.planID, job.runID⟩)).2
  if current.status == .succeeded then settle .succeeded "restart-verified"
  else if [Status.failed, .interrupted, .cancelled].contains current.status && allNotStarted current then
    match ← issue (.getActivePolicy job.policyID) with
    | .error failure => return some failure
    | .ok policy =>
      match ← issue (.windowClosesAt job.jobID) with
      | .ok windowClosesAt =>
        if retryFits policy job.attempt now windowClosesAt then settle .retryWait "restart-before-effect"
        else settle .failed "restart-retry-exhausted"
      | .error _ => settle .failed "restart-retry-exhausted"
  else settle .uncertain "restart-effect-unknown"

/-- The body of the loop of `Startup`. -/
def recoverJob (job : ScheduledJob) (now : Time) : Routine (Option Failure) := do
  if job.status == .running then
    match job.runID with
    | none =>
      return (Outcome.of (← transitionOccurrence
        ⟨job.jobID, .running, .uncertain, "restart-after-intent", job.planID, job.runID⟩)).2
    | some runID =>
      match ← issue (.getScheduledRun runID) with
      | .error _ =>
        return (Outcome.of (← transitionOccurrence
          ⟨job.jobID, .running, .uncertain, "restart-run-unavailable", job.planID, job.runID⟩)).2
      | .ok current => settleRecovered job current now
  else return (← run config job ⟨config.principalID, "local-os-peer", none⟩).2

def recoverJobs (now : Time) : List ScheduledJob → Routine (Option Failure)
  | [] => return none
  | job :: rest => do
    match ← recoverJob config job now with
    | some failure => return some failure
    | none => recoverJobs now rest

/-- The reads of `ListRecoverableOccurrences` after its first. -/
def readJobs : List String → Routine (Except Failure (List ScheduledJob))
  | [] => return .ok []
  | jobID :: rest => do
    match ← issue (.getOccurrence jobID) with
    | .error failure => return .error failure
    | .ok job =>
      match ← readJobs rest with
      | .error failure => return .error failure
      | .ok jobs => return .ok (job :: jobs)

def startup : Routine (Option Failure) := do
  let now := (← clock).second
  match ← issue (.releaseExpiredOccurrenceLeases now) with
  | .error failure => return some failure
  | .ok () =>
    match ← issue .recoverableIDs with
    | .error failure => return some failure
    | .ok ids =>
      match ← readJobs ids with
      | .error failure => return some failure
      | .ok jobs => recoverJobs config now jobs

def dispatchAndRun (request : DispatchRequest) (attribution : Attribution) : Routine Outcome := do
  match ← dispatch config request with
  | .error failure => return (none, some failure)
  | .ok job =>
    if job.status == .queued || job.status == .retryWait then run config job attribution else return (some job, none)

inductive EntryPoint where
  | claimOccurrence (claim : OccurrenceClaim)
  | transitionOccurrence (request : OccurrenceTransition)
  | dispatch (request : DispatchRequest)
  | cancel (jobID : String)
  | run (job : ScheduledJob) (attribution : Attribution)
  | startup
  | dispatchAndRun (request : DispatchRequest) (attribution : Attribution)
  | activate (row : ActivationRow)
  | advanceState

def EntryPoint.program : EntryPoint → Routine Unit
  | .claimOccurrence claim => do let _ ← Schedule.claimOccurrence config claim
  | .transitionOccurrence request => do let _ ← Schedule.transitionOccurrence request
  | .dispatch request => do let _ ← Schedule.dispatch config request
  | .cancel jobID => do let _ ← Schedule.cancel jobID
  | .run job attribution => do let _ ← Schedule.run config job attribution
  | .startup => do let _ ← Schedule.startup config
  | .dispatchAndRun request attribution => do let _ ← Schedule.dispatchAndRun config request attribution
  | .activate row => do let _ ← issue (.activate row)
  | .advanceState => do let _ ← issue .advanceState

abbrev Deed := Action (world config) EntryPoint

abbrev Record := Entry (world config)

def execute (initial : Journal) (deeds : List (Deed config)) : Option (System (world config)) :=
  (System.boot initial : System (world config)).run (EntryPoint.program config) deeds

end VskLabs.Schedule

import VskLabs.Library.Outcome
import VskLabs.Library.Table
import VskLabs.Schedule.Policy

/-! The occurrence journal of `ScheduleRepository`: one definition per
transaction or read. A job's current status is the target of its last transition. -/

namespace VskLabs.Schedule
open Library

inductive JobStatus where
  | queued | blocked | skipped | running | retryWait | cancelled | failed | succeeded | uncertain
  deriving DecidableEq

def scheduledJobTransitions : List (JobStatus × JobStatus) :=
  [(.queued, .blocked), (.queued, .cancelled), (.queued, .failed), (.queued, .running), (.queued, .skipped),
    (.retryWait, .cancelled), (.retryWait, .failed), (.retryWait, .running), (.running, .failed),
    (.running, .retryWait), (.running, .succeeded), (.running, .uncertain)]

/-- `ValidatePhase5Transition` of a scheduled job. -/
def validTransition (source target : JobStatus) : Bool := scheduledJobTransitions.contains (source, target)

inductive AttemptStatus where
  | queued | running | failedBeforeEffect | interruptedBeforeEffect | effectUnknown | partialOutcome | succeeded
  deriving DecidableEq

structure Revision where
  (stateRevision recoveryEpoch : Int)
  deriving DecidableEq

/-- An active row of `scheduled_policy_activations` with the policy of its draft. -/
structure ActivationRow where
  policy : ScheduledJobPolicy
  approvedByHumanID : String
  deriving DecidableEq

def ActivationRow.key (row : ActivationRow) : String × Int := (row.policy.policyID, row.policy.revision)

/-- A row of `scheduled_occurrences`; digests that are only compared stand for
the texts they are computed from. -/
structure OccurrenceRow where
  (jobID policyID : String)
  policyRevision : Int
  (scheduledAt windowClosesAt : Time)
  (occurrenceToken targetDigest idempotencyKey : String)
  revision : Revision
  createdAt : Time
  deriving DecidableEq

/-- A row of `scheduled_occurrence_transitions`; `source` is `none` for `new`. -/
structure TransitionRow where
  jobID : String
  source : Option JobStatus
  target : JobStatus
  reasonCode : String
  (planID runID : Option String)
  recordedAt : Time
  deriving DecidableEq

/-- A row of `scheduled_occurrence_attempts`. -/
structure AttemptRow where
  (attemptID jobID : String)
  attempt : Int
  status : AttemptStatus
  (planID runID : String)
  effectStarted : Bool
  recordedAt : Time

/-- A row of `scheduled_occurrence_leases`. -/
structure OccurrenceLeaseRow where
  (jobID leaseID holderID : String)
  (acquiredAt expiresAt : Time)

structure Journal where
  activations : Table ActivationRow.key
  occurrences : Table OccurrenceRow.jobID
  transitions : List TransitionRow
  attempts : Table AttemptRow.attemptID
  leases : Table OccurrenceLeaseRow.jobID
  revision : Revision

def Journal.fresh (activations : Table ActivationRow.key) (revision : Revision) : Journal :=
  ⟨activations, .empty, [], .empty, .empty, revision⟩

def Journal.lastTransition (journal : Journal) (jobID : String) : Option TransitionRow :=
  journal.transitions.reverse.find? fun row => row.jobID == jobID

def Journal.statusOf (journal : Journal) (jobID : String) : Option JobStatus :=
  (journal.lastTransition jobID).map TransitionRow.target

/-- `ScheduledJob`; the scheduled time is what its text parses to. -/
structure ScheduledJob where
  (jobID policyID : String)
  policyRevision : Int
  scheduledAt : Option Time
  attempt : Int
  (planID runID : Option String)
  status : JobStatus
  reasonCode : String
  recoveryEpoch : Int

structure OccurrenceClaim where
  policy : ScheduledJobPolicy
  (scheduledAt windowClosesAt : Instant)
  (occurrenceToken targetDigest idempotencyKey : String)
  expected : Revision
  deriving DecidableEq

structure ScheduledAttempt where
  jobID : String
  attempt : Int
  status : AttemptStatus
  (planID runID : String)
  effectStarted : Bool
  recordedAt : Time
  deriving DecidableEq

structure OccurrenceTransition where
  jobID : String
  (source target : JobStatus)
  reasonCode : String
  (planID runID : Option String)
  deriving DecidableEq

def schedulePolicyMissing : Failure := .coded .resourceNotFound "scheduled-policy"

namespace ScheduleRepository

/-- `GetActivePolicy`: the highest active revision. -/
def getActivePolicy (policyID : String) (journal : Journal) : Except Failure ScheduledJobPolicy := do
  let ofPolicy := journal.activations.rows.filter fun row => row.policy.policyID == policyID
  let newest := ofPolicy.find? fun row => ofPolicy.all fun other => decide (other.policy.revision ≤ row.policy.revision)
  let row ← require newest schedulePolicyMissing
  ensure (canonicalPolicy row.policy) (.coded .integrityFailure "scheduled-policy")
  return row.policy

def getActivePolicyApprover (policyID : String) (revision : Int) (journal : Journal) : Except Failure String := do
  let row ← require (journal.activations.find? (policyID, revision)) (.coded .resourceNotFound "scheduled-policy-approval")
  return row.approvedByHumanID

/-- The row `ClaimOccurrence` offers to the table. -/
def offered (jobID : String) (claim : OccurrenceClaim) (now : Time) : OccurrenceRow :=
  ⟨jobID, claim.policy.policyID, claim.policy.revision, claim.scheduledAt.second, claim.windowClosesAt.second,
    claim.occurrenceToken, claim.targetDigest, claim.idempotencyKey, claim.expected, now⟩

/-- `INSERT OR IGNORE INTO scheduled_occurrences` under its primary key and its
two unique constraints. -/
def insertOccurrence (journal : Journal) (row : OccurrenceRow) : Journal :=
  if journal.occurrences.rows.any fun old =>
      (old.policyID == row.policyID && old.policyRevision == row.policyRevision && old.scheduledAt == row.scheduledAt) ||
        (old.policyID == row.policyID && old.occurrenceToken == row.occurrenceToken) then journal
  else { journal with occurrences := (journal.occurrences.insert? row).getD journal.occurrences }

/-- The checks of `ClaimOccurrence` before it touches the database. -/
def claimable (claim : OccurrenceClaim) : Bool :=
  claim.policy.policyID != "" && claim.scheduledAt != 0 && claim.windowClosesAt != 0 &&
    decide (claim.scheduledAt < claim.windowClosesAt) && claim.occurrenceToken != "" && claim.idempotencyKey != "" &&
    claim.expected.stateRevision == claim.policy.stateRevision && claim.expected.recoveryEpoch == claim.policy.recoveryEpoch

/-- The checks and the transaction of `ClaimOccurrence`. A transition id is never
taken, so the second `INSERT OR IGNORE` always inserts; a missing job is a
violated foreign key. -/
def claimOccurrence (jobID : String) (claim : OccurrenceClaim) (now : Time) (journal : Journal) :
    Except Failure (Unit × Journal) := do
  ensure (claimable claim) (.coded .inputInvalid "scheduled-occurrence")
  let journal := insertOccurrence journal (offered jobID claim now)
  ensure (journal.occurrences.find? jobID).isSome .unclassified
  return ((), { journal with transitions := journal.transitions ++ [⟨jobID, none, .queued, "due", none, none, now⟩] })

/-- `MAX(attempt)` over the attempts of a job. -/
def lastAttempt (journal : Journal) (jobID : String) : Option AttemptRow :=
  let ofJob := journal.attempts.rows.filter fun row => row.jobID == jobID
  ofJob.find? fun row => ofJob.all fun other => decide (other.attempt ≤ row.attempt)

def getOccurrence (jobID : String) (journal : Journal) : Except Failure ScheduledJob := do
  let missing : Failure := .coded .resourceNotFound "scheduled-occurrence"
  let row ← require (journal.occurrences.find? jobID) missing
  let transition ← require (journal.lastTransition jobID) missing
  return ⟨jobID, row.policyID, row.policyRevision, some row.scheduledAt,
    ((lastAttempt journal jobID).map AttemptRow.attempt).getD 1, transition.planID, transition.runID, transition.target,
    transition.reasonCode, row.revision.recoveryEpoch⟩

/-- The checks and the transaction of `TransitionOccurrence`. -/
def transitionOccurrence (request : OccurrenceTransition) (now : Time) (journal : Journal) :
    Except Failure (Unit × Journal) := do
  ensure (validTransition request.source request.target && request.reasonCode != "")
    (.coded .inputInvalid "scheduled-transition")
  let current ← require (journal.statusOf request.jobID) .unclassified
  ensure (current == request.source) (.coded .stateConflict "scheduled-transition")
  return ((), { journal with transitions := journal.transitions ++ [⟨request.jobID, some request.source, request.target,
    request.reasonCode, request.planID, request.runID, now⟩] })

/-- `AppendAttempt`; an attempt without a time is recorded at the store's. -/
def appendAttempt (attempt : ScheduledAttempt) (now : Time) (journal : Journal) : Except Failure (Unit × Journal) := do
  ensure (attempt.jobID != "" && decide (0 < attempt.attempt)) (.coded .inputInvalid "scheduled-attempt")
  ensure ((journal.occurrences.find? attempt.jobID).isSome &&
    journal.attempts.rows.all fun row => row.jobID != attempt.jobID || row.attempt != attempt.attempt) constraintViolated
  let attempts ← require (journal.attempts.insert? ⟨attempt.jobID ++ "-attempt-" ++ toString attempt.attempt,
    attempt.jobID, attempt.attempt, attempt.status, attempt.planID, attempt.runID, attempt.effectStarted,
    if attempt.recordedAt.isZero then now else attempt.recordedAt⟩) constraintViolated
  return ((), { journal with attempts := attempts })

/-- The transaction of `AcquireOccurrenceLease`. An expired lease is replaced. -/
def acquireOccurrenceLease (row : OccurrenceLeaseRow) (journal : Journal) : Except Failure (Unit × Journal) := do
  ensure ((journal.leases.find? row.jobID).all fun old => decide (old.expiresAt ≤ row.acquiredAt))
    (.coded .stateConflict "scheduled-lease")
  let leases := journal.leases.delete fun old => old.jobID == row.jobID
  ensure ((journal.occurrences.find? row.jobID).isSome && leases.rows.all fun old => old.leaseID != row.leaseID)
    constraintViolated
  let leases ← require (leases.insert? row) constraintViolated
  return ((), { journal with leases := leases })

def releaseOccurrenceLease (jobID leaseID : String) (journal : Journal) : Except Failure (Unit × Journal) := do
  ensure ((journal.leases.find? jobID).any fun row => row.leaseID == leaseID) (.coded .stateConflict "scheduled-lease")
  return ((), { journal with leases := journal.leases.delete fun row => row.jobID == jobID && row.leaseID == leaseID })

def releaseExpiredOccurrenceLeases (now : Time) (journal : Journal) : Except Failure (Unit × Journal) :=
  return ((), { journal with leases := journal.leases.delete fun row => decide (row.expiresAt ≤ now) })

/-- The order of `ORDER BY o.created_at,o.job_id`. -/
def recoveredBefore (first second : OccurrenceRow) : Prop :=
  first.createdAt < second.createdAt ∨ (first.createdAt = second.createdAt ∧ first.jobID ≤ second.jobID)

instance : DecidableRel recoveredBefore := fun _ _ => inferInstanceAs (Decidable (_ ∨ _ ∧ _))

def recoverable (status : JobStatus) : Bool := [JobStatus.queued, .running, .retryWait].contains status

/-- The first read of `ListRecoverableOccurrences`; each job is read again. -/
def recoverableIDs (journal : Journal) : Except Failure (List String) :=
  return ((journal.occurrences.rows.filter fun row => (journal.statusOf row.jobID).any recoverable).insertionSort
    recoveredBefore).map OccurrenceRow.jobID

def windowClosesAt (jobID : String) (journal : Journal) : Except Failure Time := do
  let row ← require (journal.occurrences.find? jobID) (.coded .resourceNotFound "scheduled-occurrence")
  return row.windowClosesAt

/-- `ScheduledOccurrenceDigest`, over the digest of a row. -/
def occurrenceDigest (digest : OccurrenceRow → String) (jobID : String) (journal : Journal) : Except Failure String := do
  let row ← require (journal.occurrences.find? jobID) .unclassified
  return digest row

/-- `Activate`, after the human approval it checks: one active row per revision. -/
def activate (row : ActivationRow) (journal : Journal) : Except Failure (Unit × Journal) := do
  ensure (canonicalPolicy row.policy) (.coded .integrityFailure "scheduled-policy-draft")
  let activations ← require (journal.activations.insert? row) constraintViolated
  return ((), { journal with activations := activations })

def advanceState (journal : Journal) : Except Failure (Unit × Journal) :=
  return ((), { journal with revision := { journal.revision with stateRevision := journal.revision.stateRevision + 1 } })

end ScheduleRepository

end VskLabs.Schedule

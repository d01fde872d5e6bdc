import VskLabs.Library.Concurrent
import VskLabs.Library.Transaction
import VskLabs.Schedule.Repository

/-! Everything the dispatcher and the runner ask for: the journal, the clock and
the components that plan, authorize and run an occurrence. -/

namespace VskLabs.Schedule
open Library

/-- The parts of `audit.Attribution` the runner reads and sets. -/
structure Attribution where
  (authenticatedPrincipalID authenticatedPrincipalMethod : String)
  responsibleHumanPrincipalID : Option String
  deriving DecidableEq

structure PlanRequest where
  policy : ScheduledJobPolicy
  (policyDigest jobID occurrenceDigest observationFingerprint : String)
  attempt : Int
  (scheduledAt windowClosesAt : Time)
  expected : Revision
  deriving DecidableEq

inductive Call where
  | clock
  | prerequisites (requirements : List PrerequisiteRequirement)
  | observationFingerprint (policy : ScheduledJobPolicy)
  | createScheduledPlan (request : PlanRequest)
  | authorizeScheduled (principalID : String) (plan : Plan)
  | submitScheduled (plan : Plan) (decision : AuthorizationDecision) (key : String) (attribution : Attribution)
  | getScheduledRun (runID : String)
  | getActivePolicy (policyID : String)
  | getActivePolicyApprover (policyID : String) (revision : Int)
  | currentScheduleRevision
  | claimOccurrence (claim : OccurrenceClaim)
  | getOccurrence (jobID : String)
  | transitionOccurrence (request : OccurrenceTransition)
  | appendAttempt (attempt : ScheduledAttempt)
  | latestScheduledAttempt (jobID : String)
  | acquireOccurrenceLease (jobID leaseID holderID : String) (expiresAt : Time)
  | releaseOccurrenceLease (jobID leaseID : String)
  | releaseExpiredOccurrenceLeases (now : Time)
  | recoverableIDs
  | windowClosesAt (jobID : String)
  | occurrenceDigest (jobID : String)
  | activate (row : ActivationRow)
  | advanceState
  deriving DecidableEq

@[reducible] def Reply : Call → Type
  | .clock => Instant
  | .prerequisites _ => Except Failure (List PrerequisiteStatus)
  | .observationFingerprint _ => Except Failure String
  | .createScheduledPlan _ => Except Failure Plan
  | .authorizeScheduled _ _ => Except Failure AuthorizationDecision
  | .submitScheduled _ _ _ _ => Except Failure Run
  | .getScheduledRun _ => Except Failure Run
  | .getActivePolicy _ => Except Failure ScheduledJobPolicy
  | .getActivePolicyApprover _ _ => Except Failure String
  | .currentScheduleRevision => Except Failure Revision
  | .claimOccurrence _ => Except Failure Unit
  | .getOccurrence _ => Except Failure ScheduledJob
  | .transitionOccurrence _ => Except Failure Unit
  | .appendAttempt _ => Except Failure Unit
  | .latestScheduledAttempt _ => Except Failure (Option AttemptRow)
  | .acquireOccurrenceLease _ _ _ _ => Except Failure Unit
  | .releaseOccurrenceLease _ _ => Except Failure Unit
  | .releaseExpiredOccurrenceLeases _ => Except Failure Unit
  | .recoverableIDs => Except Failure (List String)
  | .windowClosesAt _ => Except Failure Time
  | .occurrenceDigest _ => Except Failure String
  | .activate _ => Except Failure Unit
  | .advanceState => Except Failure Unit

abbrev Routine (α : Type) := Program Call Reply α

def issue (query : Call) : Routine (Reply query) := Program.call query

structure ScheduleConfig where
  jobID : String → Int → Time → String
  targetDigest : ScheduledJobPolicy → String
  policyDigest : ScheduledJobPolicy → String
  occurrenceDigest : OccurrenceRow → String
  runID : String → String → String
  principalID : String

/-- The environment's choice for one call. A call of the repository comes with
what the store's own clock reads during it. -/
inductive Answer where
  | journal (fault : Fault Failure) (storeClock : Instant)
  | clock (instant : Instant)
  | prerequisites (outcome : Except Failure (List PrerequisiteStatus))
  | fingerprint (outcome : Except Failure String)
  | plan (outcome : Except Failure Plan)
  | decision (outcome : Except Failure AuthorizationDecision)
  | run (outcome : Except Failure Run)

variable (config : ScheduleConfig)

def ScheduleConfig.claimedJob (claim : OccurrenceClaim) : String :=
  config.jobID claim.policy.policyID claim.policy.revision claim.scheduledAt.second

open ScheduleRepository in
def journalCall (query : Call) (fault : Fault Failure) (now : Time) (journal : Journal) :
    Option (Reply query × Journal) :=
  match query with
  | .getActivePolicy policyID => some (readState fault (getActivePolicy policyID) journal)
  | .getActivePolicyApprover policyID revision => some (readState fault (getActivePolicyApprover policyID revision) journal)
  | .currentScheduleRevision => some (readState fault (fun journal => .ok journal.revision) journal)
  | .claimOccurrence claim => some (commit fault (claimOccurrence (config.claimedJob claim) claim now) journal)
  | .getOccurrence jobID => some (readState fault (getOccurrence jobID) journal)
  | .transitionOccurrence request => some (commit fault (transitionOccurrence request now) journal)
  | .appendAttempt attempt => some (commit fault (appendAttempt attempt now) journal)
  | .latestScheduledAttempt jobID => some (readState fault (fun journal => .ok (lastAttempt journal jobID)) journal)
  | .acquireOccurrenceLease jobID leaseID holderID expiresAt =>
    some (commit fault (acquireOccurrenceLease ⟨jobID, leaseID, holderID, now, expiresAt⟩) journal)
  | .releaseOccurrenceLease jobID leaseID => some (commit fault (releaseOccurrenceLease jobID leaseID) journal)
  | .releaseExpiredOccurrenceLeases now => some (commit fault (releaseExpiredOccurrenceLeases now) journal)
  | .recoverableIDs => some (readState fault recoverableIDs journal)
  | .windowClosesAt jobID => some (readState fault (windowClosesAt jobID) journal)
  | .occurrenceDigest jobID => some (readState fault (occurrenceDigest config.occurrenceDigest jobID) journal)
  | .activate row => some (commit fault (activate row) journal)
  | .advanceState => some (commit fault advanceState journal)
  | _ => none

def respond (query : Call) (answer : Answer) (journal : Journal) : Option (Reply query × Journal) :=
  match query, answer with
  | .clock, .clock instant => some (instant, journal)
  | .prerequisites _, .prerequisites outcome => some (outcome, journal)
  | .observationFingerprint _, .fingerprint outcome => some (outcome, journal)
  | .createScheduledPlan _, .plan outcome => some (outcome, journal)
  | .authorizeScheduled _ _, .decision outcome => some (outcome, journal)
  | .submitScheduled _ _ _ _, .run outcome => some (outcome, journal)
  | .getScheduledRun _, .run outcome => some (outcome, journal)
  | query, .journal fault storeClock => journalCall config query fault storeClock.second journal
  | _, _ => none

abbrev world : Service Call Reply where
  State := Journal
  Answer := Answer
  respond := respond config

end VskLabs.Schedule

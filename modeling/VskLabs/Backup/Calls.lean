import VskLabs.Backup.Retirement
import VskLabs.Library.Machine

/-! The calls on the tables in the order of their transactions. A call reads the
clock before its transaction starts, so that the reading may be older than those
of transactions before it. -/

namespace VskLabs.Backup
open Library

inductive Call where
  | acquireWriter (request : WriterLeaseRequest)
  | appendPoint (request : PendingPointRequest)
  | failJob (leaseID : String) (outcome : JobFailure)
  | acquireReader (request : ReadLeaseRequest)
  | releaseReader (leaseID : String)
  | appendVerification (request : VerificationRequest)
  | advanceLastGood (request : LastGoodRequest)
  | putPolicy (policy : Policy)
  | activateLocks (request : LockRequest)
  | stage (request : StageRequest)
  | claim (request : ClaimRequest)
  | beginMutation (request : MutationRequest)
  | finishMutation (request : OutcomeRequest)
  | beginCustody (leaseID nonceDigest : String)
  | finishCustody (nonceDigest : String) (outcome : CustodyStatus)
  | commit (request : SettlementRequest)
  | advanceRevision
  | startEpoch

/-- `UNIQUE(policy_digest, recovery_epoch)`. -/
def putPolicy (backups : Backups) (policy : Policy) : Except Failure Backups := do
  ensure (policyOf backups policy.policyDigest policy.recoveryEpoch).isNone constraintViolated
  return { backups with policies := backups.policies ++ [policy] }

def Call.transact (backups : Backups) (now : Instant) : Call → Except Failure Backups
  | .acquireWriter request => acquireBackupWriterLease backups now request
  | .appendPoint request => appendPendingRecoveryPoint backups now request
  | .failJob leaseID outcome => failBackupJob backups now leaseID outcome
  | .acquireReader request => acquireBackupReadLease backups now request
  | .releaseReader leaseID => releaseBackupReadLease backups now leaseID
  | .appendVerification request => appendLocalVerification backups now request
  | .advanceLastGood request => advanceUnderReadLease backups now request
  | .putPolicy policy => Backup.putPolicy backups policy
  | .activateLocks request => activateLocalRetentionLockCatalog backups request
  | .stage request => stageLocalRetirement backups request
  | .claim request => claimLocalRetirement backups now request
  | .beginMutation request => (beginLocalMutation backups now request).map Prod.fst
  | .finishMutation request => finishLocalMutation backups request
  | .beginCustody leaseID nonceDigest => beginRetirementCustody backups leaseID nonceDigest
  | .finishCustody nonceDigest outcome => finishRetirementCustody backups nonceDigest outcome
  | .commit request => commitLocalRetirementSuccess backups now request
  | .advanceRevision => .ok { backups with stateRevision := backups.stateRevision + 1 }
  | .startEpoch => .ok { backups with recoveryEpoch := backups.recoveryEpoch + 1 }

def Call.perform (backups : Backups) (now : Instant) (call : Call) : Backups :=
  match call.transact backups now with
  | .ok after => after
  | .error _ => backups

/-- The mutation for which `BeginLocalMutation` returns nil. -/
def Call.granted (backups : Backups) (now : Instant) : Call → Option MutationAttempt
  | .beginMutation request =>
    match beginLocalMutation backups now request with
    | .ok (_, true) => some request.toMutationAttempt
    | _ => none
  | _ => none

structure Moment where
  clock : Instant
  backups : Backups
  granted : List MutationAttempt

/-- Time passes, or a call commits whose reading of the clock is `age` old. -/
inductive Event where
  | tick (elapsed : Nat)
  | call (age : Nat) (call : Call)

def Event.step (moment : Moment) : Event → Moment
  | .tick elapsed => { moment with clock := moment.clock + elapsed }
  | .call age made =>
    { moment with
      backups := made.perform moment.backups (moment.clock - age)
      granted := moment.granted ++ (made.granted moment.backups (moment.clock - age)).toList }

def Moment.start (clock : Instant) : Moment := ⟨clock, .fresh, []⟩

def after (clock : Instant) (history : List Event) : Moment := execute Event.step (.start clock) history

theorem Call.perform_cases {backups : Backups} {now : Instant} {call : Call} (property : Backups → Prop)
    (unchanged : property backups) (success : ∀ after, call.transact backups now = .ok after → property after) :
    property (call.perform backups now) := by
  unfold Call.perform
  split
  next after done => exact success after done
  · exact unchanged

end VskLabs.Backup

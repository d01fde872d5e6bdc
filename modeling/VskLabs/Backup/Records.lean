import VskLabs.Contracts.Documents
import VskLabs.Library.Outcome
import VskLabs.Library.Table

/-! The tables of local backups: jobs, the three kinds of repository leases,
recovery points with their verifications, and the retirement of points. -/

namespace VskLabs.Backup
open Library

/-- A reading of the clock in nanoseconds. Texts hold whole seconds, the `Time`
of the other tables. -/
abbrev Instant := Int

/-- `Truncate(time.Second)`, as a text keeps it. -/
def second (instant : Instant) : Time := instant / 1000000000

/-- `now.Before(deadline)` for a deadline read from a text. -/
def before (now : Instant) (deadline : Time) : Bool := decide (now < deadline * 1000000000)

inductive RepositoryClass where
  | standard | critical
  deriving DecidableEq

/-- The repository of each class in `backupidentity`. -/
def RepositoryClass.repositoryID : RepositoryClass → String
  | .standard => "local-standard"
  | .critical => "local-critical"

inductive JobStatus where
  | queued | running | pending | failed | uncertain
  deriving DecidableEq

structure Job where
  jobID : String
  repositoryClass : RepositoryClass
  pointID : Option String
  status : JobStatus
  recoveryEpoch : Int

structure WriterLease where
  (leaseID policyID policyDigest jobID : String)
  pointID : Option String
  (runID stepID repositoryID : String)
  repositoryClass : RepositoryClass
  (sourceRevision recoveryEpoch : Int)
  (maximumExpiresAt acquiredAt : Time)
  releasedAt : Option Time

structure ReadLease where
  (leaseID pointID repositoryID : String)
  repositoryClass : RepositoryClass
  (sourceRevision stateRevision recoveryEpoch : Int)
  (maximumExpiresAt acquiredAt : Time)
  releasedAt : Option Time

structure RetirementLease where
  (leaseID intentID : String)
  repositoryClass : RepositoryClass
  recoveryEpoch : Int
  (maximumExpiresAt acquiredAt : Time)
  releasedAt : Option Time
  deriving DecidableEq

inductive ObjectType where
  | config | keys | data | index | snapshots | locks
  deriving DecidableEq

structure ExpectedObject where
  type : ObjectType
  name : String
  bytes : Int
  digest : String
  deriving DecidableEq

structure Manifest where
  (pointID policyID policyDigest repositoryID : String)
  repositoryClass : RepositoryClass
  (runID stepID : String)
  sourceRevision : Int
  (catalogDigest dependencyInventoryDigest keyReferenceID : String)

structure RecoveryPoint where
  (pointID jobID policyDigest repositoryID : String)
  repositoryClass : RepositoryClass
  snapshotID : String
  objectBytes : Int
  (contentDigest manifestDigest inventoryDigest : String)
  manifest : Manifest
  expectedObjects : List ExpectedObject
  (sourceRevision recoveryEpoch : Int)
  createdAt : Time

inductive VerificationStatus where
  | fixtureOnly | localVerified | fullPayloadDue | functionalTestDue | failed | uncertain
  deriving DecidableEq

inductive ProofClass where
  | fixture | live
  deriving DecidableEq

structure Verification where
  (verificationID proofDigest pointID : String)
  status : VerificationStatus
  proofClass : ProofClass
  (manifestDigest inventoryDigest contentDigest dependencyDigest : String)
  (stateRevision recoveryEpoch : Int)
  (fullReadAt functionalRestoredAt : Option Time)
  createdAt : Time
  successorGenerationDigest : Option String

structure Capacity where
  (totalBytes availableBytes quarantinedBytes : Int)
  deriving DecidableEq

structure CapacityObservation where
  verificationID : String
  repositoryClass : RepositoryClass
  recoveryEpoch : Int
  capacity : Capacity
  observedAt : Time

structure LastGood where
  repositoryClass : RepositoryClass
  (pointID verificationID : String)
  recoveryEpoch : Int

/-- A policy draft; `decodable` says that its text decodes to a policy of schema
1.2.0 whose intervals are in range. -/
structure Policy where
  policyDigest : String
  recoveryEpoch : Int
  decodable : Bool
  (fullPayloadIntervalHours functionalTestIntervalHours expectedGrowthBytes : Int)

/-- One generation of the retention lock catalog; its activation sequence is its
place in the table. -/
structure LockActivation where
  repositoryClass : RepositoryClass
  recoveryEpoch : Int
  (catalogDigest sourceCoverageDigest : String)
  lockedPointIDs : List String

structure Target where
  (pointID snapshotID manifestDigest inventoryDigest dependencyDigest : String)

structure Survivor extends Target where
  proofDigest : String

structure Selection where
  repositoryID : String
  repositoryClass : RepositoryClass
  (expectedInventoryDigest lockCatalogDigest sourceCoverageDigest : String)
  lockCatalogSequence : Int
  targets : List Target
  survivors : List Survivor
  (sourceRevision stateRevision recoveryEpoch expectedReclaimBytes maxWorkObjects : Int)
  (maxMutationBytes maxRepackBytes : Int)
  capacity : Capacity
  (capacityRetainedBytes capacityExpectedGrowthBytes : Int)

structure Intent where
  (intentID planID planDigest : String)
  selection : Selection

inductive MutationKind where
  | put | delete
  deriving DecidableEq

structure MutationAttempt where
  (mutationID leaseID : String)
  sequence : Int
  mutationKind : MutationKind
  object : ExpectedObject
  recoveryEpoch : Int
  deriving DecidableEq

inductive MutationStatus where
  | created | quarantined | denied | uncertain
  deriving DecidableEq

structure MutationOutcome where
  mutationID : String
  status : MutationStatus
  quarantineName : Option String

inductive CustodyStatus where
  | succeeded | failed | uncertain
  deriving DecidableEq

structure CustodyAttempt where
  (nonceDigest leaseID : String)
  outcome : Option CustodyStatus

structure Generation where
  (generationDigest intentID : String)
  repositoryClass : RepositoryClass
  (recoveryEpoch generationSequence : Int)
  parentGenerationDigest : Option String
  successorInventoryDigest : String
  survivors : List Survivor
  objects : List ExpectedObject
  stateRevision : Int
  recordedAt : Time

structure Backups where
  jobs : Table Job.jobID
  writers : Table WriterLease.leaseID
  readers : Table ReadLease.leaseID
  retirements : Table RetirementLease.leaseID
  points : Table RecoveryPoint.pointID
  verifications : Table Verification.verificationID
  observations : List CapacityObservation
  lastGood : Table LastGood.repositoryClass
  policies : List Policy
  activations : List LockActivation
  intents : Table Intent.intentID
  attempts : Table MutationAttempt.mutationID
  outcomes : Table MutationOutcome.mutationID
  custody : Table CustodyAttempt.nonceDigest
  generations : Table Generation.generationDigest
  (stateRevision recoveryEpoch : Int)

def Backups.fresh : Backups :=
  ⟨.empty, .empty, .empty, .empty, .empty, .empty, [], .empty, [], [], .empty, .empty, .empty, .empty, .empty, 0, 0⟩

def failed (code : ErrorCode) (target : String) : Failure := .coded code target

end VskLabs.Backup

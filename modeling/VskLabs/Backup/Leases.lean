import VskLabs.Backup.Records

/-! Writer and read leases, the recovery point that a writer publishes, and the
verifications that readers append. -/

namespace VskLabs.Backup
open Library

variable (backups : Backups) (now : Instant)

/-! ### Writers -/

/-- `BackupWriterLeaseRequest`; `admitted` stands for the patterns of its texts. -/
structure WriterLeaseRequest where
  (leaseID jobID policyID policyDigest runID stepID repositoryID : String)
  repositoryClass : RepositoryClass
  (sourceRevision recoveryEpoch : Int)
  maximumExpiresAt : Instant
  admitted : Bool

/-- `released_at IS NULL AND maximum_expires_at < ?` on writer leases of a class. -/
def WriterLease.overdue (repositoryClass : RepositoryClass) (now : Time) (lease : WriterLease) : Bool :=
  lease.repositoryClass == repositoryClass && lease.releasedAt == none && decide (lease.maximumExpiresAt < now)

/-- `released_at IS NULL AND maximum_expires_at <= ?` on read leases of a class. -/
def ReadLease.overdue (repositoryClass : RepositoryClass) (now : Time) (lease : ReadLease) : Bool :=
  lease.repositoryClass == repositoryClass && lease.releasedAt == none && decide (lease.maximumExpiresAt ≤ now)

def WriterLease.open_ (repositoryClass : RepositoryClass) (lease : WriterLease) : Bool :=
  lease.repositoryClass == repositoryClass && lease.releasedAt == none

def ReadLease.open_ (repositoryClass : RepositoryClass) (lease : ReadLease) : Bool :=
  lease.repositoryClass == repositoryClass && lease.releasedAt == none

def RetirementLease.open_ (repositoryClass : RepositoryClass) (lease : RetirementLease) : Bool :=
  lease.repositoryClass == repositoryClass && lease.releasedAt == none

/-- The expired writer leases of the class are released and their open jobs are
marked uncertain. -/
def reclaimWriters (repositoryClass : RepositoryClass) (now : Time) : Backups :=
  { backups with
    jobs := backups.jobs.modify
      (fun job => (job.status == .queued || job.status == .running) &&
        backups.writers.rows.any fun lease => lease.overdue repositoryClass now && lease.jobID == job.jobID)
      (fun job => { job with status := .uncertain }) fun _ => rfl
    writers := backups.writers.modify (WriterLease.overdue repositoryClass now)
      (fun lease => { lease with releasedAt := some now }) fun _ => rfl }

def reclaimReaders (repositoryClass : RepositoryClass) (now : Time) : Backups :=
  { backups with
    readers := backups.readers.modify (ReadLease.overdue repositoryClass now)
      (fun lease => { lease with releasedAt := some now }) fun _ => rfl }

def insertWriter (lease : WriterLease) : Except Failure Backups := do
  ensure (!backups.writers.rows.any (WriterLease.open_ lease.repositoryClass)) constraintViolated
  let writers ← require (backups.writers.insert? lease) constraintViolated
  return { backups with writers }

def WriterLeaseRequest.job (request : WriterLeaseRequest) : Job :=
  ⟨request.jobID, request.repositoryClass, none, .running, request.recoveryEpoch⟩

def WriterLeaseRequest.lease (request : WriterLeaseRequest) (stamp : Time) : WriterLease :=
  ⟨request.leaseID, request.policyID, request.policyDigest, request.jobID, none, request.runID, request.stepID,
    request.repositoryID, request.repositoryClass, request.sourceRevision, request.recoveryEpoch,
    second request.maximumExpiresAt, stamp, none⟩

def acquireBackupWriterLease (request : WriterLeaseRequest) : Except Failure Backups := do
  ensure (request.admitted && decide (0 ≤ request.recoveryEpoch)) (failed .inputInvalid "backup-writer-lease")
  let stamp := second now
  let backups := reclaimReaders (reclaimWriters backups request.repositoryClass stamp) request.repositoryClass stamp
  ensure (!backups.readers.rows.any (ReadLease.open_ request.repositoryClass)) (failed .stateConflict "backup-writer-lease")
  ensure (!backups.retirements.rows.any (RetirementLease.open_ request.repositoryClass))
    (failed .stateConflict "backup-writer-lease")
  let jobs ← require (backups.jobs.insert? request.job) constraintViolated
  insertWriter { backups with jobs } (request.lease stamp)

/-- `PendingRecoveryPointRequest`. The manifest is the one `validatePendingManifest`
decoded; `admitted` stands for the checks of the request alone and `policyBound`
for the comparison with the policy draft. -/
structure PendingPointRequest where
  (leaseID pointID snapshotID : String)
  objectBytes : Int
  (contentDigest manifestDigest inventoryDigest : String)
  manifest : Manifest
  expectedObjects : List ExpectedObject
  (sourceRevision recoveryEpoch : Int)
  (admitted policyBound : Bool)

def PendingPointRequest.matchesLease (request : PendingPointRequest) (lease : WriterLease) : Bool :=
  lease.recoveryEpoch == request.recoveryEpoch && lease.sourceRevision == request.sourceRevision &&
    request.manifest.policyID == lease.policyID && request.manifest.policyDigest == lease.policyDigest &&
    request.manifest.repositoryID == lease.repositoryID && request.manifest.repositoryClass == lease.repositoryClass &&
    request.manifest.runID == lease.runID && request.manifest.stepID == lease.stepID &&
    request.manifest.sourceRevision == lease.sourceRevision

def PendingPointRequest.point (request : PendingPointRequest) (lease : WriterLease) (stamp : Time) : RecoveryPoint :=
  ⟨request.pointID, lease.jobID, lease.policyDigest, lease.repositoryID, lease.repositoryClass, request.snapshotID,
    request.objectBytes, request.contentDigest, request.manifestDigest, request.inventoryDigest, request.manifest,
    request.expectedObjects, request.sourceRevision, lease.recoveryEpoch, stamp⟩

def appendPendingRecoveryPoint (request : PendingPointRequest) : Except Failure Backups := do
  ensure request.admitted (failed .inputInvalid "backup-pending-point")
  let stamp := second now
  let lease ← require ((backups.writers.find? request.leaseID).filter fun lease => lease.releasedAt == none)
    (failed .planStale "backup-writer-lease")
  ensure (request.matchesLease lease && decide (stamp < lease.maximumExpiresAt)) (failed .planStale "backup-writer-lease")
  ensure request.policyBound (failed .integrityFailure "backup-policy-binding")
  -- `UNIQUE(repository_id, snapshot_id)`
  ensure (!backups.points.rows.any fun point =>
    point.repositoryID == lease.repositoryID && point.snapshotID == request.snapshotID) constraintViolated
  let points ← require (backups.points.insert? (request.point lease stamp)) constraintViolated
  return { backups with
    points
    jobs := backups.jobs.modify (fun job => job.jobID == lease.jobID)
      (fun job => { job with status := .pending, pointID := some request.pointID }) fun _ => rfl
    writers := backups.writers.modify (fun row => row.leaseID == request.leaseID)
      (fun row => { row with releasedAt := some stamp, pointID := some request.pointID }) fun _ => rfl }

/-- The two outcomes that `FailBackupJob` records. -/
inductive JobFailure where
  | failed | uncertain

def JobFailure.status : JobFailure → JobStatus
  | .failed => .failed
  | .uncertain => .uncertain

def failBackupJob (leaseID : String) (outcome : JobFailure) : Except Failure Backups := do
  let lease ← require ((backups.writers.find? leaseID).filter fun lease => lease.releasedAt == none)
    (failed .resourceNotFound "backup-writer-lease")
  return { backups with
    jobs := backups.jobs.modify (fun job => job.jobID == lease.jobID) (fun job => { job with status := outcome.status })
      fun _ => rfl
    writers := backups.writers.modify (fun row => row.leaseID == leaseID)
      (fun row => { row with releasedAt := some (second now) }) fun _ => rfl }

/-! ### Readers -/

structure RevisionToken where
  (stateRevision recoveryEpoch : Int)
  deriving DecidableEq

structure ReadLeaseRequest where
  (leaseID pointID repositoryID : String)
  repositoryClass : RepositoryClass
  sourceRevision : Int
  expected : RevisionToken
  maximumExpiresAt : Instant
  admitted : Bool

def atRevision (expected : RevisionToken) : Bool :=
  backups.stateRevision == expected.stateRevision && backups.recoveryEpoch == expected.recoveryEpoch

def ReadLeaseRequest.matchesPoint (request : ReadLeaseRequest) (point : RecoveryPoint) : Bool :=
  point.repositoryID == request.repositoryID && point.repositoryClass == request.repositoryClass &&
    point.sourceRevision == request.sourceRevision && point.recoveryEpoch == request.expected.recoveryEpoch

def insertReader (lease : ReadLease) : Except Failure Backups := do
  ensure (!backups.readers.rows.any (ReadLease.open_ lease.repositoryClass)) constraintViolated
  let readers ← require (backups.readers.insert? lease) constraintViolated
  return { backups with readers }

def ReadLeaseRequest.lease (request : ReadLeaseRequest) (stamp : Time) : ReadLease :=
  ⟨request.leaseID, request.pointID, request.repositoryID, request.repositoryClass, request.sourceRevision,
    request.expected.stateRevision, request.expected.recoveryEpoch, second request.maximumExpiresAt, stamp, none⟩

def acquireBackupReadLease (request : ReadLeaseRequest) : Except Failure Backups := do
  ensure (request.admitted && decide (second now * 1000000000 < request.maximumExpiresAt))
    (failed .inputInvalid "backup-read-lease")
  let stamp := second now
  ensure (atRevision backups request.expected) (failed .planStale "backup-read-lease")
  ensure ((backups.points.find? request.pointID).any request.matchesPoint) (failed .planStale "backup-read-lease")
  let backups := reclaimReaders backups request.repositoryClass stamp
  ensure (!backups.writers.rows.any fun lease =>
    lease.open_ request.repositoryClass && decide (stamp < lease.maximumExpiresAt)) (failed .stateConflict "backup-read-lease")
  ensure (!backups.retirements.rows.any (RetirementLease.open_ request.repositoryClass))
    (failed .stateConflict "backup-read-lease")
  insertReader backups (request.lease stamp)

def releaseBackupReadLease (leaseID : String) : Except Failure Backups := do
  ensure ((backups.readers.find? leaseID).any fun lease => lease.releasedAt == none)
    (failed .stateConflict "backup-read-lease")
  return { backups with
    readers := backups.readers.modify (fun row => row.leaseID == leaseID && row.releasedAt == none)
      (fun row => { row with releasedAt := some (second now) }) fun _ => rfl }

/-! ### Verifications -/

inductive VerificationResult where
  | passed | failed | uncertain

/-- `LocalVerificationRequest`. The proof digest is that of the whole request;
`admitted` stands for the patterns of its texts and `trusted` for the comparison
of the dependency trust evidence. -/
structure VerificationRequest where
  (verificationID proofDigest pointID readLeaseID manifestDigest inventoryDigest : String)
  observedDigest : String
  successorGenerationDigest : Option String
  (contentDigest catalogDigest dependencyDigest keyReferenceID : String)
  sourceRevision : Int
  capacity : Capacity
  expected : RevisionToken
  proofClass : ProofClass
  result : VerificationResult
  (fullReadAt functionalRestoredAt : Option Instant)
  (admitted trusted : Bool)

def hours (count : Int) : Int := count * 3600 * 1000000000

def Capacity.plausible (capacity : Capacity) : Bool :=
  decide (1 ≤ capacity.totalBytes) && decide (0 ≤ capacity.availableBytes) &&
    decide (capacity.availableBytes ≤ capacity.totalBytes) && decide (0 ≤ capacity.quarantinedBytes) &&
    decide (capacity.quarantinedBytes ≤ capacity.totalBytes - capacity.availableBytes)

def VerificationRequest.timely (request : VerificationRequest) : Bool :=
  match request.fullReadAt, request.functionalRestoredAt with
  | some read, some restored => decide (read ≤ restored) && decide (read ≤ now) && decide (restored ≤ now)
  | _, _ => false

def VerificationRequest.attained (request : VerificationRequest) : Except Failure VerificationStatus :=
  match request.result with
  | .failed => .ok .failed
  | .uncertain => .ok .uncertain
  | .passed => do
    ensure ((request.observedDigest == request.inventoryDigest) == request.successorGenerationDigest.isNone &&
      request.timely now) (Backup.failed .integrityFailure "backup-local-verification")
    match request.proofClass with
    | .fixture => return .fixtureOnly
    | .live => do
      ensure request.capacity.plausible (Backup.failed .prerequisiteBlocked "backup-local-verification-capacity")
      return .localVerified

def boundSuccessor (request : VerificationRequest) (repositoryClass : RepositoryClass) : Bool :=
  request.successorGenerationDigest.all fun digest =>
    (backups.generations.find? digest).any fun generation =>
      generation.repositoryClass == repositoryClass && generation.recoveryEpoch == backups.recoveryEpoch &&
        generation.successorInventoryDigest == request.observedDigest &&
        generation.survivors.any fun survivor => survivor.pointID == request.pointID &&
          survivor.manifestDigest == request.manifestDigest && survivor.inventoryDigest == request.inventoryDigest &&
          survivor.dependencyDigest == request.dependencyDigest

def policyOf (policyDigest : String) (recoveryEpoch : Int) : Option Policy :=
  backups.policies.find? fun policy => policy.policyDigest == policyDigest && policy.recoveryEpoch == recoveryEpoch

def Policy.cadence (policy : Policy) (request : VerificationRequest) (status : VerificationStatus) : VerificationStatus :=
  if status = .localVerified then
    if !request.fullReadAt.all fun read => decide (now < read + hours policy.fullPayloadIntervalHours) then .fullPayloadDue
    else if !request.functionalRestoredAt.all fun restored => decide (now < restored + hours policy.functionalTestIntervalHours)
      then .functionalTestDue
    else .localVerified
  else status

def VerificationRequest.matchesManifest (request : VerificationRequest) (manifest : Manifest) : Bool :=
  manifest.catalogDigest == request.catalogDigest && manifest.dependencyInventoryDigest == request.dependencyDigest &&
    manifest.keyReferenceID == request.keyReferenceID

def VerificationRequest.matchesPoint (request : VerificationRequest) (point : RecoveryPoint) : Bool :=
  point.manifestDigest == request.manifestDigest && point.inventoryDigest == request.inventoryDigest &&
    point.contentDigest == request.contentDigest && point.sourceRevision == request.sourceRevision &&
    point.recoveryEpoch == request.expected.recoveryEpoch

def VerificationRequest.row (request : VerificationRequest) (status : VerificationStatus) : Verification :=
  ⟨request.verificationID, request.proofDigest, request.pointID, status, request.proofClass, request.manifestDigest,
    request.inventoryDigest, request.contentDigest, request.dependencyDigest, backups.stateRevision,
    backups.recoveryEpoch, request.fullReadAt.map second, request.functionalRestoredAt.map second, second now,
    request.successorGenerationDigest⟩

/-- The checks of `AppendLocalVerification`, with the point and the status they yield. -/
def checkVerification (request : VerificationRequest) : Except Failure (RecoveryPoint × VerificationStatus) := do
  ensure request.admitted (failed .inputInvalid "backup-local-verification")
  let attained ← request.attained now
  let point ← require (backups.points.find? request.pointID) .unclassified
  ensure (request.matchesManifest point.manifest) (failed .integrityFailure "backup-local-verification")
  ensure (request.matchesPoint point && atRevision backups request.expected) (failed .planStale "backup-local-verification")
  ensure (boundSuccessor backups request point.repositoryClass)
    (failed .integrityFailure "backup-local-verification-successor")
  ensure (attained != .localVerified || request.trusted)
    (failed .prerequisiteBlocked "backup-local-verification-dependency-trust")
  let policy ← require (policyOf backups point.policyDigest backups.recoveryEpoch)
    (failed .prerequisiteBlocked "backup-local-verification-policy")
  ensure policy.decodable (failed .prerequisiteBlocked "backup-local-verification-cadence")
  ensure ((backups.readers.find? request.readLeaseID).any fun lease => lease.pointID == request.pointID &&
    lease.repositoryClass == point.repositoryClass && lease.stateRevision == backups.stateRevision &&
    lease.recoveryEpoch == backups.recoveryEpoch && lease.releasedAt == none &&
    decide (second now < lease.maximumExpiresAt)) (failed .planStale "backup-local-verification")
  return (point, policy.cadence now request attained)

def appendLocalVerification (request : VerificationRequest) : Except Failure Backups := do
  let (point, status) ← checkVerification backups now request
  ensure (!backups.verifications.rows.any fun row => row.proofDigest == request.proofDigest) constraintViolated
  let verifications ← require (backups.verifications.insert? (request.row backups now status)) constraintViolated
  let observations := if status = .localVerified then
    backups.observations ++ [⟨request.verificationID, point.repositoryClass, backups.recoveryEpoch, request.capacity, second now⟩]
    else backups.observations
  return { backups with verifications, observations }

def Policy.current (policy : Policy) (verification : Verification) : Bool :=
  policy.decodable &&
    (verification.fullReadAt.any fun read => decide (now < read * 1000000000 + hours policy.fullPayloadIntervalHours)) &&
    verification.functionalRestoredAt.any fun restored =>
      decide (now < restored * 1000000000 + hours policy.functionalTestIntervalHours)

/-- The arguments of `AdvanceLocalLastGood`: the receipt, the expected revision and
the predecessor, and the read lease of the verification that makes the call;
`trusted` stands for the count of its trust evidence. -/
structure LastGoodRequest where
  (verificationID proofDigest pointID readLeaseID : String)
  repositoryClass : RepositoryClass
  (receipt expected : RevisionToken)
  previousVerificationID : Option String
  trusted : Bool

def LastGoodRequest.proves (request : LastGoodRequest) (verification : Verification) (point : RecoveryPoint) : Bool :=
  verification.proofDigest == request.proofDigest && verification.pointID == request.pointID &&
    point.repositoryClass == request.repositoryClass && verification.status == .localVerified &&
    verification.proofClass == .live && verification.stateRevision == request.expected.stateRevision &&
    verification.recoveryEpoch == request.expected.recoveryEpoch &&
    verification.manifestDigest == point.manifestDigest && verification.inventoryDigest == point.inventoryDigest &&
    verification.contentDigest == point.contentDigest

def LastGoodRequest.row (request : LastGoodRequest) : LastGood :=
  ⟨request.repositoryClass, request.pointID, request.verificationID, request.expected.recoveryEpoch⟩

/-- The checks of `AdvanceLocalLastGood`. -/
def checkLastGood (request : LastGoodRequest) : Except Failure Unit := do
  ensure (atRevision backups request.expected && request.receipt == request.expected) (failed .planStale "backup-last-good")
  let verification ← require (backups.verifications.find? request.verificationID) (failed .planStale "backup-last-good")
  let point ← require (backups.points.find? request.pointID) (failed .planStale "backup-last-good")
  let policy ← require (policyOf backups point.policyDigest point.recoveryEpoch) (failed .planStale "backup-last-good")
  ensure (request.proves verification point) (failed .planStale "backup-last-good")
  ensure (policy.current now verification) (failed .prerequisiteBlocked "backup-last-good-cadence")
  ensure request.trusted (failed .prerequisiteBlocked "backup-last-good-dependency-trust")
  let current := (backups.lastGood.find? request.repositoryClass).map LastGood.verificationID
  ensure (current == request.previousVerificationID && current != some request.verificationID)
    (failed .stateConflict "backup-last-good")

def advanceLocalLastGood (request : LastGoodRequest) : Except Failure Backups := do
  checkLastGood backups now request
  let others := backups.lastGood.delete fun old => old.repositoryClass == request.repositoryClass
  let lastGood ← require (others.insert? request.row) constraintViolated
  return { backups with lastGood }

/-- The only call of `AdvanceLocalLastGood`: a verification makes it before it gives
its read lease back, in a context that ends when the lease may be reclaimed. -/
def advanceUnderReadLease (request : LastGoodRequest) : Except Failure Backups := do
  ensure ((backups.readers.find? request.readLeaseID).any fun lease => lease.pointID == request.pointID &&
    lease.open_ request.repositoryClass) .deadlineExceeded
  advanceLocalLastGood backups now request

end VskLabs.Backup

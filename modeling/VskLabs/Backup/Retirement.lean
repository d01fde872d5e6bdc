import Mathlib.Algebra.Ring.Int.Defs
import VskLabs.Backup.Leases
import Mathlib.Data.List.Sort

/-! Retiring recovery points: the staged selection, the exclusive claim, the
write-ahead journal of mutations and the settlement. -/

namespace VskLabs.Backup
open Library

variable (backups : Backups) (now : Instant)

/-! ### Staging -/

/-- `sort.Slice` by point. -/
def byPoint {α : Type} (pointID : α → String) (rows : List α) : List α :=
  rows.insertionSort fun first second => pointID first ≤ pointID second

def ObjectType.text : ObjectType → String
  | .config => "config"
  | .keys => "keys"
  | .data => "data"
  | .index => "index"
  | .snapshots => "snapshots"
  | .locks => "locks"

/-- `sort.Slice` by type and name. -/
def byObject (rows : List ExpectedObject) : List ExpectedObject :=
  rows.insertionSort fun first second => first.type.text < second.type.text ∨
    first.type.text = second.type.text ∧ first.name ≤ second.name

def Selection.distinct (selection : Selection) : Bool :=
  decide ((selection.targets.map Target.pointID ++ selection.survivors.map fun survivor => survivor.pointID).Nodup) &&
    decide ((selection.targets.map Target.snapshotID ++ selection.survivors.map fun survivor => survivor.snapshotID).Nodup)

/-- `canonicalRetirementSelection` up to the patterns of its texts. -/
def canonicalRetirementSelection (selection : Selection) : Except Failure Selection := do
  ensure (selection.repositoryID == selection.repositoryClass.repositoryID && decide (1 ≤ selection.lockCatalogSequence) &&
    decide (1 ≤ selection.sourceRevision) && decide (1 ≤ selection.stateRevision) && decide (0 ≤ selection.recoveryEpoch) &&
    decide (0 ≤ selection.expectedReclaimBytes) && decide (1 ≤ selection.maxWorkObjects) &&
    decide (1 ≤ selection.maxMutationBytes) && decide (1 ≤ selection.maxRepackBytes) &&
    decide (1 ≤ selection.capacity.totalBytes) && decide (0 ≤ selection.capacity.availableBytes) &&
    decide (selection.capacity.availableBytes ≤ selection.capacity.totalBytes) &&
    decide (1 ≤ selection.capacityRetainedBytes) && decide (0 ≤ selection.capacity.quarantinedBytes) &&
    decide (0 ≤ selection.capacityExpectedGrowthBytes) && !selection.targets.isEmpty && !selection.survivors.isEmpty &&
    decide (selection.targets.length + selection.survivors.length ≤ 256) && selection.distinct)
    (failed .inputInvalid "local-retirement-selection")
  return { selection with
    targets := byPoint Target.pointID selection.targets
    survivors := byPoint (fun survivor => survivor.pointID) selection.survivors }

/-- `LocalRetirementStageRequest`. The intent's id is a digest of the rest;
`admitted` stands for the patterns of the texts and `planned` for the comparison
with the stored plan. -/
structure StageRequest where
  (intentID planID planDigest : String)
  selection : Selection
  (admitted planned : Bool)

/-- `StageLocalRetirement`, one intent for a plan. -/
def stageLocalRetirement (request : StageRequest) : Except Failure Backups := do
  ensure request.admitted (failed .inputInvalid "local-retirement-intent")
  let selection ← canonicalRetirementSelection request.selection
  ensure (atRevision backups ⟨selection.stateRevision, selection.recoveryEpoch⟩) (failed .stateConflict "local-retirement-intent")
  ensure (!backups.intents.rows.any fun intent => intent.planID == request.planID) (failed .stateConflict "intent")
  ensure request.planned (failed .prerequisiteBlocked "local-retirement-plan")
  let intents ← require (backups.intents.insert? ⟨request.intentID, request.planID, request.planDigest, selection⟩)
    constraintViolated
  return { backups with intents }

/-! ### Locks -/

/-- `LocalRetentionLockActivationRequest`; `authorized` stands for the human plan,
run and acknowledgement. -/
structure LockRequest where
  activation : LockActivation
  expected : RevisionToken
  authorized : Bool

def activateLocalRetentionLockCatalog (request : LockRequest) : Except Failure Backups := do
  let activation := request.activation
  ensure (request.expected.recoveryEpoch == activation.recoveryEpoch && atRevision backups request.expected)
    (failed .stateConflict "local-retention-lock-activation")
  ensure request.authorized (failed .authorizationDenied "local-retention-lock-human-run")
  ensure (activation.lockedPointIDs.all fun pointID => (backups.points.find? pointID).any fun point =>
    point.repositoryID == activation.repositoryClass.repositoryID &&
      point.repositoryClass == activation.repositoryClass && point.recoveryEpoch == activation.recoveryEpoch)
    (failed .prerequisiteBlocked "local-retention-lock-unknown-point")
  ensure (!backups.activations.any fun row => row.repositoryClass == activation.repositoryClass &&
    row.recoveryEpoch == activation.recoveryEpoch && row.catalogDigest == activation.catalogDigest) constraintViolated
  return { backups with activations := backups.activations ++ [activation] }

def numberedActivations : List (Int × LockActivation) :=
  backups.activations.zipIdx.map fun pair => ((pair.2 : Int) + 1, pair.1)

/-- `ORDER BY activation_sequence DESC LIMIT 1`. -/
def currentLocks (repositoryClass : RepositoryClass) (recoveryEpoch : Int) : Option (Int × LockActivation) :=
  ((numberedActivations backups).filter fun pair =>
    pair.2.repositoryClass == repositoryClass && pair.2.recoveryEpoch == recoveryEpoch).getLast?

def Selection.lockedBy (selection : Selection) (current : Int × LockActivation) : Bool :=
  current.2.catalogDigest == selection.lockCatalogDigest && current.2.sourceCoverageDigest == selection.sourceCoverageDigest &&
    current.1 == selection.lockCatalogSequence

/-! ### Current points -/

/-- `ORDER BY state_revision DESC,created_at DESC,verification_id DESC`. -/
def Verification.newer (first second : Verification) : Prop :=
  first.stateRevision > second.stateRevision ∨ first.stateRevision = second.stateRevision ∧
    (first.createdAt > second.createdAt ∨ first.createdAt = second.createdAt ∧ first.verificationID ≥ second.verificationID)

instance : DecidableRel Verification.newer := fun _ _ => inferInstanceAs (Decidable (_ ∨ _ ∧ (_ ∨ _ ∧ _)))

def liveVerification (pointID : String) : Option Verification :=
  ((backups.verifications.rows.filter fun row =>
    row.pointID == pointID && row.status == .localVerified && row.proofClass == .live).insertionSort Verification.newer).head?

def ofClass (repositoryClass : RepositoryClass) (recoveryEpoch : Int) (point : RecoveryPoint) : Bool :=
  point.repositoryClass == repositoryClass && point.recoveryEpoch == recoveryEpoch

def verifiedPoints (repositoryClass : RepositoryClass) (recoveryEpoch : Int) : List (RecoveryPoint × Verification) :=
  (backups.points.rows.filter (ofClass repositoryClass recoveryEpoch)).filterMap fun point =>
    (liveVerification backups point.pointID).map fun verification => (point, verification)

/-- `localRetirementCurrentSuccessor`. -/
structure Successor where
  (digest inventoryDigest : String)
  stateRevision : Int
  recordedAt : Time
  survivors : List Survivor
  objects : List ExpectedObject
  retiredPointIDs : List String

/-- The loop over the chain of generations; the digests of the stored texts agree
by the way they are written. -/
def walkGenerations : List Generation → Int → Option String → List String → Option Successor →
    Except Failure (Option Successor)
  | [], _, _, _, latest => .ok latest
  | generation :: rest, count, prior, retired, _ => do
    let intent ← require (backups.intents.find? generation.intentID) (failed .integrityFailure "local-retirement-successor-chain")
    let retired' := retired ++ intent.selection.targets.map Target.pointID
    ensure (generation.generationSequence == count + 1 && generation.parentGenerationDigest == prior &&
      decide retired'.Nodup && decide (generation.survivors.map fun survivor => survivor.pointID).Nodup &&
      decide (generation.objects.map fun object => (object.type, object.name)).Nodup)
      (failed .integrityFailure "local-retirement-successor-chain")
    walkGenerations rest (count + 1) (some generation.generationDigest) retired'
      (some ⟨generation.generationDigest, generation.successorInventoryDigest, generation.stateRevision,
        generation.recordedAt, generation.survivors, generation.objects, retired'⟩)

def generationsOf (repositoryClass : RepositoryClass) (recoveryEpoch : Int) : List Generation :=
  (backups.generations.rows.filter fun generation => generation.repositoryClass == repositoryClass &&
    generation.recoveryEpoch == recoveryEpoch).insertionSort
    fun first second => first.generationSequence ≤ second.generationSequence

def loadLocalRetirementCurrentSuccessor (repositoryClass : RepositoryClass) (recoveryEpoch : Int) :
    Except Failure (Option Successor) :=
  walkGenerations backups (generationsOf backups repositoryClass recoveryEpoch) 0 none [] none

/-- `isPostSuccessorRecoveryPoint` for a point that is no survivor. -/
def isPostSuccessorRecoveryPoint (successor : Successor) (point : RecoveryPoint) (verification : Verification) : Bool :=
  !successor.retiredPointIDs.contains point.pointID && verification.successorGenerationDigest == none &&
    (decide (successor.stateRevision < verification.stateRevision) ||
      verification.stateRevision == successor.stateRevision && decide (successor.recordedAt < point.createdAt))

def keepsPoint (successor : Option Successor) (point : RecoveryPoint) (verification : Verification) : Except Failure Bool :=
  match successor with
  | none => .ok true
  | some successor =>
    match successor.survivors.find? fun survivor => survivor.pointID == point.pointID with
    | none => .ok (isPostSuccessorRecoveryPoint successor point verification)
    | some expected => do
      ensure (verification.successorGenerationDigest == some successor.digest && point.snapshotID == expected.snapshotID &&
        point.manifestDigest == expected.manifestDigest && point.inventoryDigest == expected.inventoryDigest &&
        point.manifest.dependencyInventoryDigest == expected.dependencyDigest)
        (failed .integrityFailure "local-retirement-successor-source")
      return true

def currentPoints (successor : Option Successor) :
    List (RecoveryPoint × Verification) → Except Failure (List (RecoveryPoint × Verification))
  | [] => .ok []
  | (point, verification) :: rest => do
    let kept ← keepsPoint successor point verification
    let later ← currentPoints successor rest
    return if kept then (point, verification) :: later else later

def loadLocalRetirementCurrentPointIDs (repositoryClass : RepositoryClass) (recoveryEpoch : Int) :
    Except Failure (List String) := do
  let successor ← loadLocalRetirementCurrentSuccessor backups repositoryClass recoveryEpoch
  let rows ← currentPoints successor (verifiedPoints backups repositoryClass recoveryEpoch)
  ensure (successor.all fun successor => decide (successor.survivors.length ≤ rows.length))
    (failed .prerequisiteBlocked "local-retirement-successor-source")
  return rows.map fun row => row.1.pointID

/-! ### The claim -/

/-- `ORDER BY observed_at DESC,observation_id DESC`. -/
def CapacityObservation.newer (first second : CapacityObservation) : Prop :=
  first.observedAt > second.observedAt ∨ first.observedAt = second.observedAt ∧ first.verificationID ≥ second.verificationID

instance : DecidableRel CapacityObservation.newer := fun _ _ => inferInstanceAs (Decidable (_ ∨ _ ∧ _))

def latestCapacity (repositoryClass : RepositoryClass) (recoveryEpoch : Int) : Option Capacity :=
  ((backups.observations.filter fun row => row.repositoryClass == repositoryClass &&
    row.recoveryEpoch == recoveryEpoch).insertionSort CapacityObservation.newer).head?.map CapacityObservation.capacity

/-- `LocalRetirementClaimRequest`; `authorized` stands for the human run, its step,
lease and acknowledgement with their deadlines. -/
structure ClaimRequest where
  (intentID leaseID planID planDigest : String)
  recoveryEpoch : Int
  maximumExpiresAt : Instant
  (admitted authorized : Bool)

/-- The stored point of a target or a survivor. -/
def exactPoint (selection : Selection) (target : Target) : Option RecoveryPoint :=
  (backups.points.find? target.pointID).filter fun point =>
    point.snapshotID == target.snapshotID && point.repositoryID == selection.repositoryID &&
      ofClass selection.repositoryClass selection.recoveryEpoch point && point.manifestDigest == target.manifestDigest &&
      point.inventoryDigest == target.inventoryDigest

/-- The row of a survivor: a proof of its point, and the policy of the point. -/
def survivorProof (selection : Selection) (survivor : Survivor) : Option (Verification × Policy) := do
  let point ← exactPoint backups selection survivor.toTarget
  let policy ← policyOf backups point.policyDigest point.recoveryEpoch
  let row ← backups.verifications.rows.find? fun row => row.pointID == survivor.pointID &&
    row.proofDigest == survivor.proofDigest && row.status == .localVerified && row.proofClass == .live &&
    row.manifestDigest == survivor.manifestDigest && row.inventoryDigest == survivor.inventoryDigest &&
    row.dependencyDigest == survivor.dependencyDigest && decide (row.stateRevision ≤ selection.stateRevision) &&
    row.recoveryEpoch == selection.recoveryEpoch && row.fullReadAt.isSome && row.functionalRestoredAt.isSome
  return (row, policy)

def proveSurvivors (selection : Selection) : List Survivor → Except Failure Unit
  | [] => .ok ()
  | survivor :: rest => do
    let (row, policy) ← require (survivorProof backups selection survivor) (failed .planStale "local-retirement-survivor-proof")
    ensure (policy.current (second now * 1000000000) row) (failed .prerequisiteBlocked "local-retirement-survivor-cadence")
    proveSurvivors selection rest

def Selection.survives (selection : Selection) (pointID : String) : Bool :=
  selection.survivors.any fun survivor => survivor.pointID == pointID

def Selection.coversPoints (selection : Selection) (pointIDs : List String) : Bool :=
  pointIDs.length == selection.targets.length + selection.survivors.length &&
    (selection.targets.all fun target => pointIDs.contains target.pointID) &&
    selection.survivors.all fun survivor => pointIDs.contains survivor.pointID

def unleased (repositoryClass : RepositoryClass) : Bool :=
  !backups.writers.rows.any (WriterLease.open_ repositoryClass) &&
    !backups.readers.rows.any (ReadLease.open_ repositoryClass) &&
    !backups.retirements.rows.any (RetirementLease.open_ repositoryClass)

def ClaimRequest.lease (request : ClaimRequest) (selection : Selection) (stamp : Time) : RetirementLease :=
  ⟨request.leaseID, request.intentID, selection.repositoryClass, selection.recoveryEpoch,
    second request.maximumExpiresAt, stamp, none⟩

def claimLocalRetirement (request : ClaimRequest) : Except Failure Backups := do
  ensure request.admitted (failed .inputInvalid "local-retirement-claim")
  ensure (decide (second now * 1000000000 < request.maximumExpiresAt)) (failed .planStale "local-retirement-claim")
  let intent ← require (backups.intents.find? request.intentID) .unclassified
  let selection := intent.selection
  ensure (intent.planID == request.planID && intent.planDigest == request.planDigest &&
    selection.recoveryEpoch == request.recoveryEpoch) (failed .planStale "local-retirement-claim")
  ensure (atRevision backups ⟨selection.stateRevision, selection.recoveryEpoch⟩) (failed .planStale "local-retirement-claim")
  let locks ← require ((currentLocks backups selection.repositoryClass selection.recoveryEpoch).filter selection.lockedBy)
    (failed .planStale "local-retirement-lock-catalog")
  ensure request.authorized (failed .authorizationDenied "local-retirement-human-run")
  ensure (unleased backups selection.repositoryClass) (failed .stateConflict "local-retirement-exclusive-lease")
  let pointIDs ← (loadLocalRetirementCurrentPointIDs backups selection.repositoryClass selection.recoveryEpoch).mapError
    fun _ => failed .planStale "local-retirement-point-set"
  ensure (selection.coversPoints pointIDs) (failed .planStale "local-retirement-point-set")
  ensure (latestCapacity backups selection.repositoryClass selection.recoveryEpoch == some selection.capacity)
    (failed .planStale "local-retirement-capacity")
  proveSurvivors backups now selection selection.survivors
  ensure (selection.targets.all fun target => (exactPoint backups selection target).isSome)
    (failed .planStale "local-retirement-target")
  ensure (locks.2.lockedPointIDs.all selection.survives) (failed .authorizationDenied "local-retirement-locked-point")
  ensure ((backups.lastGood.find? selection.repositoryClass).any fun row =>
    row.recoveryEpoch == selection.recoveryEpoch && selection.survives row.pointID)
    (failed .prerequisiteBlocked "local-retirement-last-good")
  let retirements ← require (backups.retirements.insert? (request.lease selection (second now))) constraintViolated
  return { backups with retirements }

/-! ### The journal -/

/-- `LocalRetirementMutationAttempt`; `running` stands for the run, step, executor
lease and plan of the retirement lease, and `admitted` for the patterns. -/
structure MutationRequest extends MutationAttempt where
  (admitted running : Bool)

def journalOf (leaseID : String) : List MutationAttempt :=
  backups.attempts.rows.filter fun attempt => attempt.leaseID == leaseID

def outcomeOf (mutationID : String) : Option MutationStatus := (backups.outcomes.find? mutationID).map MutationOutcome.status

def settled (attempt : MutationAttempt) : Bool :=
  (outcomeOf backups attempt.mutationID).any fun status => status == .created || status == .quarantined

def MutationAttempt.repacks (attempt : MutationAttempt) : Bool :=
  attempt.mutationKind == .put && (attempt.object.type == .data || attempt.object.type == .index)

def totalBytes (attempts : List MutationAttempt) : Int := (attempts.map fun attempt => attempt.object.bytes).sum

def repackBytes (attempts : List MutationAttempt) : Int := totalBytes (attempts.filter MutationAttempt.repacks)

def withinBudget (selection : Selection) (attempt : MutationAttempt) : Bool :=
  let journal := journalOf backups attempt.leaseID
  journal.all (settled backups) && attempt.sequence == journal.length + 1 &&
    decide ((journal.length : Int) < selection.maxWorkObjects) &&
    decide (attempt.object.bytes ≤ selection.maxMutationBytes - totalBytes journal) &&
    (!attempt.repacks || decide (attempt.object.bytes ≤ selection.maxRepackBytes - repackBytes journal))

def MutationAttempt.touchable (attempt : MutationAttempt) : Bool :=
  attempt.object.type != .config && attempt.object.type != .keys &&
    !(attempt.mutationKind == .put && attempt.object.type == .snapshots)

def knownObject (selection : Selection) (attempt : MutationAttempt) : Bool :=
  attempt.mutationKind == .put || attempt.object.type == .locks ||
    (backups.points.rows.any fun point => point.repositoryID == selection.repositoryID &&
      ofClass selection.repositoryClass selection.recoveryEpoch point && point.expectedObjects.contains attempt.object) ||
    (journalOf backups attempt.leaseID).any fun earlier => earlier.mutationKind == .put && earlier.object == attempt.object &&
      outcomeOf backups earlier.mutationID == some .created

def targetSnapshot (selection : Selection) (attempt : MutationAttempt) : Bool :=
  attempt.object.type != .snapshots || selection.targets.any fun target =>
    target.snapshotID == attempt.object.name && (backups.points.find? target.pointID).any fun point =>
      point.snapshotID == target.snapshotID && point.manifestDigest == target.manifestDigest &&
        point.repositoryID == selection.repositoryID && ofClass selection.repositoryClass selection.recoveryEpoch point

def recordAttempt (attempt : MutationAttempt) : Except Failure Backups := do
  -- `UNIQUE(lease_id,sequence)`
  ensure (!(journalOf backups attempt.leaseID).any fun earlier => earlier.sequence == attempt.sequence) constraintViolated
  let attempts ← require (backups.attempts.insert? attempt) constraintViolated
  return { backups with attempts }

def recordOutcome (outcome : MutationOutcome) : Except Failure Backups := do
  let outcomes ← require (backups.outcomes.insert? outcome) constraintViolated
  return { backups with outcomes }

/-- The selection of the open retirement lease of an attempt, with the checks that
leave no record. The lease carries the class and the epoch of its selection. -/
def mutationSelection (request : MutationRequest) : Except Failure Selection := do
  ensure (request.admitted && decide (1 ≤ request.sequence) && decide (0 ≤ request.object.bytes))
    (failed .inputInvalid "local-retirement-mutation")
  ensure ((backups.attempts.find? request.mutationID).isNone) (failed .recoveryRequired "local-retirement-mutation-replay")
  let lease ← require ((backups.retirements.find? request.leaseID).filter fun lease => lease.releasedAt == none)
    (failed .recoveryRequired "local-retirement-mutation-lease")
  let intent ← require (backups.intents.find? lease.intentID) (failed .recoveryRequired "local-retirement-mutation-lease")
  let selection := intent.selection
  ensure (request.running && lease.recoveryEpoch == request.recoveryEpoch && before now lease.maximumExpiresAt)
    (failed .recoveryRequired "local-retirement-mutation-lease")
  ensure (atRevision backups ⟨selection.stateRevision, lease.recoveryEpoch⟩) (failed .planStale "local-retirement-mutation")
  ensure ((currentLocks backups lease.repositoryClass lease.recoveryEpoch).any selection.lockedBy)
    (failed .planStale "local-retirement-lock-catalog")
  return selection

def grants (selection : Selection) (attempt : MutationAttempt) : Bool :=
  withinBudget backups selection attempt && attempt.touchable && knownObject backups selection attempt &&
    targetSnapshot backups selection attempt

/-- `BeginLocalMutation`: the new tables and whether the attempt is granted. A
denied attempt is recorded together with its outcome. -/
def beginLocalMutation (request : MutationRequest) : Except Failure (Backups × Bool) := do
  let selection ← mutationSelection backups now request
  let begun ← recordAttempt backups request.toMutationAttempt
  if grants backups selection request.toMutationAttempt then return (begun, true)
  let after ← recordOutcome begun ⟨request.mutationID, .denied, none⟩
  return (after, false)

/-- `LocalRetirementMutationOutcome`. -/
structure OutcomeRequest where
  (mutationID leaseID : String)
  status : MutationStatus
  quarantineName : Option String
  admitted : Bool

def finishLocalMutation (request : OutcomeRequest) : Except Failure Backups := do
  ensure request.admitted (failed .inputInvalid "local-retirement-mutation-outcome")
  ensure ((backups.outcomes.find? request.mutationID).isNone) (failed .stateConflict "local-retirement-outcome-replay")
  let attempt ← require ((backups.attempts.find? request.mutationID).filter fun row => row.leaseID == request.leaseID)
    (failed .prerequisiteBlocked "local-retirement-unbegun-mutation")
  ensure ((request.status != .created || attempt.mutationKind == .put) &&
    (request.status != .quarantined || attempt.mutationKind == .delete) &&
    request.quarantineName == (if request.status = .quarantined
      then some (attempt.object.type.text ++ "/" ++ attempt.object.name) else none))
    (failed .inputInvalid "local-retirement-mutation-outcome")
  recordOutcome backups ⟨request.mutationID, request.status, request.quarantineName⟩

/-! ### Custody and settlement -/

def beginRetirementCustody (leaseID nonceDigest : String) : Except Failure Backups := do
  ensure ((backups.retirements.find? leaseID).any fun lease => lease.releasedAt == none) (failed .planStale "retirement-custody")
  let custody ← require (backups.custody.insert? ⟨nonceDigest, leaseID, none⟩) constraintViolated
  return { backups with custody }

/-- `FinishRetirementCustody`: one outcome for an attempt. -/
def finishRetirementCustody (nonceDigest : String) (outcome : CustodyStatus) : Except Failure Backups := do
  ensure ((backups.custody.find? nonceDigest).any fun attempt => attempt.outcome == none) constraintViolated
  return { backups with
    custody := backups.custody.modify (fun attempt => attempt.nonceDigest == nonceDigest)
      (fun attempt => { attempt with outcome := some outcome }) fun _ => rfl }

/-- `LocalRetirementSettlement`. The generation's digest is that of the rest and
`admitted` stands for the patterns and the inventory's digest. -/
structure SettlementRequest where
  (intentID leaseID generationDigest successorInventoryDigest : String)
  survivorPointIDs : List String
  successorObjects : List ExpectedObject
  recoveryEpoch : Int
  admitted : Bool

def custodySucceeded (leaseID : String) : Bool :=
  (backups.custody.rows.filter fun attempt => attempt.leaseID == leaseID).map CustodyAttempt.outcome == [some .succeeded]

/-- The trigger `backup_retirement_leases_release_only`. -/
def releaseRetirement (leaseID : String) : Except Failure Backups := do
  ensure (backups.retirements.rows.all fun lease => lease.leaseID != leaseID || lease.releasedAt != none ||
    decide (lease.acquiredAt < second now)) constraintViolated
  return { backups with
    retirements := backups.retirements.modify (fun lease => lease.leaseID == leaseID && lease.releasedAt == none)
      (fun lease => { lease with releasedAt := some (second now) }) fun _ => rfl }

def SettlementRequest.matchesSurvivors (request : SettlementRequest) (selection : Selection) : Bool :=
  byPoint id request.survivorPointIDs ==
    byPoint id (selection.survivors.map fun survivor => survivor.pointID)

def SettlementRequest.generation (request : SettlementRequest) (selection : Selection) (prior : Option Generation)
    (stamp : Time) : Generation :=
  ⟨request.generationDigest, request.intentID, selection.repositoryClass, selection.recoveryEpoch,
    (prior.map Generation.generationSequence).getD 0 + 1, prior.map Generation.generationDigest,
    request.successorInventoryDigest, byPoint (fun survivor => survivor.pointID) selection.survivors,
    byObject request.successorObjects, selection.stateRevision, stamp⟩

def commitLocalRetirementSuccess (request : SettlementRequest) : Except Failure Backups := do
  ensure request.admitted (failed .inputInvalid "local-retirement-settlement")
  ensure (decide (request.successorObjects.map fun object => (object.type, object.name)).Nodup)
    (failed .inputInvalid "local-retirement-successor-inventory")
  let lease ← require ((backups.retirements.find? request.leaseID).filter fun lease =>
    lease.intentID == request.intentID && lease.releasedAt == none) .unclassified
  let intent ← require (backups.intents.find? request.intentID) .unclassified
  let selection := intent.selection
  ensure (selection.recoveryEpoch == request.recoveryEpoch) (failed .planStale "local-retirement-settlement")
  ensure (request.matchesSurvivors selection) (failed .planStale "local-retirement-survivors")
  ensure ((journalOf backups request.leaseID).all (settled backups)) (failed .recoveryRequired "local-retirement-settlement")
  ensure (custodySucceeded backups request.leaseID) (failed .recoveryRequired "local-retirement-custody")
  let prior := (generationsOf backups selection.repositoryClass selection.recoveryEpoch).getLast?
  let generations ← require (backups.generations.insert? (request.generation selection prior (second now))) constraintViolated
  releaseRetirement { backups with generations } now lease.leaseID

end VskLabs.Backup

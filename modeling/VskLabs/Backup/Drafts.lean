import VskLabs.Backup.Retirement

/-! The rows that a retirement draft is made of. -/

namespace VskLabs.Backup
open Library

variable (backups : Backups)

/-- `CurrentAppliedLocalRetentionLocks`; `applied` stands for the plan, run and
acknowledgement of the activation. -/
def currentAppliedLocalRetentionLocks (applied : Bool) (repositoryClass : RepositoryClass) (recoveryEpoch : Int) :
    Except Failure (Int × LockActivation) := do
  ensure (decide (0 ≤ recoveryEpoch)) (failed .inputInvalid "local-retention-lock-catalog")
  ensure (backups.recoveryEpoch == recoveryEpoch) (failed .recoveryEpochMismatch "local-retention-lock-catalog")
  let locks ← require (currentLocks backups repositoryClass recoveryEpoch)
    (failed .prerequisiteBlocked "local-retention-lock-catalog-missing")
  ensure applied (failed .prerequisiteBlocked "local-retention-lock-catalog-plan")
  return locks

/-- `LocalRetirementDraftInput`. -/
structure DraftInput where
  (pointID snapshotID repositoryID manifestDigest dependencyDigest inventoryDigest : String)
  proofDigest : String
  createdAt : Time
  (bytes sourceRevision recoveryEpoch : Int)

def RecoveryPoint.draftInput (point : RecoveryPoint) (verification : Verification) : DraftInput :=
  ⟨point.pointID, point.snapshotID, point.repositoryID, point.manifestDigest, point.manifest.dependencyInventoryDigest,
    point.inventoryDigest, verification.proofDigest, point.createdAt, point.objectBytes, point.sourceRevision,
    point.recoveryEpoch⟩

/-- `LocalRetirementDraftSources`. -/
structure DraftSources where
  points : List DraftInput
  lastGoodIDs : List String
  objects : List ExpectedObject
  locks : Int × LockActivation
  (stateRevision recoveryEpoch : Int)
  capacity : Capacity
  expectedGrowthBytes : Int

def draftPoints (successor : Option Successor) :
    List (RecoveryPoint × Verification) → Except Failure (List (RecoveryPoint × Verification))
  | [] => .ok []
  | (point, verification) :: rest => do
    ensure (point.manifest.pointID == point.pointID && point.manifest.dependencyInventoryDigest != "")
      (failed .integrityFailure "local-retirement-draft-manifest")
    let kept ← keepsPoint successor point verification
    let later ← draftPoints successor rest
    return if kept then (point, verification) :: later else later

/-- Before the first retirement every point has to be verified; afterwards there are
at least as many as it kept. -/
def countPoints (repositoryClass : RepositoryClass) (recoveryEpoch : Int) (successor : Option Successor)
    (rows : List (RecoveryPoint × Verification)) : Except Failure Unit :=
  match successor with
  | none =>
    let total := (backups.points.rows.filter (ofClass repositoryClass recoveryEpoch)).length
    ensure (total != 0 && total == rows.length) (failed .prerequisiteBlocked "local-retirement-unverified-point")
  | some successor =>
    ensure (decide (successor.survivors.length ≤ rows.length)) (failed .prerequisiteBlocked "local-retirement-successor-source")

def newestPoint (successor : Successor) (rows : List (RecoveryPoint × Verification)) : String × Int :=
  rows.foldl (fun newest row =>
    if successor.survivors.any fun survivor => survivor.pointID == row.1.pointID then newest
    else if newest.2 < row.2.stateRevision ∨ row.2.stateRevision = newest.2 ∧ newest.1 < row.1.pointID
      then (row.1.pointID, row.2.stateRevision) else newest) ("", 0)

def consistent (objects : List ExpectedObject) : Bool :=
  objects.all fun first => objects.all fun second => !(first.type == second.type && first.name == second.name) || first == second

/-- The object inventory: that of the successor, of the newest point after it, or
of all points before the first retirement. -/
def draftObjects (pendingInventoryDigest : List ExpectedObject → String) (repositoryClass : RepositoryClass)
    (recoveryEpoch : Int) (successor : Option Successor) (rows : List (RecoveryPoint × Verification)) :
    Except Failure (List ExpectedObject) :=
  match successor with
  | none => do
    let objects := (backups.points.rows.filter (ofClass repositoryClass recoveryEpoch)).flatMap RecoveryPoint.expectedObjects
    ensure (consistent objects) (failed .integrityFailure "local-retirement-object-conflict")
    return byObject objects.dedup
  | some successor =>
    let newest := (newestPoint successor rows).1
    if newest = "" then do
      ensure (pendingInventoryDigest successor.objects == successor.inventoryDigest)
        (failed .integrityFailure "local-retirement-successor-inventory")
      return byObject successor.objects
    else do
      let objects := ((backups.points.find? newest).map RecoveryPoint.expectedObjects).getD []
      ensure (consistent objects) (failed .integrityFailure "local-retirement-object-conflict")
      let expected := ((rows.find? fun row => row.1.pointID == newest).map fun row => row.1.inventoryDigest).getD ""
      ensure (pendingInventoryDigest objects.dedup == expected) (failed .integrityFailure "local-retirement-current-inventory")
      return byObject objects.dedup

/-- `COALESCE(MAX(expectedGrowthBytes),0)` over the points of the class. -/
def expectedGrowth (repositoryClass : RepositoryClass) (recoveryEpoch : Int) : Int :=
  ((backups.points.rows.filter (ofClass repositoryClass recoveryEpoch)).filterMap fun point =>
    (policyOf backups point.policyDigest point.recoveryEpoch).map Policy.expectedGrowthBytes).max?.getD 0

/-- `LoadLocalRetirementDraftSources`. The locks are read in a transaction of their
own, so from tables of an earlier moment. -/
def loadLocalRetirementDraftSources (pendingInventoryDigest : List ExpectedObject → String) (applied : Bool)
    (earlier : Backups) (repositoryClass : RepositoryClass) (recoveryEpoch : Int) : Except Failure DraftSources := do
  ensure (decide (0 ≤ recoveryEpoch)) (failed .inputInvalid "local-retirement-draft-sources")
  let locks ← currentAppliedLocalRetentionLocks earlier applied repositoryClass recoveryEpoch
  ensure (backups.recoveryEpoch == recoveryEpoch) (failed .recoveryEpochMismatch "local-retirement-draft-sources")
  let successor ← loadLocalRetirementCurrentSuccessor backups repositoryClass recoveryEpoch
  let rows ← draftPoints successor
    (byPoint (fun row => row.1.pointID) (verifiedPoints backups repositoryClass recoveryEpoch))
  countPoints backups repositoryClass recoveryEpoch successor rows
  let lastGoodIDs := (backups.lastGood.rows.filter fun row =>
    row.repositoryClass == repositoryClass && row.recoveryEpoch == recoveryEpoch).map LastGood.pointID
  let objects ← draftObjects backups pendingInventoryDigest repositoryClass recoveryEpoch successor rows
  ensure (!objects.isEmpty) (failed .prerequisiteBlocked "local-retirement-inventory")
  let capacity ← require (latestCapacity backups repositoryClass recoveryEpoch)
    (failed .prerequisiteBlocked "local-retirement-capacity-observation")
  let growth := expectedGrowth backups repositoryClass recoveryEpoch
  ensure (decide (0 ≤ growth)) (failed .integrityFailure "local-retirement-capacity-growth")
  return ⟨rows.map fun row => row.1.draftInput row.2, lastGoodIDs, objects, locks, backups.stateRevision,
    backups.recoveryEpoch, capacity, growth⟩

end VskLabs.Backup

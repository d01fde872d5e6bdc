import VskLabs.Backup.Records
import VskLabs.Contracts.Validation
import Mathlib.Data.List.Perm.Subperm
import Mathlib.Order.MinMax
import Mathlib.Tactic.MkIffOfInductiveProp

/-! The proposal which local points to retire, and how it depends on the catalog,
the last good points and the locks. -/

namespace VskLabs.Backup
open Library

/-- Creation times count from the zero time, the first instant of year one. -/
structure RetirementCandidate where
  (pointID snapshotID repositoryID manifestDigest dependencyDigest inventoryDigest : String)
  proofDigest : String
  createdAt : Instant
  (bytes recoveryEpoch : Int)

structure LocalRetentionLock where
  (pointID reasonDigest : String)

structure LocalRetentionLockCatalog where
  (schema schemaVersion repositoryID : String)
  repositoryClass : RepositoryClass
  sourceCoverageDigest : String
  (recoveryEpoch revision : Int)
  complete : Bool
  locks : List LocalRetentionLock

structure AppliedLocalRetentionLocks where
  (activationID catalogDigest : String)
  sequence : Int
  catalog : LocalRetentionLockCatalog

structure RetirementSelection where
  (targets survivors : List RetirementCandidate)
  inertOffsiteGenerationIDs : List String
  (expectedInventoryDigest lockCatalogDigest sourceCoverageDigest : String)
  (lockCatalogSequence maxWork maxRepackBytes expectedReclaimBytes recoveryEpoch : Int)

/-- The digests: of the sources of promises, of a canonical lock catalog unless
its encoding is too long, and of an encoded point catalog. -/
structure CatalogDigests where
  sourceCoverage : String
  lockCatalog : LocalRetentionLockCatalog → Option String
  pointCatalog : List RetirementCandidate → String

/-- What the loop over the sorted catalog checks of a candidate by itself. -/
def RetirementCandidate.admissible (repo : String) (epoch : Int) (candidate : RetirementCandidate) : Bool :=
  candidate.pointID != "" && candidate.snapshotID.utf8ByteSize == 64 &&
    validFingerprint ("sha256:" ++ candidate.snapshotID) && candidate.repositoryID != "" &&
    candidate.repositoryID == repo && candidate.recoveryEpoch == epoch && decide (0 ≤ candidate.bytes) &&
    candidate.createdAt != 0 &&
    [candidate.manifestDigest, candidate.dependencyDigest, candidate.inventoryDigest].all validFingerprint &&
    (candidate.proofDigest == "" || validFingerprint candidate.proofDigest)

/-- `json.Marshal` takes the years 0 to 9999. -/
def RetirementCandidate.encodable (candidate : RetirementCandidate) : Bool :=
  decide (-31622400 * 1000000000 ≤ candidate.createdAt ∧ candidate.createdAt < 315537897600 * 1000000000)

section Select

variable (digests : CatalogDigests)

def canonicalLocalRetentionLockCatalog (value : LocalRetentionLockCatalog) : Except Failure String := do
  let invalid := Failure.coded .inputInvalid "local-retention-lock-catalog"
  ensure (value.schema == "vegastack-labs.dev/local-retention-lock-catalog" && value.schemaVersion == "1.0.0" &&
    decide (0 ≤ value.recoveryEpoch ∧ 1 ≤ value.revision) && value.complete &&
    value.sourceCoverageDigest == digests.sourceCoverage && decide (value.locks.length ≤ 256)) invalid
  ensure (value.repositoryID == value.repositoryClass.repositoryID) invalid
  let locks := value.locks.insertionSort fun first second => first.pointID ≤ second.pointID
  ensure (locks.all (fun lock => validRunToken lock.pointID && validFingerprint lock.reasonDigest) &&
    decide (locks.map LocalRetentionLock.pointID).Nodup) invalid
  require (digests.lockCatalog { value with locks }) invalid

variable (catalog : List RetirementCandidate) (lastGoodIDs : List String) (locks : AppliedLocalRetentionLocks) (window epoch : Int)

def byPointID : List RetirementCandidate := catalog.insertionSort fun first second => first.pointID ≤ second.pointID

def pointOf (id : String) : Option RetirementCandidate := catalog.find? fun candidate => decide (candidate.pointID = id)

/-- The search for the newest last good point starts at the zero time. -/
def latestGood : Instant :=
  (lastGoodIDs.filterMap (pointOf catalog)).foldl (fun latest candidate => max latest candidate.createdAt) 0

def AppliedLocalRetentionLocks.locked (pointID : String) : Bool := locks.catalog.locks.any (·.pointID == pointID)

def retires (candidate : RetirementCandidate) : Bool :=
  let cutoff := latestGood catalog lastGoodIDs - window
  !lastGoodIDs.contains candidate.pointID && !locks.locked candidate.pointID && decide (candidate.createdAt < cutoff)

/-- Both lists keep the order of the point ids. -/
def proposal : RetirementSelection where
  targets := (byPointID catalog).filter (retires catalog lastGoodIDs locks window)
  survivors := (byPointID catalog).filter fun candidate => !retires catalog lastGoodIDs locks window candidate
  inertOffsiteGenerationIDs := []
  expectedInventoryDigest := digests.pointCatalog (byPointID catalog)
  lockCatalogDigest := locks.catalogDigest
  sourceCoverageDigest := locks.catalog.sourceCoverageDigest
  lockCatalogSequence := locks.sequence
  maxWork := ((byPointID catalog).filter (retires catalog lastGoodIDs locks window)).length
  maxRepackBytes := 0
  expectedReclaimBytes := 0
  recoveryEpoch := epoch

/-- The checks of `SelectLocalRetirement`, which all fail alike. The first candidate
has the repository of the locks and the others that of the first. -/
@[mk_iff] structure Selectable : Prop where
  points : catalog ≠ [] ∧ catalog.length ≤ 256
  goods : lastGoodIDs ≠ [] ∧ lastGoodIDs.length ≤ catalog.length
  ranges : 0 < window ∧ window ≤ 14 * 24 * 3600 * 1000000000 ∧ 0 ≤ epoch
  canonical : (canonicalLocalRetentionLockCatalog digests locks.catalog).toOption = some locks.catalogDigest
  applied : locks.activationID ≠ "" ∧ 1 ≤ locks.sequence ∧ locks.catalog.recoveryEpoch = epoch
  admissible : ∀ candidate ∈ catalog, candidate.admissible locks.catalog.repositoryID epoch = true
  snapshots : (catalog.map (·.snapshotID)).Nodup
  distinct : (catalog.map (·.pointID)).Nodup
  proved : ∀ id ∈ lastGoodIDs, (pointOf catalog id).any (·.proofDigest != "") = true
  unrepeated : lastGoodIDs.Nodup
  locked : ∀ lock ∈ locks.catalog.locks, (pointOf catalog lock.pointID).isSome = true
  encodable : ∀ candidate ∈ catalog, candidate.encodable = true

instance : Decidable (Selectable digests catalog lastGoodIDs locks window epoch) := decidable_of_iff' _ (selectable_iff ..)

def selectLocalRetirement : Except Failure RetirementSelection :=
  if Selectable digests catalog lastGoodIDs locks window epoch then .ok (proposal digests catalog lastGoodIDs locks window epoch)
  else .error (.coded .prerequisiteBlocked "local-retirement-selection")

/-- Older than the window of a last good point. -/
def Outlived (candidate : RetirementCandidate) : Prop :=
  ∃ good ∈ catalog, good.pointID ∈ lastGoodIDs ∧ candidate.createdAt + window < good.createdAt

/-- A selection, and those of inputs that differ from its own in the order, in a
lock or in the points retired. -/
structure SafePartition (selection : RetirementSelection) : Prop where
  partition : (selection.targets ++ selection.survivors).Perm catalog
  disjoint : ∀ target ∈ selection.targets, target ∉ selection.survivors
  spared : ∀ target ∈ selection.targets, target.pointID ∉ lastGoodIDs ∧ locks.locked target.pointID = false ∧
    Outlived catalog lastGoodIDs window target
  reordered : ∀ points goods, points.Perm catalog → goods.Perm lastGoodIDs →
    selectLocalRetirement digests points goods locks window epoch = .ok selection
  locking : ∀ tighter other, (∀ id, locks.locked id = true → tighter.locked id = true) →
    selectLocalRetirement digests catalog lastGoodIDs tighter window epoch = .ok other →
    other.targets ⊆ selection.targets ∧ selection.survivors ⊆ other.survivors
  repeatable : ∃ second, selectLocalRetirement digests selection.survivors lastGoodIDs locks window epoch = .ok second
  again : ∀ kept second, (∀ id, kept.locked id = true ↔
      locks.locked id = true ∧ ∃ survivor ∈ selection.survivors, survivor.pointID = id) →
    selectLocalRetirement digests selection.survivors lastGoodIDs kept window epoch = .ok second → second.targets = []

end Select

variable {digests : CatalogDigests} {catalog points : List RetirementCandidate} {lastGoodIDs goods : List String}
  {locks : AppliedLocalRetentionLocks} {window epoch : Int} {selection : RetirementSelection} {candidate : RetirementCandidate}

theorem selectLocalRetirement_eq_ok : selectLocalRetirement digests catalog lastGoodIDs locks window epoch = .ok selection ↔
    Selectable digests catalog lastGoodIDs locks window epoch ∧
      proposal digests catalog lastGoodIDs locks window epoch = selection := by
  unfold selectLocalRetirement
  split <;> simp_all

theorem byPointID_perm (catalog : List RetirementCandidate) : (byPointID catalog).Perm catalog := List.perm_insertionSort _ _

theorem pointOf_eq_some (distinct : (catalog.map (·.pointID)).Nodup) {id : String} :
    pointOf catalog id = some candidate ↔ candidate ∈ catalog ∧ candidate.pointID = id :=
  @Table.find?_eq_some_iff _ _ _ (⟨catalog, distinct⟩ : Table RetirementCandidate.pointID) candidate id _

theorem lt_foldl_max {instant start : Instant} {candidates : List RetirementCandidate} :
    instant < candidates.foldl (fun latest candidate => max latest candidate.createdAt) start ↔
      instant < start ∨ ∃ candidate ∈ candidates, instant < candidate.createdAt := by
  induction candidates generalizing start with
  | nil => simp
  | cons head rest ih => rw [List.foldl_cons, ih, lt_max_iff, or_assoc, List.exists_mem_cons_iff]

theorem retires_iff (distinct : (catalog.map (·.pointID)).Nodup) :
    retires catalog lastGoodIDs locks window candidate = true ↔ candidate.pointID ∉ lastGoodIDs ∧
      locks.locked candidate.pointID = false ∧ (candidate.createdAt + window < 0 ∨ Outlived catalog lastGoodIDs window candidate) := by
  have latest : candidate.createdAt < latestGood catalog lastGoodIDs - window ↔
      candidate.createdAt + window < 0 ∨ Outlived catalog lastGoodIDs window candidate := by
    rw [show candidate.createdAt < latestGood catalog lastGoodIDs - window ↔
      candidate.createdAt + window < latestGood catalog lastGoodIDs by lia, latestGood, lt_foldl_max]
    simp only [List.mem_filterMap, pointOf_eq_some distinct, Outlived]
    grind
  simp only [retires, checks, List.contains_eq_mem, decide_eq_false_iff_not, latest, and_assoc]

theorem mem_survivors : candidate ∈ (proposal digests catalog lastGoodIDs locks window epoch).survivors ↔
    candidate ∈ catalog ∧ retires catalog lastGoodIDs locks window candidate = false := by
  simp [proposal, (byPointID_perm catalog).mem_iff]

theorem mem_targets : candidate ∈ (proposal digests catalog lastGoodIDs locks window epoch).targets ↔
    candidate ∈ catalog ∧ retires catalog lastGoodIDs locks window candidate = true := by
  simp [proposal, (byPointID_perm catalog).mem_iff]

theorem byPointID_eq (distinct : (catalog.map (·.pointID)).Nodup) (same : points.Perm catalog) : byPointID points = byPointID catalog := by
  refine ((byPointID_perm points).trans (same.trans (byPointID_perm catalog).symm)).eq_of_pairwise ?_
    (List.pairwise_insertionSort _ points) (List.pairwise_insertionSort _ catalog)
  intro first second left right le ge
  exact List.inj_on_of_nodup_map distinct (same.mem_iff.mp ((byPointID_perm points).mem_iff.mp left))
    ((byPointID_perm catalog).mem_iff.mp right) (String.le_antisymm le ge)

theorem proposal_reordered (distinct : (catalog.map (·.pointID)).Nodup) (same : points.Perm catalog) (equal : goods.Perm lastGoodIDs) :
    proposal digests points goods locks window epoch = proposal digests catalog lastGoodIDs locks window epoch := by
  have retired : retires points goods locks window = retires catalog lastGoodIDs locks window := by
    funext candidate
    rw [Bool.eq_iff_iff, retires_iff ((same.map _).nodup_iff.mpr distinct), retires_iff distinct]
    simp only [Outlived, same.mem_iff, equal.mem_iff]
  simp only [proposal, retired, byPointID_eq distinct same]

/-- The checks pass for any part that has the last good and the locked points. -/
theorem Selectable.part (selectable : Selectable digests catalog lastGoodIDs locks window epoch) {middle : List RetirementCandidate}
    (perm : points.Perm middle) (sublist : middle.Sublist catalog) (same : goods.Perm lastGoodIDs)
    (keeps : ∀ candidate ∈ catalog, candidate.pointID ∈ lastGoodIDs ∨ locks.locked candidate.pointID = true → candidate ∈ points) :
    Selectable digests points goods locks window epoch := by
  have distinct : (points.map (·.pointID)).Nodup := (perm.map _).nodup_iff.mpr (selectable.distinct.sublist (sublist.map _))
  have subset : ∀ candidate ∈ points, candidate ∈ catalog := fun _ member => sublist.subset (perm.mem_iff.mp member)
  have finds : ∀ {id candidate}, id ∈ lastGoodIDs ∨ locks.locked id = true → pointOf catalog id = some candidate →
      pointOf points id = some candidate := by
    intro id candidate promised found
    obtain ⟨member, rfl⟩ := (pointOf_eq_some selectable.distinct).mp found
    exact (pointOf_eq_some distinct).mpr ⟨keeps candidate member promised, rfl⟩
  have proved : ∀ id ∈ lastGoodIDs, (pointOf points id).any (·.proofDigest != "") = true := by
    intro id member
    have proof := selectable.proved id member
    rw [Option.any_eq_true] at proof ⊢
    exact proof.imp fun _ => And.imp_left (finds (.inl member))
  have fewer : lastGoodIDs.length ≤ points.length := by
    rw [← List.length_map RetirementCandidate.pointID]
    refine (selectable.unrepeated.subperm fun id member => ?_).length_le
    obtain ⟨good, found⟩ := Option.isSome_iff_exists.mp (Option.isSome_of_any (proved id member))
    obtain ⟨present, rfl⟩ := (pointOf_eq_some distinct).mp found
    exact List.mem_map_of_mem present
  have some := List.length_pos_iff.mpr selectable.goods.1
  refine { selectable with
    points := ⟨List.length_pos_iff.mp (by omega), perm.length_eq ▸ sublist.length_le.trans selectable.points.2⟩
    goods := ⟨List.length_pos_iff.mp (by rwa [same.length_eq]), by rwa [same.length_eq]⟩
    admissible := fun candidate member => selectable.admissible candidate (subset candidate member)
    snapshots := (perm.map _).nodup_iff.mpr (selectable.snapshots.sublist (sublist.map _))
    distinct := distinct
    proved := fun id member => proved id (same.mem_iff.mp member)
    unrepeated := same.nodup_iff.mpr selectable.unrepeated
    locked := fun lock member => ?_
    encodable := fun candidate member => selectable.encodable candidate (subset candidate member) }
  obtain ⟨candidate, found⟩ := Option.isSome_iff_exists.mp (selectable.locked lock member)
  exact Option.isSome_iff_exists.mpr ⟨candidate, finds (.inr (List.any_eq_true.mpr ⟨lock, member, beq_self_eq_true _⟩)) found⟩

/-- The selection is safe exactly when the points from before year one that are
retired because the search for the newest starts there are old enough. -/
theorem selection_safe_iff (selected : selectLocalRetirement digests catalog lastGoodIDs locks window epoch = .ok selection) :
    SafePartition digests catalog lastGoodIDs locks window epoch selection ↔
      ∀ candidate ∈ catalog, candidate.pointID ∉ lastGoodIDs → locks.locked candidate.pointID = false →
        candidate.createdAt + window < 0 → Outlived catalog lastGoodIDs window candidate := by
  obtain ⟨selectable, rfl⟩ := selectLocalRetirement_eq_ok.mp selected
  have distinct := selectable.distinct
  constructor
  · intro safe candidate member good free early
    exact (safe.spared candidate (mem_targets.mpr ⟨member, (retires_iff distinct).mpr ⟨good, free, .inl early⟩⟩)).2.2
  intro old
  have kept : ∀ {candidate}, candidate ∈ catalog → candidate.pointID ∈ lastGoodIDs ∨ locks.locked candidate.pointID = true →
      candidate ∈ (proposal digests catalog lastGoodIDs locks window epoch).survivors := by
    intro candidate member promised
    refine mem_survivors.mpr ⟨member, ?_⟩
    rw [← Bool.not_eq_true, retires_iff distinct]
    grind
  have survivors : (proposal digests catalog lastGoodIDs locks window epoch).survivors.Perm
      (catalog.filter fun candidate => !retires catalog lastGoodIDs locks window candidate) := (byPointID_perm catalog).filter _
  refine ⟨(List.filter_append_perm _ _).trans (byPointID_perm catalog), ?_, ?_, ?_, ?_, ?_, ?_⟩
  · intro target chosen survivor
    exact absurd ((mem_targets.mp chosen).2.symm.trans (mem_survivors.mp survivor).2) nofun
  · intro target chosen
    obtain ⟨good, free, aged⟩ := (retires_iff distinct).mp (mem_targets.mp chosen).2
    exact ⟨good, free, aged.elim (old target (mem_targets.mp chosen).1 good free) id⟩
  · intro points goods same equal
    refine selectLocalRetirement_eq_ok.mpr ⟨selectable.part same (.refl _) equal fun _ member _ => same.mem_iff.mpr member, ?_⟩
    exact proposal_reordered distinct same equal
  · intro tighter other more done
    obtain ⟨_, rfl⟩ := selectLocalRetirement_eq_ok.mp done
    have fewer : ∀ {candidate}, retires catalog lastGoodIDs tighter window candidate = true →
        retires catalog lastGoodIDs locks window candidate = true := by
      intro candidate
      rw [retires_iff distinct, retires_iff distinct]
      grind
    constructor
    · intro target chosen
      rw [mem_targets] at chosen ⊢
      exact ⟨chosen.1, fewer chosen.2⟩
    · intro survivor spared
      rw [mem_survivors] at spared ⊢
      exact ⟨spared.1, Bool.eq_false_of_not_eq_true fun retired => absurd (fewer retired) (by simp [spared.2])⟩
  · exact ⟨_, selectLocalRetirement_eq_ok.mpr ⟨selectable.part survivors List.filter_sublist (.refl _) fun _ member => kept member, rfl⟩⟩
  · intro fewer second restricted done
    obtain ⟨selectable, rfl⟩ := selectLocalRetirement_eq_ok.mp done
    refine List.eq_nil_iff_forall_not_mem.mpr fun target chosen => ?_
    obtain ⟨survivor, retired⟩ := mem_targets.mp chosen
    obtain ⟨good, free, aged⟩ := (retires_iff selectable.distinct).mp retired
    obtain ⟨member, spared⟩ := mem_survivors.mp survivor
    have locked : locks.locked target.pointID = false := by
      rw [← Bool.not_eq_true]
      intro locked
      exact absurd ((restricted _).mpr ⟨locked, target, survivor, rfl⟩) (by simp [free])
    rw [← Bool.not_eq_true, retires_iff distinct] at spared
    refine spared ⟨good, locked, aged.imp id ?_⟩
    rintro ⟨newest, present, last, older⟩
    exact ⟨newest, (mem_survivors.mp present).1, last, older⟩

/-- Created times come from the server's clock, which never shows a time before
year one. -/
theorem selection_is_safe (dated : ∀ candidate ∈ catalog, 0 ≤ candidate.createdAt)
    (selected : selectLocalRetirement digests catalog lastGoodIDs locks window epoch = .ok selection) :
    SafePartition digests catalog lastGoodIDs locks window epoch selection := by
  have positive := (selectLocalRetirement_eq_ok.mp selected).1.ranges.1
  refine (selection_safe_iff selected).mpr ?_
  intro candidate member _ _ early
  exact absurd early (Int.not_lt.mpr (Int.add_nonneg (dated candidate member) positive.le))

def someDigest : String := "sha256:" ++ String.ofList (List.replicate 64 'a')

def pointAt (pointID : String) (character : Char) (day : Int) (proofDigest : String) : RetirementCandidate :=
  ⟨pointID, String.ofList (List.replicate 64 character), "local-standard", someDigest, someDigest, someDigest, proofDigest,
    day * 86400 * 1000000000, 1024, 8⟩

def plainDigests : CatalogDigests := ⟨someDigest, fun _ => some someDigest, fun _ => someDigest⟩

def noLocks : AppliedLocalRetentionLocks := ⟨"catalog-applied", someDigest, 1, "vegastack-labs.dev/local-retention-lock-catalog",
  "1.0.0", "local-standard", .standard, someDigest, 8, 2, true, []⟩

def week : Int := 7 * 86400 * 1000000000

theorem september_points_selected_safely : ∃ selection, selectLocalRetirement plainDigests
    [pointAt "good" 'a' 739500 someDigest, pointAt "old" 'b' 739490 ""] ["good"] noLocks week 8 = .ok selection ∧
    SafePartition plainDigests [pointAt "good" 'a' 739500 someDigest, pointAt "old" 'b' 739490 ""] ["good"] noLocks week 8
      selection := by
  have selected := selectLocalRetirement_eq_ok.mpr (⟨by decide +kernel, rfl⟩ : Selectable plainDigests
    [pointAt "good" 'a' 739500 someDigest, pointAt "old" 'b' 739490 ""] ["good"] noLocks week 8 ∧ _)
  refine ⟨_, selected, selection_is_safe ?_ selected⟩
  simp [pointAt]

end VskLabs.Backup

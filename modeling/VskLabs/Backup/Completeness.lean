import VskLabs.Backup.Drafts
import VskLabs.Backup.Journal

/-! Which points a retirement draft is made of: those that no committed retirement
had for a target, if each of them was verified since the last one. -/

namespace VskLabs.Backup
open Library

variable {backups next : Backups} {now clock : Instant} {kind : RepositoryClass} {epoch : Int}

def Generation.targets (backups : Backups) (generation : Generation) : List String :=
  ((backups.intents.find? generation.intentID).map fun intent => intent.selection.targets.map Target.pointID).getD []

def retiredPoints (backups : Backups) : List String := backups.generations.rows.flatMap (Generation.targets backups)

def unretired (backups : Backups) (repositoryClass : RepositoryClass) (recoveryEpoch : Int) : List RecoveryPoint :=
  backups.points.rows.filter fun point =>
    ofClass repositoryClass recoveryEpoch point && !(retiredPoints backups).contains point.pointID

/-! ### The chain of generations -/

def lastGeneration (backups : Backups) (repositoryClass : RepositoryClass) (recoveryEpoch : Int) : Option Generation :=
  (generationsOf backups repositoryClass recoveryEpoch).getLast?

variable {generation : Generation} {successor : Option Successor} {point : RecoveryPoint}
  {row : RecoveryPoint × Verification} {selection : Selection} {stamp : Time} {intent : Intent} {call : Call}
  {request : ClaimRequest}

theorem mem_generationsOf : generation ∈ generationsOf backups kind epoch ↔
    generation ∈ backups.generations.rows ∧ generation.repositoryClass = kind ∧
      generation.recoveryEpoch = epoch := by
  simp only [generationsOf, List.mem_insertionSort, List.mem_filter, checks]

theorem generation_le_last {last : Generation} (found : lastGeneration backups kind epoch = some last)
    (member : generation ∈ generationsOf backups kind epoch) :
    generation.generationSequence ≤ last.generationSequence := by
  have sorted : (generationsOf backups kind epoch).Pairwise
      fun first second => first.generationSequence ≤ second.generationSequence := by
    have total : Std.Total fun first second : Generation => first.generationSequence ≤ second.generationSequence :=
      ⟨fun first second => le_total _ _⟩
    have trans : IsTrans Generation fun first second => first.generationSequence ≤ second.generationSequence :=
      ⟨fun _ _ _ => le_trans⟩
    exact List.pairwise_insertionSort _ _
  obtain ⟨front, shape⟩ := List.getLast?_eq_some_iff.mp found
  rw [shape] at sorted member
  rcases List.mem_append.mp member with earlier | same
  · exact (List.pairwise_append.mp sorted).2.2 generation earlier last (.head _)
  · rw [List.mem_singleton.mp same]

structure Heads (backups : Backups) (generation : Generation) (retired : List String) (successor : Successor) : Prop where
  digest : successor.digest = generation.generationDigest
  survivors : successor.survivors = generation.survivors
  stateRevision : successor.stateRevision = generation.stateRevision
  recordedAt : successor.recordedAt = generation.recordedAt
  retired : successor.retiredPointIDs = retired

theorem walkGenerations_ok {generations : List Generation} {count : Int} {prior : Option String} {retired : List String}
    {latest result : Option Successor} (done : walkGenerations backups generations count prior retired latest = .ok result) :
    generations = [] ∧ result = latest ∨
      ∃ generation successor, generations.getLast? = some generation ∧ result = some successor ∧
        Heads backups generation (retired ++ generations.flatMap (Generation.targets backups)) successor := by
  induction generations generalizing count prior retired latest with
  | nil => exact .inl ⟨rfl, (Except.ok.inj done).symm⟩
  | cons first rest ih =>
    simp only [walkGenerations, peel] at done
    obtain ⟨intent, staged, _, _, done⟩ := done
    have own : first.targets backups = intent.selection.targets.map Target.pointID := by
      simp [Generation.targets, staged]
    rw [← own] at done
    refine .inr ?_
    rcases ih done with ⟨rfl, rfl⟩ | ⟨generation, successor, last, rfl, heads⟩
    · refine ⟨first, _, rfl, rfl, ⟨rfl, rfl, rfl, rfl, ?_⟩⟩
      simp
    · refine ⟨generation, successor, ?_, rfl, ?_⟩
      · rw [List.getLast?_cons, last, Option.getD_some]
      · rw [List.flatMap_cons, ← List.append_assoc]
        exact heads

theorem successor_cases
    (loaded : loadLocalRetirementCurrentSuccessor backups kind epoch = .ok successor) :
    generationsOf backups kind epoch = [] ∧ successor = none ∨
      ∃ generation found, lastGeneration backups kind epoch = some generation ∧ successor = some found ∧
        Heads backups generation ((generationsOf backups kind epoch).flatMap (Generation.targets backups))
          found := by
  have walked := walkGenerations_ok loaded
  rwa [List.nil_append] at walked

/-! ### Current points -/

def current (successor : Option Successor) (row : RecoveryPoint × Verification) : Bool :=
  successor.all fun successor => (successor.survivors.any fun survivor => survivor.pointID == row.1.pointID) ||
    isPostSuccessorRecoveryPoint successor row.1 row.2

variable {verification : Verification}

theorem keepsPoint_ok {kept : Bool}
    (done : keepsPoint successor point verification = .ok kept) : kept = current successor (point, verification) := by
  unfold keepsPoint at done
  cases successor with
  | none => exact (Except.ok.inj done).symm
  | some successor =>
    simp only [current, Option.all_some]
    cases found : successor.survivors.find? fun survivor => survivor.pointID == point.pointID with
    | none =>
      have absent : (successor.survivors.any fun survivor => survivor.pointID == point.pointID) = false := by
        simpa using found
      simp only [found] at done
      rw [absent, Bool.false_or]
      exact (Except.ok.inj done).symm
    | some expected =>
      have named := List.find?_some found
      have present : (successor.survivors.any fun survivor => survivor.pointID == point.pointID) = true :=
        List.any_eq_true.mpr ⟨expected, List.mem_of_find?_eq_some found, named⟩
      simp only [found, peel] at done
      obtain ⟨_, _, rfl⟩ := done
      rw [present, Bool.true_or]

variable {kept rows : List (RecoveryPoint × Verification)}

theorem currentPoints_ok
    (done : currentPoints successor rows = .ok kept) : kept = rows.filter (current successor) := by
  induction rows generalizing kept with
  | nil => exact (Except.ok.inj done).symm
  | cons row rest ih =>
    simp only [currentPoints, peel] at done
    obtain ⟨keeps, chosen, later, listed, rfl⟩ := done
    rw [keepsPoint_ok chosen, ih listed, List.filter_cons]

theorem draftPoints_ok
    (done : draftPoints successor rows = .ok kept) : kept = rows.filter (current successor) := by
  induction rows generalizing kept with
  | nil => exact (Except.ok.inj done).symm
  | cons row rest ih =>
    simp only [draftPoints, peel] at done
    obtain ⟨_, _, keeps, chosen, later, listed, rfl⟩ := done
    rw [keepsPoint_ok chosen, ih listed, List.filter_cons]

theorem mem_verifiedPoints :
    row ∈ verifiedPoints backups kind epoch ↔
      row.1 ∈ backups.points.rows ∧ ofClass kind epoch row.1 = true ∧
        liveVerification backups row.1.pointID = some row.2 := by
  obtain ⟨point, verification⟩ := row
  simp only [verifiedPoints, List.mem_filterMap, List.mem_filter, Option.map_eq_some_iff, Prod.mk.injEq]
  constructor
  · rintro ⟨_, ⟨member, own⟩, _, live, rfl, rfl⟩
    exact ⟨member, own, live⟩
  · rintro ⟨member, own, live⟩
    exact ⟨point, ⟨member, own⟩, verification, live, rfl, rfl⟩

theorem liveVerification_isSome {pointID : String} (member : verification ∈ backups.verifications.rows)
    (own : verification.pointID = pointID) (status : verification.status = .localVerified) (live : verification.proofClass = .live) :
    (liveVerification backups pointID).isSome = true := by
  have listed : verification ∈ (backups.verifications.rows.filter fun row => row.pointID == pointID &&
      row.status == .localVerified && row.proofClass == .live).insertionSort Verification.newer := by
    rw [List.mem_insertionSort, List.mem_filter]
    exact ⟨member, by simp [own, status, live]⟩
  rw [liveVerification, Option.isSome_iff_ne_none, ne_eq, List.head?_eq_none_iff]
  exact List.ne_nil_of_mem listed

/-! ### What retirements leave behind -/

structure Recorded (backups : Backups) (generation : Generation) (intent : Intent) : Prop where
  staged : backups.intents.find? generation.intentID = some intent
  repositoryClass : generation.repositoryClass = intent.selection.repositoryClass
  recoveryEpoch : generation.recoveryEpoch = intent.selection.recoveryEpoch
  survivors : generation.survivors = byPoint (fun survivor => survivor.pointID) intent.selection.survivors
  qualified : Qualified backups intent.selection

theorem Recorded.grow (recorded : Recorded backups generation intent)
    (grown : Grows backups next) : Recorded next generation intent :=
  { recorded with staged := grown.intents.find? recorded.staged, qualified := recorded.qualified.grow grown }

theorem Recorded.targets_eq (recorded : Recorded backups generation intent) :
    generation.targets backups = intent.selection.targets.map Target.pointID := by
  simp [Generation.targets, recorded.staged]

structure Succession (backups : Backups) : Prop where
  generations : ∀ generation ∈ backups.generations.rows, ∃ intent, Recorded backups generation intent
  pending : ∀ lease ∈ backups.retirements.rows, lease.releasedAt = none →
    ∀ intent, backups.intents.find? lease.intentID = some intent →
    ∀ generation ∈ generationsOf backups lease.repositoryClass lease.recoveryEpoch,
    ∀ survivor ∈ intent.selection.survivors, survivor.pointID ∉ generation.targets backups
  ordered : ∀ newer ∈ backups.generations.rows,
    ∀ older ∈ generationsOf backups newer.repositoryClass newer.recoveryEpoch,
    older.generationSequence ≤ newer.generationSequence →
    ∀ survivor ∈ newer.survivors, survivor.pointID ∉ older.targets backups

theorem Succession.fresh : Succession .fresh := by
  constructor <;> simp [Backups.fresh, Table.empty]

theorem Succession.current_unretired (succession : Succession backups)
    (loaded : loadLocalRetirementCurrentSuccessor backups kind epoch = .ok successor) (chosen : current successor row = true)
    (member : generation ∈ generationsOf backups kind epoch) :
    row.1.pointID ∉ generation.targets backups := by
  rcases successor_cases loaded with ⟨none, rfl⟩ | ⟨last, successor, found, rfl, heads⟩
  · rw [none] at member
    cases member
  · simp only [current, Option.all_some, checks, List.any_eq_true] at chosen
    rcases chosen with ⟨survivor, kept, same⟩ | newer
    · rw [heads.survivors] at kept
      rw [← same]
      obtain ⟨stored, sameClass, sameEpoch⟩ := mem_generationsOf.mp (List.mem_of_getLast? found)
      exact succession.ordered last stored generation (sameClass ▸ sameEpoch ▸ member) (generation_le_last found member)
        survivor kept
    · simp only [isPostSuccessorRecoveryPoint, heads.retired, checks] at newer
      intro listed
      have retired := List.contains_iff_mem.mpr (List.mem_flatMap.mpr ⟨generation, member, listed⟩)
      rw [newer.1.1] at retired
      cases retired

variable {survivor : Survivor}

theorem Claimed.survivors_unretired (succession : Succession backups)
    (claimed : Claimed backups stamp request intent next)
    (member : generation ∈ generationsOf backups intent.selection.repositoryClass intent.selection.recoveryEpoch)
    (kept : survivor ∈ intent.selection.survivors) :
    survivor.pointID ∉ generation.targets backups := by
  obtain ⟨pointIDs, loaded, covers⟩ := claimed.points
  simp only [Selection.coversPoints, checks, List.contains_iff_mem] at covers
  have listed := covers.2 survivor kept
  simp only [loadLocalRetirementCurrentPointIDs, peel] at loaded
  obtain ⟨successor, walked, rows, filtered, _, _, rfl⟩ := loaded
  obtain ⟨row, present, same⟩ := List.mem_map.mp listed
  rw [currentPoints_ok filtered] at present
  rw [← same]
  exact succession.current_unretired walked (List.mem_filter.mp present).2 member

theorem Succession.targets_grow (succession : Succession backups) (grown : Grows backups next)
    (member : generation ∈ backups.generations.rows) : generation.targets next = generation.targets backups := by
  obtain ⟨intent, recorded⟩ := succession.generations generation member
  rw [recorded.targets_eq, (recorded.grow grown).targets_eq]

theorem Call.generations_eq (done : call.transact backups now = .ok next) (other : ∀ request, call ≠ .commit request) :
    next.generations = backups.generations := by
  cases Call.transact_effect done with
  | commit => exact absurd rfl (other _)
  | _ => rfl

theorem generationsOf_congr (same : next.generations = backups.generations) :
    generationsOf next kind epoch = generationsOf backups kind epoch := by
  rw [generationsOf, same, generationsOf]

theorem Succession.frame (succession : Succession backups) (governed : Governed backups)
    (done : call.transact backups now = .ok next) (other : ∀ request, call ≠ .commit request) : Succession next := by
  have grown := Call.transact_grows done
  have same := Call.generations_eq done other
  refine ⟨?_, ?_, ?_⟩
  · rw [same]
    intro generation member
    obtain ⟨intent, recorded⟩ := succession.generations generation member
    exact ⟨intent, recorded.grow grown⟩
  · intro lease member opened intent staged generation listed survivor kept
    rw [generationsOf_congr same] at listed
    rw [succession.targets_grow grown (mem_generationsOf.mp listed).1]
    rcases Call.retirement_origin done member with ⟨old, held, releasedAt, rfl, keeps⟩ | ⟨request, known, rfl, claimed, rfl⟩
    · exact succession.pending old held (keeps opened) intent (governed.staged_before grown held staged) generation listed
        survivor kept
    · have equal := (grown.intents.find? claimed.staged).symm.trans staged
      rw [Option.some.inj equal] at claimed listed
      exact claimed.survivors_unretired succession listed kept
  · rw [same]
    intro newer member older listed le survivor kept
    rw [generationsOf_congr same] at listed
    rw [succession.targets_grow grown (mem_generationsOf.mp listed).1]
    exact succession.ordered newer member older listed le survivor kept

theorem points_differ (distinct : selection.distinct = true)
    (kept : survivor ∈ selection.survivors) : survivor.pointID ∉ selection.targets.map Target.pointID := by
  simp only [Selection.distinct, checks] at distinct
  intro listed
  exact List.disjoint_of_nodup_append distinct.1 listed (List.mem_map_of_mem kept)

theorem Exclusive.settled_closed (exclusive : Exclusive clock backups) {leaseID : String}
    {held lease : RetirementLease} (found : backups.retirements.find? leaseID = some held) (opened : held.releasedAt = none)
    (member : lease ∈ (releasedRetirements backups leaseID stamp).rows) (same : lease.repositoryClass = held.repositoryClass) :
    lease.releasedAt ≠ none := by
  obtain ⟨present, named⟩ := Table.find?_eq_some_iff.mp found
  obtain ⟨old, stored, rfl⟩ := Table.mem_modify.mp member
  split at same
  · next chosen =>
    rw [if_pos chosen]
    exact Option.some_ne_none _
  · next unchosen =>
    rw [if_neg unchosen]
    intro free
    have equal := exclusive.retirements held.repositoryClass old stored held present (RetirementLease.open_iff.mpr ⟨same, free⟩)
      (RetirementLease.open_iff.mpr ⟨rfl, opened⟩)
    rw [equal] at unchosen
    simp [named, opened] at unchosen

theorem generation_lt_settlement (request : SettlementRequest) (stamp : Time)
    (member : generation ∈ generationsOf backups selection.repositoryClass selection.recoveryEpoch) :
    generation.generationSequence < (request.generation selection
      (lastGeneration backups selection.repositoryClass selection.recoveryEpoch) stamp).generationSequence := by
  cases found : lastGeneration backups selection.repositoryClass selection.recoveryEpoch with
  | none =>
    rw [List.getLast?_eq_none_iff.mp found] at member
    cases member
  | some last =>
    have early := generation_le_last found member
    simp only [SettlementRequest.generation, Option.map_some, Option.getD_some]
    lia

theorem Succession.settle (succession : Succession backups) (governed : Governed backups) (exclusive : Exclusive clock backups)
    {request : SettlementRequest} (done : (Call.commit request).transact backups now = .ok next) : Succession next := by
  have grown := Call.transact_grows done
  obtain ⟨intent, committed⟩ := commitLocalRetirementSuccess_effect done
  obtain ⟨lease, held, sameIntent, opened⟩ := committed.lease
  obtain ⟨generations, added, equal⟩ := committed.appended
  obtain ⟨known, sanctioned⟩ := governed.leases lease (Table.mem_of_find? held)
  have staged := sanctioned.staged
  rw [sameIntent, committed.staged] at staged
  cases staged
  obtain ⟨given, canonical⟩ := governed.intents intent (Table.mem_of_find? committed.staged)
  generalize settled : request.generation intent.selection (generationsOf backups intent.selection.repositoryClass
    intent.selection.recoveryEpoch).getLast? (second now) = settlement at added
  have recorded : Recorded next settlement intent := by
    rw [← settled]
    exact ⟨grown.intents.find? committed.staged, rfl, rfl, rfl, sanctioned.qualified.grow grown⟩
  have origin : ∀ {kind epoch}, ∀ generation ∈ generationsOf next kind epoch,
      generation ∈ generationsOf backups kind epoch ∨
        generation = settlement ∧ intent.selection.repositoryClass = kind ∧
          intent.selection.recoveryEpoch = epoch := by
    intro kind epoch generation member
    obtain ⟨stored, ofClass, ofEpoch⟩ := mem_generationsOf.mp member
    rw [equal] at stored
    rcases (Table.mem_insert? added).mp stored with old | rfl
    · exact .inl (mem_generationsOf.mpr ⟨old, ofClass, ofEpoch⟩)
    · exact .inr ⟨rfl, recorded.repositoryClass ▸ ofClass, recorded.recoveryEpoch ▸ ofEpoch⟩
  refine ⟨?_, ?_, ?_⟩
  · intro generation member
    rw [equal] at member
    rcases (Table.mem_insert? added).mp member with old | rfl
    · obtain ⟨other, before⟩ := succession.generations generation old
      exact ⟨other, before.grow grown⟩
    · exact ⟨intent, recorded⟩
  · intro open_ member free other found generation listed survivor kept
    rcases origin generation listed with old | ⟨_, ofClass, _⟩
    · rw [succession.targets_grow grown (mem_generationsOf.mp old).1]
      rcases Call.retirement_origin done member with ⟨prior, there, releasedAt, rfl, keeps⟩ | ⟨_, _, impossible, _⟩
      · exact succession.pending prior there (keeps free) other (governed.staged_before grown there found) generation old
          survivor kept
      · cases impossible
    · rw [equal] at member
      exact absurd free (exclusive.settled_closed held opened member (ofClass.symm.trans sanctioned.repositoryClass.symm))
  · intro newer member older listed le survivor kept
    rw [equal] at member
    rcases origin older listed with old | ⟨rfl, ofClass, ofEpoch⟩
    · rw [succession.targets_grow grown (mem_generationsOf.mp old).1]
      rcases (Table.mem_insert? added).mp member with before | rfl
      · exact succession.ordered newer before older old le survivor kept
      · rw [recorded.survivors] at kept
        rw [recorded.repositoryClass, recorded.recoveryEpoch, ← sanctioned.repositoryClass,
          ← sanctioned.recoveryEpoch] at old
        exact succession.pending lease (Table.mem_of_find? held) opened intent (sameIntent ▸ committed.staged) older old
          survivor ((byPoint_perm _ _).mem_iff.mp kept)
    · rcases (Table.mem_insert? added).mp member with before | rfl
      · have early := generation_lt_settlement request (second now)
          (mem_generationsOf.mpr ⟨before, ofClass.symm, ofEpoch.symm⟩)
        rw [lastGeneration, settled] at early
        exact absurd le (not_le.mpr early)
      · rw [recorded.targets_eq]
        rw [recorded.survivors] at kept
        exact points_differ (canonical_distinct canonical) ((byPoint_perm _ _).mem_iff.mp kept)

theorem Succession.transact (succession : Succession backups) (governed : Governed backups)
    (exclusive : Exclusive clock backups) (done : call.transact backups now = .ok next) : Succession next := by
  by_cases other : ∀ request, call ≠ .commit request
  · exact succession.frame governed done other
  · rw [not_forall] at other
    obtain ⟨request, settles⟩ := other
    obtain rfl := not_ne_iff.mp settles
    exact succession.settle governed exclusive done

theorem succession_after (clock : Instant) (history : List Event) : Succession (after clock history).backups := by
  have keeps : ∀ (moment : Moment) (event : Event), moment.Guarded ∧ Succession moment.backups →
      (event.step moment).Guarded ∧ Succession (event.step moment).backups := by
    rintro moment event ⟨guarded, succession⟩
    refine ⟨guarded.step, ?_⟩
    cases event with
    | tick elapsed => exact succession
    | call age made =>
      exact made.perform_cases Succession succession fun next done =>
        succession.transact guarded.governed guarded.orderly.exclusive done
  exact (@execute_invariant _ _ Event.step _ history (fun moment : Moment => moment.Guarded ∧ Succession moment.backups)
    ⟨.start clock, .fresh⟩ keeps).2

/-! ### Draft sources -/

/-- The draft has exactly the points that were not retired, each with its live
verification. -/
structure Complete (backups : Backups) (repositoryClass : RepositoryClass) (recoveryEpoch : Int) (sources : DraftSources) :
    Prop where
  points : (sources.points.map DraftInput.pointID).Perm
    ((unretired backups repositoryClass recoveryEpoch).map RecoveryPoint.pointID)
  verified : ∀ input ∈ sources.points, ∃ point verification, backups.points.find? input.pointID = some point ∧
    liveVerification backups input.pointID = some verification ∧ input = point.draftInput verification

/-- The live verification of the point is newer than the retirement, or of the same
revision while the point was created in a later second. -/
def verifiedSince (backups : Backups) (generation : Generation) (point : RecoveryPoint) : Bool :=
  (liveVerification backups point.pointID).any fun verification => verification.successorGenerationDigest == none &&
    (decide (generation.stateRevision < verification.stateRevision) ||
      verification.stateRevision == generation.stateRevision && decide (generation.recordedAt < point.createdAt))

def allVerifiedSince (backups : Backups) (repositoryClass : RepositoryClass) (recoveryEpoch : Int) : Bool :=
  (lastGeneration backups repositoryClass recoveryEpoch).all fun generation =>
    (unretired backups repositoryClass recoveryEpoch).all fun point =>
      (generation.survivors.any fun survivor => survivor.pointID == point.pointID) || verifiedSince backups generation point

def draftRows (backups : Backups) (repositoryClass : RepositoryClass) (recoveryEpoch : Int) (successor : Option Successor) :
    List (RecoveryPoint × Verification) :=
  (byPoint (fun row => row.1.pointID) (verifiedPoints backups repositoryClass recoveryEpoch)).filter (current successor)

theorem loaded_points {digest : List ExpectedObject → String} {applied : Bool} {earlier : Backups} {sources : DraftSources}
    (loaded : loadLocalRetirementDraftSources backups digest applied earlier kind epoch = .ok sources) :
    ∃ successor, loadLocalRetirementCurrentSuccessor backups kind epoch = .ok successor ∧
      sources.points = (draftRows backups kind epoch successor).map (fun row => row.1.draftInput row.2) ∧
      (successor = none → (backups.points.rows.filter (ofClass kind epoch)).length =
        (draftRows backups kind epoch successor).length) := by
  simp only [loadLocalRetirementDraftSources, bind_eq_ok] at loaded
  obtain ⟨_, _, locks, _, _, _, successor, walked, rows, listed, _, counted, _, _, _, _, _, _, _, _, final⟩ := loaded
  refine ⟨successor, walked, ?_, ?_⟩
  · rw [pure_eq_ok] at final
    rw [← final, draftRows, ← draftPoints_ok listed]
  · rintro rfl
    simp only [countPoints, ensure_eq_ok, checks] at counted
    rw [counted.2, draftRows, ← draftPoints_ok listed]

theorem mem_draftRows :
    row ∈ draftRows backups kind epoch successor ↔
      (row.1 ∈ backups.points.rows ∧ ofClass kind epoch row.1 = true ∧
        liveVerification backups row.1.pointID = some row.2) ∧ current successor row = true := by
  rw [draftRows, List.mem_filter, (byPoint_perm _ _).mem_iff, mem_verifiedPoints]

theorem verified_sublist (live : RecoveryPoint → Option Verification) (points : List RecoveryPoint) :
    ((points.filterMap fun point => (live point).map fun verification => (point, verification)).map Prod.fst).Sublist points := by
  induction points with
  | nil => exact .slnil
  | cons point rest ih =>
    cases found : live point with
    | none =>
      simp only [List.filterMap_cons, found, Option.map_none]
      exact ih.cons point
    | some verification =>
      simp only [List.filterMap_cons, found, Option.map_some, List.map_cons]
      exact ih.cons_cons point

theorem draftRows_nodup (successor : Option Successor) :
    ((draftRows backups kind epoch successor).map fun row => row.1.pointID).Nodup := by
  have points : ((verifiedPoints backups kind epoch).map fun row => row.1.pointID).Nodup := by
    have listed := ((verified_sublist (fun point => liveVerification backups point.pointID)
      (backups.points.rows.filter (ofClass kind epoch))).trans List.filter_sublist).map RecoveryPoint.pointID
    rw [List.map_map] at listed
    exact backups.points.distinct.sublist listed
  refine List.Nodup.sublist (List.filter_sublist.map _) ?_
  exact (((byPoint_perm _ _).map _).nodup_iff).mpr points

theorem unretired_nodup : ((unretired backups kind epoch).map RecoveryPoint.pointID).Nodup :=
  backups.points.distinct.sublist (List.filter_sublist.map _)

theorem mem_unretired : point ∈ unretired backups kind epoch ↔
    point ∈ backups.points.rows ∧ ofClass kind epoch point = true ∧
      ∀ generation ∈ backups.generations.rows, point.pointID ∉ generation.targets backups := by
  simp only [unretired, retiredPoints, List.mem_filter, checks, Bool.eq_false_iff, ne_eq, List.contains_iff_mem,
    List.mem_flatMap, not_exists, not_and]

theorem Succession.retired_class (succession : Succession backups)
    (member : generation ∈ backups.generations.rows) (stored : point ∈ backups.points.rows)
    (own : ofClass kind epoch point = true) (retired : point.pointID ∈ generation.targets backups) :
    generation ∈ generationsOf backups kind epoch := by
  obtain ⟨intent, recorded⟩ := succession.generations generation member
  rw [recorded.targets_eq] at retired
  obtain ⟨target, listed, same⟩ := List.mem_map.mp retired
  obtain ⟨found, there, place⟩ := recorded.qualified.targets target listed
  rw [same, Table.find?_eq_some_iff.mpr ⟨stored, rfl⟩] at there
  cases there
  simp only [ofClass, checks] at own place
  exact mem_generationsOf.mpr ⟨member, recorded.repositoryClass.trans (place.1.symm.trans own.1),
    recorded.recoveryEpoch.trans (place.2.symm.trans own.2)⟩

theorem Succession.draft_unretired (succession : Succession backups)
    (walked : loadLocalRetirementCurrentSuccessor backups kind epoch = .ok successor)
    (member : row ∈ draftRows backups kind epoch successor) :
    row.1 ∈ unretired backups kind epoch := by
  obtain ⟨⟨stored, own, _⟩, chosen⟩ := mem_draftRows.mp member
  refine mem_unretired.mpr ⟨stored, own, ?_⟩
  intro generation present retired
  exact succession.current_unretired walked chosen (succession.retired_class present stored own retired) retired

theorem draft_takes_all (counted : (backups.points.rows.filter (ofClass kind epoch)).length =
      (draftRows backups kind epoch none).length)
    (stored : point ∈ backups.points.rows) (own : ofClass kind epoch point = true) :
    point.pointID ∈ (draftRows backups kind epoch none).map fun row => row.1.pointID := by
  have within : ((draftRows backups kind epoch none).map fun row => row.1.pointID) ⊆
      (backups.points.rows.filter (ofClass kind epoch)).map RecoveryPoint.pointID := by
    intro pointID listed
    obtain ⟨row, member, same⟩ := List.mem_map.mp listed
    obtain ⟨⟨present, held, _⟩, _⟩ := mem_draftRows.mp member
    exact List.mem_map.mpr ⟨row.1, List.mem_filter.mpr ⟨present, held⟩, same⟩
  have whole := (List.subperm_of_subset (draftRows_nodup none) within).perm_of_length_le (by simp [counted])
  exact whole.symm.mem_iff.mp (List.mem_map_of_mem (List.mem_filter.mpr ⟨stored, own⟩))

theorem Succession.draft_takes_iff (succession : Succession backups) {successor : Successor}
    (last : lastGeneration backups kind epoch = some generation)
    (heads : Heads backups generation ((generationsOf backups kind epoch).flatMap
      (Generation.targets backups)) successor)
    (member : point ∈ unretired backups kind epoch) :
    (point.pointID ∈ (draftRows backups kind epoch (some successor)).map fun row => row.1.pointID) ↔
      ((generation.survivors.any fun survivor => survivor.pointID == point.pointID) ||
        verifiedSince backups generation point) = true := by
  obtain ⟨stored, own, unretired⟩ := mem_unretired.mp member
  have free : ((generationsOf backups kind epoch).flatMap (Generation.targets backups)).contains
      point.pointID = false := by
    rw [Bool.eq_false_iff, ne_eq, List.contains_iff_mem, List.mem_flatMap]
    rintro ⟨older, listed, retired⟩
    exact unretired older (mem_generationsOf.mp listed).1 retired
  constructor
  · intro listed
    obtain ⟨row, taken, same⟩ := List.mem_map.mp listed
    obtain ⟨⟨present, _, live⟩, chosen⟩ := mem_draftRows.mp taken
    have equal : row.1 = point := List.inj_on_of_nodup_map backups.points.distinct present stored same
    rw [equal] at live
    simp only [current, Option.all_some, heads.survivors, equal, checks] at chosen ⊢
    refine chosen.imp_right fun newer => ?_
    simp only [isPostSuccessorRecoveryPoint, heads.stateRevision, heads.recordedAt, checks] at newer
    simp only [verifiedSince, live, Option.any_some, checks]
    exact ⟨newer.1.2, newer.2⟩
  · intro seen
    have verified : ∃ verification, liveVerification backups point.pointID = some verification ∧
        current (some successor) (point, verification) = true := by
      rcases Bool.or_eq_true_iff.mp seen with kept | newer
      · obtain ⟨survivor, present, same⟩ := List.any_eq_true.mp kept
        obtain ⟨intent, recorded⟩ := succession.generations generation (mem_generationsOf.mp (List.mem_of_getLast? last)).1
        rw [recorded.survivors] at present
        obtain ⟨_, _, _, _, verification, proof, named, status, live⟩ :=
          recorded.qualified.survivors survivor ((byPoint_perm _ _).mem_iff.mp present)
        obtain ⟨found, live⟩ := Option.isSome_iff_exists.mp
          (liveVerification_isSome proof (named.trans (beq_iff_eq.mp same)) status live)
        refine ⟨found, live, ?_⟩
        simp [current, heads.survivors, kept]
      · obtain ⟨verification, live, holds⟩ := (Option.any_eq_true _ _).mp newer
        have post : isPostSuccessorRecoveryPoint successor point verification = true := by
          simp only [isPostSuccessorRecoveryPoint, heads.retired, heads.stateRevision, heads.recordedAt, free, Bool.not_false,
            Bool.true_and]
          exact holds
        refine ⟨verification, live, ?_⟩
        simp [current, post]
    obtain ⟨verification, live, chosen⟩ := verified
    exact List.mem_map.mpr ⟨(point, verification), mem_draftRows.mpr ⟨⟨stored, own, live⟩, chosen⟩, rfl⟩

theorem Succession.takes_unretired_iff (succession : Succession backups)
    (walked : loadLocalRetirementCurrentSuccessor backups kind epoch = .ok successor)
    (counted : successor = none → (backups.points.rows.filter (ofClass kind epoch)).length =
      (draftRows backups kind epoch successor).length) :
    (∀ point ∈ unretired backups kind epoch,
      point.pointID ∈ (draftRows backups kind epoch successor).map fun row => row.1.pointID) ↔
        allVerifiedSince backups kind epoch = true := by
  rcases successor_cases walked with ⟨none, rfl⟩ | ⟨generation, found, last, rfl, heads⟩
  · have first : lastGeneration backups kind epoch = .none := by rw [lastGeneration, none]; rfl
    simp only [allVerifiedSince, first, Option.all_none, iff_true]
    intro point member
    obtain ⟨stored, own, _⟩ := mem_unretired.mp member
    exact draft_takes_all (counted rfl) stored own
  · simp only [allVerifiedSince, last, Option.all_some, List.all_eq_true]
    exact forall₂_congr fun point member => succession.draft_takes_iff last heads member

/-- In every reachable state a draft is complete if and only if every unretired
point was kept by the last retirement or verified since. -/
theorem retirement_draft_complete_iff {clock : Instant} {history : List Event} {digest : List ExpectedObject → String}
    {applied : Bool} {earlier : Backups} {repositoryClass : RepositoryClass} {recoveryEpoch : Int} {sources : DraftSources}
    (loaded : loadLocalRetirementDraftSources (after clock history).backups digest applied earlier repositoryClass
      recoveryEpoch = .ok sources) :
    Complete (after clock history).backups repositoryClass recoveryEpoch sources ↔
      allVerifiedSince (after clock history).backups repositoryClass recoveryEpoch = true := by
  have succession := succession_after clock history
  obtain ⟨successor, walked, points, counted⟩ := loaded_points loaded
  have listed : sources.points.map DraftInput.pointID = (draftRows (after clock history).backups repositoryClass recoveryEpoch
      successor).map fun row => row.1.pointID := by
    rw [points, List.map_map]
    rfl
  rw [← succession.takes_unretired_iff walked counted]
  constructor
  · intro complete point member
    rw [← listed]
    exact complete.points.mem_iff.mpr (List.mem_map_of_mem member)
  · intro takes
    constructor
    · rw [listed, List.perm_ext_iff_of_nodup (draftRows_nodup successor) unretired_nodup]
      intro pointID
      constructor
      · intro taken
        obtain ⟨row, member, same⟩ := List.mem_map.mp taken
        exact List.mem_map.mpr ⟨row.1, succession.draft_unretired walked member, same⟩
      · intro kept
        obtain ⟨point, member, same⟩ := List.mem_map.mp kept
        exact same ▸ takes point member
    · rw [points]
      intro input taken
      obtain ⟨row, member, rfl⟩ := List.mem_map.mp taken
      obtain ⟨⟨stored, _, live⟩, _⟩ := mem_draftRows.mp member
      exact ⟨row.1, row.2, Table.find?_eq_some_iff.mpr ⟨stored, rfl⟩, live, rfl⟩

section Example

def settling : List Event :=
  retiring ++
    [.call 0 (.beginMutation deletion),
      .call 0 (.finishMutation ⟨"mutation", "lease", .quarantined, some "snapshots/snapshot-1", true⟩),
      .call 0 (.beginCustody "lease" "nonce"), .call 0 (.finishCustody "nonce" .succeeded), .tick 1000000000,
      .call 0 (.commit ⟨"intent", "lease", "generation", "snapshot-2", ["point-2"], [⟨.snapshots, "snapshot-2", 10, "digest-2"⟩], 0,
        true⟩),
      .call 0 (.acquireReader ⟨"reader-again", "point-2", "local-standard", .standard, 1, ⟨1, 0⟩, 5000000000, true⟩),
      .call 0 (.appendVerification ⟨"verification-again", "proof-again", "point-2", "reader-again", "manifest-2", "inventory-2",
        "snapshot-2", some "generation", "content-2", "catalog", "dependencies", "key", 1, ⟨100, 50, 0⟩, ⟨1, 0⟩, .live, .passed,
        some 1000000000, some 1000000000, true, true⟩),
      .call 0 (.releaseReader "reader-again")]

def names (objects : List ExpectedObject) : String := String.join (objects.map ExpectedObject.name)

def drafted (backups : Backups) : Except Failure (List String) :=
  (loadLocalRetirementDraftSources backups names true backups .standard 0).map fun sources => sources.points.map DraftInput.pointID

theorem settled_draft_complete : ∃ sources,
    loadLocalRetirementDraftSources (after 0 settling).backups names true (after 0 settling).backups .standard 0 = .ok sources ∧
      Complete (after 0 settling).backups .standard 0 sources := by
  have succeeds : (loadLocalRetirementDraftSources (after 0 settling).backups names true (after 0 settling).backups .standard
      0).isOk = true := by decide +kernel
  simp only [finds] at succeeds
  obtain ⟨sources, loaded⟩ := succeeds
  exact ⟨sources, loaded, (retirement_draft_complete_iff loaded).mpr (by decide +kernel)⟩

/-- A point that was published after the retirement is left out as long as it is
not verified, and also when it was created in the second of the settlement. -/
theorem new_point_left_out :
    (unretired (after 0 (settling ++ publishing "3")).backups .standard 0).map RecoveryPoint.pointID = ["point-2", "point-3"] ∧
    (drafted (after 0 (settling ++ publishing "3")).backups).toOption = some ["point-2"] ∧
    (liveVerification (after 0 (settling ++ publishing "3" ++ verifying "3")).backups "point-3").isSome = true ∧
    (drafted (after 0 (settling ++ publishing "3" ++ verifying "3")).backups).toOption = some ["point-2"] := by
  decide +kernel

end Example

end VskLabs.Backup

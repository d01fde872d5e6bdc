import VskLabs.Backup.Exclusion
import VskLabs.Backup.Growth

/-! The mutations that a retirement lease is granted: numbered, within the budgets
of the staged selection, one after the other, and never on a snapshot that the
selection keeps. -/

namespace VskLabs.Backup
open Library

variable {backups next : Backups} {now clock : Instant}

def grantedTo (granted : List MutationAttempt) (leaseID : String) : List MutationAttempt :=
  granted.filter fun attempt => attempt.leaseID == leaseID

/-! ### The staged selection -/

theorem byPoint_perm {α : Type} (pointID : α → String) (rows : List α) : (byPoint pointID rows).Perm rows :=
  List.perm_insertionSort _ rows

variable {selection : Selection} {target : Target} {sequence : Int} {repositoryClass : RepositoryClass}
  {lease : RetirementLease} {intent : Intent} {call : Call} {attempt : MutationAttempt}
  {granted : List MutationAttempt} {request : MutationRequest}

theorem canonical_distinct {given : Selection} (done : canonicalRetirementSelection given = .ok selection) :
    selection.distinct = true := by
  obtain ⟨distinct, rfl⟩ := canonicalRetirementSelection_eq done
  simp only [Selection.distinct, checks] at distinct ⊢
  refine ⟨?_, ?_⟩
  · refine List.Perm.nodup ?_ distinct.1
    exact (((byPoint_perm _ _).map _).append ((byPoint_perm _ _).map _)).symm
  · refine List.Perm.nodup ?_ distinct.2
    exact (((byPoint_perm _ _).map _).append ((byPoint_perm _ _).map _)).symm

theorem canonical_repack {given : Selection} (done : canonicalRetirementSelection given = .ok selection) :
    0 ≤ selection.maxRepackBytes := by
  simp only [canonicalRetirementSelection, peel, checks] at done
  obtain ⟨_, bounds, rfl⟩ := done
  have least : 1 ≤ given.maxRepackBytes := by tauto
  dsimp only
  lia

theorem snapshots_differ (distinct : selection.distinct = true)
    (listed : target ∈ selection.targets) {survivor : Survivor} (kept : survivor ∈ selection.survivors) :
    target.snapshotID ≠ survivor.snapshotID := by
  simp only [Selection.distinct, checks] at distinct
  have disjoint := List.disjoint_of_nodup_append distinct.2
  intro same
  exact disjoint (List.mem_map_of_mem listed) (List.mem_map.mpr ⟨survivor, kept, same.symm⟩)

theorem mem_numberedActivations {activation : LockActivation} :
    (sequence, activation) ∈ numberedActivations backups ↔
      ∃ index : Nat, sequence = index + 1 ∧ backups.activations[index]? = some activation := by
  simp only [numberedActivations, List.mem_map, Prod.mk.injEq, Prod.exists, List.mem_zipIdx_iff_getElem?]
  constructor
  · rintro ⟨row, index, found, rfl, rfl⟩
    exact ⟨index, rfl, found⟩
  · rintro ⟨index, rfl, found⟩
    exact ⟨activation, index, found, rfl, rfl⟩

theorem currentLocks_mem {recoveryEpoch : Int} {locks : Int × LockActivation}
    (found : currentLocks backups repositoryClass recoveryEpoch = some locks) : locks ∈ numberedActivations backups :=
  (List.mem_filter.mp (List.mem_of_getLast? found)).1

theorem activation_unique {first second : LockActivation}
    (one : (sequence, first) ∈ numberedActivations backups) (two : (sequence, second) ∈ numberedActivations backups) :
    first = second := by
  obtain ⟨index, place, found⟩ := mem_numberedActivations.mp one
  obtain ⟨other, again, same⟩ := mem_numberedActivations.mp two
  have equal : index = other := by lia
  rw [← equal, found] at same
  exact Option.some.inj same

theorem Grows.numbered (grown : Grows backups next) {activation : LockActivation}
    (member : (sequence, activation) ∈ numberedActivations backups) :
    (sequence, activation) ∈ numberedActivations next := by
  obtain ⟨index, place, found⟩ := mem_numberedActivations.mp member
  obtain ⟨more, equal⟩ := grown.activations
  refine mem_numberedActivations.mpr ⟨index, place, ?_⟩
  rw [← equal, List.getElem?_append_left (List.getElem?_eq_some_iff.mp found).1, found]

/-- The survivors of a selection are stored and verified points of its class, and
its targets are stored there too. -/
structure Qualified (backups : Backups) (selection : Selection) : Prop where
  survivors : ∀ survivor ∈ selection.survivors, ∃ point, backups.points.find? survivor.pointID = some point ∧
    point.snapshotID = survivor.snapshotID ∧ ofClass selection.repositoryClass selection.recoveryEpoch point = true ∧
    ∃ verification ∈ backups.verifications.rows, verification.pointID = survivor.pointID ∧
      verification.status = .localVerified ∧ verification.proofClass = .live
  targets : ∀ target ∈ selection.targets, ∃ point, backups.points.find? target.pointID = some point ∧
    ofClass selection.repositoryClass selection.recoveryEpoch point = true

theorem Qualified.grow (qualified : Qualified backups selection) (grown : Grows backups next) :
    Qualified next selection where
  survivors survivor member := by
    obtain ⟨point, found, same, own, verification, proof, rest⟩ := qualified.survivors survivor member
    exact ⟨point, grown.points.find? found, same, own, verification, grown.verifications verification proof, rest⟩
  targets target member := by
    obtain ⟨point, found, own⟩ := qualified.targets target member
    exact ⟨point, grown.points.find? found, own⟩

theorem Claimed.qualified {stamp : Time} {request : ClaimRequest}
    (claimed : Claimed backups stamp request intent next) : Qualified backups intent.selection where
  survivors survivor member := by
    obtain ⟨proof, proven⟩ := claimed.survivors survivor member
    obtain ⟨⟨point, exact_⟩, present, verified⟩ := survivorProof_eq_some proven
    obtain ⟨found, snapshot, own⟩ := exactPoint_eq_some exact_
    exact ⟨point, found, snapshot, own, proof.1, present, verified⟩
  targets target member := by
    obtain ⟨point, exact_⟩ := claimed.targets target member
    obtain ⟨found, _, own⟩ := exactPoint_eq_some exact_
    exact ⟨point, found, own⟩

structure Sanctioned (backups : Backups) (lease : RetirementLease) (intent : Intent) : Prop where
  staged : backups.intents.find? lease.intentID = some intent
  repositoryClass : lease.repositoryClass = intent.selection.repositoryClass
  recoveryEpoch : lease.recoveryEpoch = intent.selection.recoveryEpoch
  distinct : intent.selection.distinct = true
  repack : 0 ≤ intent.selection.maxRepackBytes
  qualified : Qualified backups intent.selection
  locks : ∃ activation, (intent.selection.lockCatalogSequence, activation) ∈ numberedActivations backups ∧
    ∀ pointID ∈ activation.lockedPointIDs, intent.selection.survives pointID = true

theorem Sanctioned.grow {old : RetirementLease} (sanctioned : Sanctioned backups old intent)
    (grown : Grows backups next) (continued : old.Continues lease) : Sanctioned next lease intent := by
  obtain ⟨releasedAt, rfl, _⟩ := continued
  obtain ⟨activation, member, protected_⟩ := sanctioned.locks
  exact { sanctioned with
    staged := grown.intents.find? sanctioned.staged
    qualified := sanctioned.qualified.grow grown
    locks := ⟨activation, grown.numbered member, protected_⟩ }

theorem Claimed.sanctioned {stamp : Time} {request : ClaimRequest}
    (claimed : Claimed backups stamp request intent next)
    (canonical : ∃ given, canonicalRetirementSelection given = .ok intent.selection) :
    Sanctioned backups (request.lease intent.selection stamp) intent := by
  obtain ⟨given, canonical⟩ := canonical
  refine ⟨claimed.staged, rfl, rfl, canonical_distinct canonical, canonical_repack canonical, claimed.qualified, ?_⟩
  obtain ⟨⟨sequence, activation⟩, current, same, protected_⟩ := claimed.locks
  simp only [Selection.lockedBy, checks] at same
  exact ⟨activation, same.2 ▸ currentLocks_mem current, List.all_eq_true.mp protected_⟩

structure Governed (backups : Backups) : Prop where
  intents : ∀ intent ∈ backups.intents.rows, ∃ given, canonicalRetirementSelection given = .ok intent.selection
  leases : ∀ lease ∈ backups.retirements.rows, ∃ intent, Sanctioned backups lease intent

theorem Governed.staged_before (governed : Governed backups) (grown : Grows backups next)
    (member : lease ∈ backups.retirements.rows) (staged : next.intents.find? lease.intentID = some intent) :
    backups.intents.find? lease.intentID = some intent := by
  obtain ⟨known, sanctioned⟩ := governed.leases lease member
  have equal := (grown.intents.find? sanctioned.staged).symm.trans staged
  rw [sanctioned.staged, Option.some.inj equal]

theorem Governed.fresh : Governed .fresh := by
  constructor <;> simp [Backups.fresh, Table.empty]

theorem Governed.transact (governed : Governed backups) (done : call.transact backups now = .ok next) :
    Governed next := by
  have grown := Call.transact_grows done
  constructor
  · cases Call.transact_effect done with
    | stage selection intents canonical current added =>
      intro intent member
      rcases (Table.mem_insert? added).mp member with old | rfl
      · exact governed.intents intent old
      · exact ⟨_, canonical⟩
    | _ => exact governed.intents
  · intro lease member
    rcases Call.retirement_origin done member with ⟨old, present, continued⟩ | ⟨request, intent, rfl, claimed, rfl⟩
    · obtain ⟨intent, sanctioned⟩ := governed.leases old present
      exact ⟨intent, sanctioned.grow grown continued⟩
    · have canonical := governed.intents intent (Table.mem_of_find? claimed.staged)
      exact ⟨intent, (claimed.sanctioned canonical).grow grown (.refl _)⟩

/-! ### The journal -/

structure WithinSelection (selection : Selection) (granted : List MutationAttempt) : Prop where
  sequences : granted.map MutationAttempt.sequence = (List.range granted.length).map fun index : Nat => (index : Int) + 1
  work : (granted.length : Int) ≤ selection.maxWorkObjects
  mutation : totalBytes granted ≤ selection.maxMutationBytes
  repack : repackBytes granted ≤ selection.maxRepackBytes

structure Journaled (backups : Backups) (granted : List MutationAttempt) : Prop where
  journal : ∀ leaseID, ∃ denied, journalOf backups leaseID = grantedTo granted leaseID ++ denied ∧
    ∀ attempt ∈ denied, outcomeOf backups attempt.mutationID = some .denied
  budgets : ∀ attempt ∈ granted, ∃ lease intent, backups.retirements.find? attempt.leaseID = some lease ∧
    backups.intents.find? lease.intentID = some intent ∧
      WithinSelection intent.selection (grantedTo granted attempt.leaseID)

theorem Journaled.fresh : Journaled .fresh [] := by
  constructor
  · intro leaseID
    exact ⟨[], rfl, nofun⟩
  · nofun

theorem Grows.outcomeOf (grown : Grows backups next) {mutationID : String} {status : MutationStatus}
    (found : outcomeOf backups mutationID = some status) : outcomeOf next mutationID = some status := by
  simp only [Backup.outcomeOf, Option.map_eq_some_iff] at found ⊢
  obtain ⟨row, held, same⟩ := found
  exact ⟨row, grown.outcomes.find? held, same⟩

theorem journalOf_insert {attempts : Table MutationAttempt.mutationID}
    (added : backups.attempts.insert? attempt = some attempts) (same : next.attempts = attempts) (leaseID : String) :
    journalOf next leaseID = journalOf backups leaseID ++ (if attempt.leaseID = leaseID then [attempt] else []) := by
  simp only [journalOf, same, (Table.insert?_eq_some added).2, List.filter_append, List.filter_cons, List.filter_nil, checks]

theorem grantedTo_append (leaseID : String) :
    grantedTo (granted ++ [attempt]) leaseID =
      grantedTo granted leaseID ++ (if attempt.leaseID = leaseID then [attempt] else []) := by
  simp only [grantedTo, List.filter_append, List.filter_cons, List.filter_nil, checks]

theorem Journaled.budget_grow (journaled : Journaled backups granted)
    (done : call.transact backups now = .ok next) (member : attempt ∈ granted) :
    ∃ lease intent, next.retirements.find? attempt.leaseID = some lease ∧
      next.intents.find? lease.intentID = some intent ∧
        WithinSelection intent.selection (grantedTo granted attempt.leaseID) := by
  obtain ⟨lease, intent, held, staged, within⟩ := journaled.budgets attempt member
  obtain ⟨after, found, releasedAt, rfl, _⟩ := Call.retirement_continues done held
  exact ⟨_, intent, found, (Call.transact_grows done).intents.find? staged, within⟩

theorem Journaled.frame (journaled : Journaled backups granted)
    (done : call.transact backups now = .ok next) (same : next.attempts = backups.attempts) : Journaled next granted := by
  constructor
  · intro leaseID
    obtain ⟨denied, journal, refused⟩ := journaled.journal leaseID
    refine ⟨denied, ?_, fun attempt member => (Call.transact_grows done).outcomeOf (refused attempt member)⟩
    rw [← journal, journalOf, same, journalOf]
  · exact fun attempt member => journaled.budget_grow done member

theorem settled_of_denied (denied : outcomeOf backups attempt.mutationID = some .denied) :
    settled backups attempt = false := by
  rw [settled, denied]
  rfl

theorem Journaled.granted_of_settled (journaled : Journaled backups granted)
    {leaseID : String} (resolved : (journalOf backups leaseID).all (settled backups) = true) :
    journalOf backups leaseID = grantedTo granted leaseID := by
  obtain ⟨denied, journal, refused⟩ := journaled.journal leaseID
  have none : denied = [] := by
    apply List.eq_nil_iff_forall_not_mem.mpr
    intro attempt member
    have done := List.all_eq_true.mp resolved attempt (journal ▸ List.mem_append_right _ member)
    rw [settled_of_denied (refused attempt member)] at done
    cases done
  rw [journal, none, List.append_nil]

theorem totalBytes_append (first second : List MutationAttempt) :
    totalBytes (first ++ second) = totalBytes first + totalBytes second := by
  simp [totalBytes]

theorem repackBytes_append (first second : List MutationAttempt) :
    repackBytes (first ++ second) = repackBytes first + repackBytes second := by
  simp [repackBytes, totalBytes_append]

theorem WithinSelection.nil (work : 0 ≤ selection.maxWorkObjects)
    (mutation : 0 ≤ selection.maxMutationBytes) (repack : 0 ≤ selection.maxRepackBytes) : WithinSelection selection [] :=
  ⟨rfl, work, mutation, repack⟩

theorem WithinSelection.append (within : WithinSelection selection (journalOf backups attempt.leaseID))
    (allowed : withinBudget backups selection attempt = true) :
    WithinSelection selection (journalOf backups attempt.leaseID ++ [attempt]) := by
  simp only [withinBudget, checks] at allowed
  obtain ⟨⟨⟨⟨_, sequence⟩, work⟩, mutation⟩, repack⟩ := allowed
  constructor
  · rw [List.map_append, within.sequences, List.length_append, List.length_singleton, List.range_succ, List.map_append,
      List.map_singleton, List.map_singleton, sequence]
  · rw [List.length_append, List.length_singleton]
    lia
  · rw [totalBytes_append]
    simp only [totalBytes, List.map_cons, List.map_nil, List.sum_cons, List.sum_nil] at mutation ⊢
    lia
  · rw [repackBytes_append]
    rcases repack with other | fits
    · have none : repackBytes [attempt] = 0 := by simp [repackBytes, totalBytes, other]
      rw [none, Int.add_zero]
      exact within.repack
    · by_cases repacks : attempt.repacks = true
      · have bytes : repackBytes [attempt] = attempt.object.bytes := by simp [repackBytes, totalBytes, repacks]
        rw [bytes]
        lia
      · have none : repackBytes [attempt] = 0 := by simp [repackBytes, totalBytes, repacks]
        rw [none, Int.add_zero]
        exact within.repack

theorem Journaled.within (journaled : Journaled backups granted) (governed : Governed backups)
    (checked : MutationChecked backups request selection)
    (allowed : withinBudget backups selection request.toMutationAttempt = true) :
    WithinSelection selection (grantedTo granted request.leaseID) := by
  obtain ⟨lease, intent, held, _, staged, rfl, _, _⟩ := checked.lease
  cases earlier : grantedTo granted request.leaseID with
  | nil =>
    obtain ⟨_, sanctioned⟩ := governed.leases lease (Table.mem_of_find? held)
    have equal := Option.some.inj (sanctioned.staged.symm.trans staged)
    have repack := sanctioned.repack
    rw [equal] at repack
    simp only [withinBudget, Bool.and_eq_true, decide_eq_true_eq] at allowed
    obtain ⟨⟨⟨⟨resolved, _⟩, work⟩, mutation⟩, _⟩ := allowed
    rw [journaled.granted_of_settled resolved, earlier] at work mutation
    have bytes := checked.bytes
    simp only [totalBytes, List.map_nil, List.sum_nil, List.length_nil] at work mutation
    exact .nil (by lia) (by lia) repack
  | cons first rest =>
    obtain ⟨member, named⟩ := List.mem_filter.mp (earlier ▸ List.mem_cons_self : first ∈ grantedTo granted request.leaseID)
    obtain ⟨other, known, found, same, within⟩ := journaled.budgets first member
    rw [beq_iff_eq.mp named] at found within
    cases held.symm.trans found
    cases staged.symm.trans same
    rwa [earlier] at within

theorem Journaled.begin (journaled : Journaled backups granted) (governed : Governed backups)
    (done : (Call.beginMutation request).transact backups now = .ok next) {allowed : Bool}
    (begun : beginLocalMutation backups now request = .ok (next, allowed)) :
    Journaled next (granted ++ if allowed then [request.toMutationAttempt] else []) := by
  have grown := Call.transact_grows done
  obtain ⟨selection, attempts, checked, added, ⟨rfl, grants, equal⟩ | ⟨rfl, outcomes, noted, equal⟩⟩ :=
    beginLocalMutation_effect begun
  · simp only [Backup.grants, Bool.and_eq_true] at grants
    obtain ⟨⟨⟨budget, _⟩, _⟩, _⟩ := grants
    have resolved : (journalOf backups request.leaseID).all (settled backups) = true := by
      simp only [withinBudget, Bool.and_eq_true] at budget
      obtain ⟨⟨⟨⟨resolved, _⟩, _⟩, _⟩, _⟩ := budget
      exact resolved
    have all := journaled.granted_of_settled resolved
    have within := journaled.within governed checked budget
    rw [← all] at within
    have more := within.append budget
    rw [all] at more
    simp only [if_true]
    constructor
    · intro leaseID
      rw [journalOf_insert added (by rw [equal]) leaseID, grantedTo_append]
      by_cases own : request.leaseID = leaseID
      · subst own
        exact ⟨[], by rw [all, List.append_nil], nofun⟩
      · obtain ⟨denied, journal, refused⟩ := journaled.journal leaseID
        rw [if_neg own, List.append_nil, List.append_nil]
        exact ⟨denied, journal, fun attempt member => grown.outcomeOf (refused attempt member)⟩
    · intro attempt member
      by_cases own : request.leaseID = attempt.leaseID
      · obtain ⟨lease, intent, held, _, staged, rfl, _, _⟩ := checked.lease
        rw [grantedTo_append, if_pos own, ← own, equal]
        exact ⟨lease, intent, held, staged, more⟩
      · rw [grantedTo_append, if_neg own, List.append_nil]
        rcases List.mem_append.mp member with old | new
        · exact journaled.budget_grow done old
        · exact absurd (congrArg MutationAttempt.leaseID (List.mem_singleton.mp new)).symm own
  · rw [if_neg Bool.false_ne_true, List.append_nil]
    refine ⟨?_, fun attempt member => journaled.budget_grow done member⟩
    intro leaseID
    obtain ⟨denied, journal, refused⟩ := journaled.journal leaseID
    rw [journalOf_insert added (by rw [equal]) leaseID, journal, List.append_assoc]
    refine ⟨_, rfl, ?_⟩
    intro attempt member
    rcases List.mem_append.mp member with old | new
    · exact grown.outcomeOf (refused attempt old)
    · split at new
      · rw [List.mem_singleton.mp new, outcomeOf, equal, Table.find?_insert? noted]
        simp
      · cases new

theorem Call.perform_error {failure : Failure} (refused : call.transact backups now = .error failure) :
    call.perform backups now = backups := by
  rw [Call.perform, refused]

theorem Call.perform_ok (done : call.transact backups now = .ok next) : call.perform backups now = next := by
  rw [Call.perform, done]

theorem Call.granted_of_other (other : ∀ request, call ≠ .beginMutation request) :
    call.granted backups now = none := by
  cases call with
  | beginMutation request => exact absurd rfl (other request)
  | _ => rfl

theorem Journaled.perform (journaled : Journaled backups granted) (governed : Governed backups)
    (call : Call) : Journaled (call.perform backups now) (granted ++ (call.granted backups now).toList) := by
  by_cases other : ∀ request, call ≠ .beginMutation request
  · rw [Call.granted_of_other other, Option.toList_none, List.append_nil]
    apply call.perform_cases (fun next => Journaled next granted) journaled
    intro next done
    exact journaled.frame done (Call.attempts_eq done other)
  · rw [not_forall] at other
    obtain ⟨request, begins⟩ := other
    obtain rfl := not_ne_iff.mp begins
    cases begun : beginLocalMutation backups now request with
    | error failure =>
      have refused : (Call.beginMutation request).transact backups now = .error failure := by rw [Call.transact, begun]; rfl
      rw [Call.perform_error refused]
      simpa [Call.granted, begun] using journaled
    | ok result =>
      obtain ⟨next, allowed⟩ := result
      have done : (Call.beginMutation request).transact backups now = .ok next := by rw [Call.transact, begun]; rfl
      rw [Call.perform_ok done]
      have kept := journaled.begin governed done begun
      cases allowed with
      | true => simpa [Call.granted, begun] using kept
      | false => simpa [Call.granted, begun] using kept

/-! ### The last-good point -/

def openTargets (backups : Backups) (repositoryClass : RepositoryClass) : List String :=
  (backups.retirements.rows.filter (RetirementLease.open_ repositoryClass)).flatMap fun lease =>
    ((backups.intents.find? lease.intentID).map fun intent => intent.selection.targets.map Target.snapshotID).getD []

def LastGoodKept (backups : Backups) : Prop :=
  ∀ row ∈ backups.lastGood.rows, ∃ point, backups.points.find? row.pointID = some point ∧
    point.snapshotID ∉ openTargets backups row.repositoryClass

theorem mem_openTargets {snapshotID : String} :
    snapshotID ∈ openTargets backups repositoryClass ↔
      ∃ lease ∈ backups.retirements.rows, lease.open_ repositoryClass = true ∧
        ∃ intent, backups.intents.find? lease.intentID = some intent ∧
          ∃ target ∈ intent.selection.targets, target.snapshotID = snapshotID := by
  simp only [openTargets, List.mem_flatMap, List.mem_filter]
  constructor
  · rintro ⟨lease, ⟨member, opened⟩, listed⟩
    cases staged : backups.intents.find? lease.intentID with
    | none => simp [staged] at listed
    | some intent =>
      rw [staged] at listed
      obtain ⟨target, present, same⟩ := List.mem_map.mp listed
      exact ⟨lease, member, opened, intent, staged, target, present, same⟩
  · rintro ⟨lease, member, opened, intent, staged, target, present, same⟩
    refine ⟨lease, ⟨member, opened⟩, ?_⟩
    rw [staged]
    exact List.mem_map.mpr ⟨target, present, same⟩

theorem RetirementLease.Continues.open_ {old : RetirementLease} (continued : old.Continues lease)
    (opened : lease.open_ repositoryClass = true) :
    old.open_ repositoryClass = true := by
  obtain ⟨releasedAt, rfl, keeps⟩ := continued
  simp only [RetirementLease.open_, checks] at opened ⊢
  exact ⟨opened.1, keeps opened.2⟩

theorem openTargets_origin (governed : Governed backups) (done : call.transact backups now = .ok next)
    {snapshotID : String} (listed : snapshotID ∈ openTargets next repositoryClass) :
    snapshotID ∈ openTargets backups repositoryClass ∨
      ∃ request intent, call = .claim request ∧ Claimed backups (second now) request intent next ∧
        intent.selection.repositoryClass = repositoryClass ∧
          ∃ target ∈ intent.selection.targets, target.snapshotID = snapshotID := by
  have grown := Call.transact_grows done
  obtain ⟨lease, member, opened, intent, staged, target, present, same⟩ := mem_openTargets.mp listed
  rcases Call.retirement_origin done member with ⟨old, held, continued⟩ | ⟨request, claimedIntent, made, claimed, rfl⟩
  · have before := continued.open_ opened
    obtain ⟨releasedAt, rfl, _⟩ := continued
    exact .inl (mem_openTargets.mpr ⟨old, held, before, intent, governed.staged_before grown held staged, target, present, same⟩)
  · have equal := (grown.intents.find? claimed.staged).symm.trans staged
    rw [Option.some.inj equal] at claimed opened
    simp only [RetirementLease.open_, checks] at opened
    exact .inr ⟨request, intent, made, claimed, opened.1, target, present, same⟩

theorem Claimed.lastGood_kept {stamp : Time} {request : ClaimRequest} {row : LastGood} {point : RecoveryPoint}
    (claimed : Claimed backups stamp request intent next) (distinct : intent.selection.distinct = true)
    (member : row ∈ backups.lastGood.rows) (same : row.repositoryClass = intent.selection.repositoryClass)
    (found : backups.points.find? row.pointID = some point) (listed : target ∈ intent.selection.targets) :
    target.snapshotID ≠ point.snapshotID := by
  obtain ⟨current, held, _, survives⟩ := claimed.lastGood
  have equal := held.symm.trans (Table.find?_eq_some_iff.mpr ⟨member, same⟩)
  rw [Option.some.inj equal] at survives
  obtain ⟨survivor, kept, named⟩ := List.any_eq_true.mp survives
  obtain ⟨stored, there, snapshot, _⟩ := claimed.qualified.survivors survivor kept
  rw [beq_iff_eq.mp named, found] at there
  cases there
  rw [snapshot]
  exact snapshots_differ distinct listed kept

/-- While a verification reads a class, nothing of the class is being retired. -/
theorem Exclusive.openTargets_nil (exclusive : Exclusive clock backups)
    (reading : ∃ lease ∈ backups.readers.rows, lease.open_ repositoryClass = true) : openTargets backups repositoryClass = [] := by
  obtain ⟨reader, member, opened⟩ := reading
  refine List.eq_nil_iff_forall_not_mem.mpr fun snapshotID listed => ?_
  obtain ⟨lease, present, retiring, _⟩ := mem_openTargets.mp listed
  rw [(exclusive.alone repositoryClass lease present retiring).2 reader member] at opened
  cases opened

theorem LastGoodKept.transact (kept : LastGoodKept backups) (governed : Governed backups) (exclusive : Exclusive clock backups)
    (done : call.transact backups now = .ok next) : LastGoodKept next := by
  have grown := Call.transact_grows done
  -- a row that was there before, or whose point the condition allows
  have stays : ∀ row : LastGood, ∀ point, backups.points.find? row.pointID = some point →
      point.snapshotID ∉ openTargets backups row.repositoryClass → (∀ request, call = .claim request → row ∈ backups.lastGood.rows) →
      ∃ point, next.points.find? row.pointID = some point ∧ point.snapshotID ∉ openTargets next row.repositoryClass := by
    intro row point found free old
    refine ⟨point, grown.points.find? found, ?_⟩
    intro listed
    rcases openTargets_origin governed done listed with before | ⟨request, intent, made, claimed, same, target, present, equal⟩
    · exact free before
    · obtain ⟨given, canonical⟩ := governed.intents intent (Table.mem_of_find? claimed.staged)
      exact claimed.lastGood_kept (canonical_distinct canonical) (old request made) same.symm found present equal
  intro row member
  by_cases other : ∀ request, call ≠ .advanceLastGood request
  · rw [Call.lastGood_eq done other] at member
    obtain ⟨point, found, free⟩ := kept row member
    exact stays row point found free fun _ _ => member
  · rw [not_forall] at other
    obtain ⟨request, advances⟩ := other
    obtain rfl := not_ne_iff.mp advances
    cases Call.transact_effect done with | advanceLastGood lastGood reading stored added =>
    rcases (Table.mem_insert? added).mp member with old | rfl
    · obtain ⟨point, found, free⟩ := kept row (Table.mem_delete.mp old).1
      exact stays row point found free nofun
    · obtain ⟨point, found⟩ := Option.isSome_iff_exists.mp stored
      exact stays _ point found (by simp [LastGoodRequest.row, exclusive.openTargets_nil reading]) nofun

/-! ### Whole histories -/

structure Moment.Guarded (moment : Moment) : Prop where
  governed : Governed moment.backups
  journaled : Journaled moment.backups moment.granted
  lastGood : LastGoodKept moment.backups
  orderly : moment.Orderly

theorem Moment.Guarded.start (clock : Instant) : (Moment.start clock).Guarded :=
  ⟨.fresh, .fresh, nofun, .fresh clock, .fresh⟩

theorem Moment.Guarded.step {moment : Moment} {event : Event} (guarded : moment.Guarded) : (event.step moment).Guarded := by
  have orderly := (guarded.orderly.step event).1
  cases event with
  | tick elapsed => exact ⟨guarded.governed, guarded.journaled, guarded.lastGood, orderly⟩
  | call age made =>
    refine ⟨?_, guarded.journaled.perform guarded.governed made, ?_, orderly⟩
    · exact made.perform_cases Governed guarded.governed fun next done => guarded.governed.transact done
    · exact made.perform_cases LastGoodKept guarded.lastGood fun next done =>
        guarded.lastGood.transact guarded.governed guarded.orderly.exclusive done

theorem guarded_after (clock : Instant) (history : List Event) : (after clock history).Guarded :=
  execute_invariant (.start clock) fun _ _ guarded => guarded.step

/-- What a mutation is granted on: the earlier ones are settled, and a deleted
snapshot is that of a target and of no point that has to stay. -/
structure Permitted (moment : Moment) (attempt : MutationAttempt) : Prop where
  earlier : ∀ other ∈ grantedTo moment.granted attempt.leaseID, settled moment.backups other = true
  snapshot : attempt.mutationKind = .delete → attempt.object.type = .snapshots →
    ∃ lease intent, moment.backups.retirements.find? attempt.leaseID = some lease ∧
      moment.backups.intents.find? lease.intentID = some intent ∧
      (∃ target ∈ intent.selection.targets, target.snapshotID = attempt.object.name) ∧
      (∀ survivor ∈ intent.selection.survivors, survivor.snapshotID ≠ attempt.object.name) ∧
      (∀ locks, currentLocks moment.backups lease.repositoryClass lease.recoveryEpoch = some locks →
        ∀ pointID ∈ locks.2.lockedPointIDs, ∀ point, moment.backups.points.find? pointID = some point →
          point.snapshotID ≠ attempt.object.name) ∧
      ∀ row, moment.backups.lastGood.find? lease.repositoryClass = some row →
        ∀ point, moment.backups.points.find? row.pointID = some point → point.snapshotID ≠ attempt.object.name

theorem Sanctioned.locked_snapshot (sanctioned : Sanctioned backups lease intent)
    {locks : Int × LockActivation} (listed : locks ∈ numberedActivations backups)
    (same : intent.selection.lockedBy locks = true) {pointID : String} (locked : pointID ∈ locks.2.lockedPointIDs)
    {point : RecoveryPoint} (found : backups.points.find? pointID = some point)
    (present : target ∈ intent.selection.targets) : point.snapshotID ≠ target.snapshotID := by
  obtain ⟨activation, member, protected_⟩ := sanctioned.locks
  obtain ⟨sequence, current⟩ := locks
  simp only [Selection.lockedBy, checks] at same
  rw [← same.2] at member
  rw [activation_unique listed member] at locked
  obtain ⟨survivor, kept, named⟩ := List.any_eq_true.mp (protected_ pointID locked)
  obtain ⟨stored, there, snapshot, _⟩ := sanctioned.qualified.survivors survivor kept
  rw [beq_iff_eq.mp named, found] at there
  cases there
  rw [snapshot]
  exact (snapshots_differ sanctioned.distinct present kept).symm

theorem Moment.Guarded.permits {moment : Moment} (guarded : moment.Guarded)
    (granted : (Call.beginMutation request).granted moment.backups now = some attempt) : Permitted moment attempt := by
  simp only [Call.granted] at granted
  split at granted
  next next begun =>
    cases granted
    obtain ⟨selection, _, checked, _, ⟨_, grants, _⟩ | ⟨impossible, _⟩⟩ := beginLocalMutation_effect begun
    · simp only [Backup.grants, withinBudget, Bool.and_eq_true] at grants
      obtain ⟨⟨⟨⟨⟨⟨⟨resolved, _⟩, _⟩, _⟩, _⟩, _⟩, _⟩, exact_⟩ := grants
      constructor
      · intro other member
        rw [← guarded.journaled.granted_of_settled resolved] at member
        exact List.all_eq_true.mp resolved other member
      · intro _ snapshots
        obtain ⟨lease, intent, held, opened, staged, rfl, _, locked⟩ := checked.lease
        obtain ⟨known, sanctioned⟩ := guarded.governed.leases lease (Table.mem_of_find? held)
        cases staged.symm.trans sanctioned.staged
        simp only [targetSnapshot, snapshots, bne_self_eq_false, Bool.false_or, List.any_eq_true, checks] at exact_
        obtain ⟨target, present, named, _⟩ := exact_
        refine ⟨lease, intent, held, staged, ⟨target, present, named⟩, ?_, ?_, ?_⟩
        · intro survivor kept same
          exact snapshots_differ sanctioned.distinct present kept (named.trans same.symm)
        · intro locks current pointID listed point found same
          rw [current, Option.any_some] at locked
          exact sanctioned.locked_snapshot (currentLocks_mem current) locked listed found present (same.trans named.symm)
        · intro row last point found same
          obtain ⟨stored, there, free⟩ := guarded.lastGood row (Table.mem_of_find? last)
          rw [found] at there
          cases there
          apply free
          refine mem_openTargets.mpr ⟨lease, Table.mem_of_find? held, ?_, intent, staged, target, present, named.trans same.symm⟩
          simp [RetirementLease.open_, opened, Table.find?_key last]
    · cases impossible
  next => cases granted

/-- In every history the mutations granted to a lease are within its selection, and
each of them is permitted in the moment it is begun. -/
theorem retirement_stays_in_selection (clock : Instant) (history : List Event) :
    (∀ attempt ∈ (after clock history).granted, ∃ lease intent,
      (after clock history).backups.retirements.find? attempt.leaseID = some lease ∧
      (after clock history).backups.intents.find? lease.intentID = some intent ∧
      WithinSelection intent.selection (grantedTo (after clock history).granted attempt.leaseID)) ∧
    ∀ (earlier : List Event) (age : Nat) (request : MutationRequest) (rest : List Event) (attempt : MutationAttempt),
      history = earlier ++ .call age (.beginMutation request) :: rest →
      (Call.beginMutation request).granted (after clock earlier).backups ((after clock earlier).clock - age) = some attempt →
        Permitted (after clock earlier) attempt := by
  constructor
  · exact (guarded_after clock history).journaled.budgets
  · rintro earlier age request rest attempt rfl granted
    exact (guarded_after clock earlier).permits granted

section Example

def dailyPolicy : Policy := ⟨"policy-digest", 0, true, 24, 24, 0⟩

def publishing (number : String) : List Event :=
  [.call 0 (.acquireWriter ⟨"writer-" ++ number, "job-" ++ number, "policy", "policy-digest", "run", "step", "local-standard",
      .standard, 1, 0, 5000000000, true⟩),
    .call 0 (.appendPoint ⟨"writer-" ++ number, "point-" ++ number, "snapshot-" ++ number, 10, "content-" ++ number,
      "manifest-" ++ number, "inventory-" ++ number,
      ⟨"point-" ++ number, "policy", "policy-digest", "local-standard", .standard, "run", "step", 1, "catalog", "dependencies", "key"⟩,
      [⟨.snapshots, "snapshot-" ++ number, 10, "digest-" ++ number⟩], 1, 0, true, true⟩)]

/-- A verification, with what it does between its proof and the end of its lease. -/
def verification (number : String) (advance : List Event) : List Event :=
  [.call 0 (.acquireReader ⟨"reader-" ++ number, "point-" ++ number, "local-standard", .standard, 1, ⟨1, 0⟩, 5000000000, true⟩),
    .call 0 (.appendVerification ⟨"verification-" ++ number, "proof-" ++ number, "point-" ++ number, "reader-" ++ number,
      "manifest-" ++ number, "inventory-" ++ number, "inventory-" ++ number, none, "content-" ++ number, "catalog",
      "dependencies", "key", 1, ⟨100, 50, 0⟩, ⟨1, 0⟩, .live, .passed, some 0, some 0, true, true⟩)] ++ advance ++
    [.call 0 (.releaseReader ("reader-" ++ number))]

def verifying (number : String) : List Event := verification number []

def advancing (number : String) (previous : Option String) : Event :=
  .call 0 (.advanceLastGood ⟨"verification-" ++ number, "proof-" ++ number, "point-" ++ number, "reader-" ++ number,
    .standard, ⟨1, 0⟩, ⟨1, 0⟩, previous, true⟩)

def retiring : List Event :=
  [.call 0 .advanceRevision, .call 0 (.putPolicy dailyPolicy)] ++ publishing "1" ++ publishing "2" ++ verifying "1" ++
    verification "2" [advancing "2" none] ++
    [.call 0 (.activateLocks ⟨⟨.standard, 0, "locks", "coverage", ["point-2"]⟩, ⟨1, 0⟩, true⟩),
      .call 0 (.stage ⟨"intent", "plan", "plan-digest", ⟨"local-standard", .standard, "inventory", "locks", "coverage", 1,
        [⟨"point-1", "snapshot-1", "manifest-1", "inventory-1", "dependencies"⟩],
        [⟨⟨"point-2", "snapshot-2", "manifest-2", "inventory-2", "dependencies"⟩, "proof-2"⟩], 1, 1, 0, 10, 4, 100, 50,
        ⟨100, 50, 0⟩, 10, 0⟩, true, true⟩),
      .call 0 (.claim ⟨"intent", "lease", "plan", "plan-digest", 0, 60000000000, true, true⟩)]

def deletion : MutationRequest :=
  ⟨⟨"mutation", "lease", 1, .delete, ⟨.snapshots, "snapshot-1", 10, "digest-1"⟩, 0⟩, true, true⟩

theorem target_snapshot_deleted :
    (after 0 (retiring ++ [.call 0 (.beginMutation deletion)])).granted = [deletion.toMutationAttempt] ∧
      ((after 0 retiring).backups.lastGood.find? .standard).map LastGood.pointID = some "point-2" ∧
      Permitted (after 0 retiring) deletion.toMutationAttempt :=
  ⟨by decide +kernel, by decide +kernel,
    (retirement_stays_in_selection 0 (retiring ++ [.call 0 (.beginMutation deletion)])).2 retiring 0 deletion [] _ rfl
      (by decide +kernel)⟩

end Example

end VskLabs.Backup

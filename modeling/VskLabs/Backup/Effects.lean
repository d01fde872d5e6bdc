import VskLabs.Backup.Calls

/-! What each call that commits has checked and what it leaves. -/

namespace VskLabs.Backup
open Library

variable {backups next : Backups} {now : Instant}

section Leases

structure WriterAcquired (backups : Backups) (stamp : Time) (request : WriterLeaseRequest) (next : Backups) : Prop where
  readers : ∀ lease ∈ (reclaimReaders (reclaimWriters backups request.repositoryClass stamp) request.repositoryClass
    stamp).readers.rows, lease.open_ request.repositoryClass = false
  retirements : ∀ lease ∈ backups.retirements.rows, lease.open_ request.repositoryClass = false
  writers : ∀ lease ∈ (reclaimWriters backups request.repositoryClass stamp).writers.rows,
    lease.open_ request.repositoryClass = false
  appended : ∃ jobs writers,
    (reclaimWriters backups request.repositoryClass stamp).jobs.insert? request.job = some jobs ∧
    (reclaimWriters backups request.repositoryClass stamp).writers.insert? (request.lease stamp) = some writers ∧
    next = { reclaimReaders (reclaimWriters backups request.repositoryClass stamp) request.repositoryClass stamp with
      jobs, writers }

theorem acquireBackupWriterLease_effect {request : WriterLeaseRequest}
    (done : acquireBackupWriterLease backups now request = .ok next) :
    WriterAcquired backups (second now) request next := by
  simp only [acquireBackupWriterLease, insertWriter, peel, checks, List.any_eq_false, Bool.not_eq_true] at done
  obtain ⟨_, _, _, readers, _, retirements, jobs, job, _, writers, rows, lease, rfl⟩ := done
  exact ⟨readers, retirements, writers, jobs, rows, job, lease, rfl⟩

structure ReaderAcquired (backups : Backups) (stamp : Time) (request : ReadLeaseRequest) (next : Backups) : Prop where
  writers : ∀ lease ∈ backups.writers.rows, lease.open_ request.repositoryClass = true → lease.maximumExpiresAt ≤ stamp
  retirements : ∀ lease ∈ backups.retirements.rows, lease.open_ request.repositoryClass = false
  readers : ∀ lease ∈ (reclaimReaders backups request.repositoryClass stamp).readers.rows,
    lease.open_ request.repositoryClass = false
  appended : ∃ readers,
    (reclaimReaders backups request.repositoryClass stamp).readers.insert? (request.lease stamp) = some readers ∧
    next = { backups with readers }

theorem acquireBackupReadLease_effect {request : ReadLeaseRequest}
    (done : acquireBackupReadLease backups now request = .ok next) : ReaderAcquired backups (second now) request next := by
  simp only [acquireBackupReadLease, insertReader, peel, Bool.not_eq_true', List.any_eq_false, Bool.not_eq_true] at done
  obtain ⟨_, _, _, _, _, _, _, writers, _, retirements, _, readers, rows, added, rfl⟩ := done
  refine ⟨?_, retirements, readers, rows, added, rfl⟩
  intro lease member holds
  have late := writers lease member
  rw [holds, Bool.true_and, decide_eq_false_iff_not, not_lt] at late
  exact late

end Leases

section Retirement

theorem canonicalRetirementSelection_eq {selection canonical : Selection}
    (done : canonicalRetirementSelection selection = .ok canonical) :
    selection.distinct = true ∧ canonical = { selection with
      targets := byPoint Target.pointID selection.targets
      survivors := byPoint (fun survivor => survivor.pointID) selection.survivors } := by
  simp only [canonicalRetirementSelection, peel, checks] at done
  obtain ⟨_, ⟨_, distinct⟩, rfl⟩ := done
  exact ⟨distinct, rfl⟩

theorem exactPoint_eq_some {selection : Selection} {target : Target} {point : RecoveryPoint}
    (found : exactPoint backups selection target = some point) :
    backups.points.find? target.pointID = some point ∧ point.snapshotID = target.snapshotID ∧
      ofClass selection.repositoryClass selection.recoveryEpoch point = true := by
  simp only [exactPoint, Option.filter_eq_some_iff, checks] at found
  tauto

theorem survivorProof_eq_some {selection : Selection} {survivor : Survivor} {proof : Verification × Policy}
    (proven : survivorProof backups selection survivor = some proof) :
    (∃ point, exactPoint backups selection survivor.toTarget = some point) ∧ proof.1 ∈ backups.verifications.rows ∧
      proof.1.pointID = survivor.pointID ∧ proof.1.status = .localVerified ∧ proof.1.proofClass = .live := by
  simp only [survivorProof, Option.bind_eq_bind, Option.bind_eq_some_iff, Option.pure_def, Option.some.injEq] at proven
  obtain ⟨point, exact_, policy, _, row, found, rfl⟩ := proven
  have holds := List.find?_some found
  simp only [checks] at holds
  exact ⟨⟨point, exact_⟩, List.mem_of_find?_eq_some found, by tauto, by tauto, by tauto⟩

theorem proveSurvivors_ok {selection : Selection} {survivors : List Survivor}
    (done : proveSurvivors backups now selection survivors = .ok ()) :
    ∀ survivor ∈ survivors, ∃ proof, survivorProof backups selection survivor = some proof := by
  induction survivors with
  | nil =>
    intro survivor member
    cases member
  | cons first rest ih =>
    simp only [proveSurvivors, peel] at done
    obtain ⟨proof, proven, _, _, later⟩ := done
    intro survivor member
    rcases List.mem_cons.mp member with rfl | member
    · exact ⟨proof, proven⟩
    · exact ih later survivor member

structure Claimed (backups : Backups) (stamp : Time) (request : ClaimRequest) (intent : Intent) (next : Backups) : Prop where
  staged : backups.intents.find? request.intentID = some intent
  current : atRevision backups ⟨intent.selection.stateRevision, intent.selection.recoveryEpoch⟩ = true
  locks : ∃ locks, currentLocks backups intent.selection.repositoryClass intent.selection.recoveryEpoch = some locks ∧
    intent.selection.lockedBy locks = true ∧ locks.2.lockedPointIDs.all intent.selection.survives = true
  unleased : unleased backups intent.selection.repositoryClass = true
  points : ∃ pointIDs, loadLocalRetirementCurrentPointIDs backups intent.selection.repositoryClass
    intent.selection.recoveryEpoch = .ok pointIDs ∧ intent.selection.coversPoints pointIDs = true
  survivors : ∀ survivor ∈ intent.selection.survivors, ∃ proof, survivorProof backups intent.selection survivor = some proof
  targets : ∀ target ∈ intent.selection.targets, ∃ point, exactPoint backups intent.selection target = some point
  lastGood : ∃ row, backups.lastGood.find? intent.selection.repositoryClass = some row ∧
    row.recoveryEpoch = intent.selection.recoveryEpoch ∧ intent.selection.survives row.pointID = true
  appended : ∃ retirements, backups.retirements.insert? (request.lease intent.selection stamp) = some retirements ∧
    next = { backups with retirements }

theorem claimLocalRetirement_effect {request : ClaimRequest} (done : claimLocalRetirement backups now request = .ok next) :
    ∃ intent, Claimed backups (second now) request intent next := by
  simp only [claimLocalRetirement, peel, mapError_eq_ok, Option.filter_eq_some_iff] at done
  obtain ⟨_, _, _, _, intent, found, _, _, _, current, locks, ⟨locked, same⟩, _, _, _, unleased, pointIDs, loaded, _, covers,
    _, _, _, survivors, _, targets, _, protected_, _, last, retirements, added, rfl⟩ := done
  simp only [finds, checks] at last
  exact ⟨intent, found, current, ⟨locks, locked, same, protected_⟩, unleased, ⟨pointIDs, loaded, covers⟩,
    proveSurvivors_ok survivors, fun target member => Option.isSome_iff_exists.mp (List.all_eq_true.mp targets target member),
    last, retirements, added, rfl⟩

theorem recordAttempt_effect {attempt : MutationAttempt} (done : recordAttempt backups attempt = .ok next) :
    ∃ attempts, backups.attempts.insert? attempt = some attempts ∧ next = { backups with attempts } := by
  simp only [recordAttempt, peel] at done
  obtain ⟨_, _, attempts, added, rfl⟩ := done
  exact ⟨attempts, added, rfl⟩

theorem recordOutcome_effect {outcome : MutationOutcome} (done : recordOutcome backups outcome = .ok next) :
    ∃ outcomes, backups.outcomes.insert? outcome = some outcomes ∧ next = { backups with outcomes } := by
  simp only [recordOutcome, peel] at done
  obtain ⟨outcomes, added, rfl⟩ := done
  exact ⟨outcomes, added, rfl⟩

structure MutationChecked (backups : Backups) (request : MutationRequest) (selection : Selection) : Prop where
  lease : ∃ lease intent, backups.retirements.find? request.leaseID = some lease ∧ lease.releasedAt = none ∧
    backups.intents.find? lease.intentID = some intent ∧ intent.selection = selection ∧
    atRevision backups ⟨selection.stateRevision, lease.recoveryEpoch⟩ = true ∧
    (currentLocks backups lease.repositoryClass lease.recoveryEpoch).any selection.lockedBy = true
  bytes : 0 ≤ request.object.bytes

theorem mutationSelection_effect {request : MutationRequest} {selection : Selection}
    (done : mutationSelection backups now request = .ok selection) : MutationChecked backups request selection := by
  simp only [mutationSelection, peel, Option.filter_eq_some_iff, checks] at done
  obtain ⟨_, ⟨_, bytes⟩, _, _, lease, ⟨found, unreleased⟩, intent, staged, _, _, _, current, _, locks, rfl⟩ := done
  exact ⟨⟨lease, intent, found, unreleased, staged, rfl, current, locks⟩, bytes⟩

theorem beginLocalMutation_effect {request : MutationRequest} {granted : Bool}
    (done : beginLocalMutation backups now request = .ok (next, granted)) :
    ∃ selection attempts, MutationChecked backups request selection ∧
      backups.attempts.insert? request.toMutationAttempt = some attempts ∧
      (granted = true ∧ grants backups selection request.toMutationAttempt = true ∧ next = { backups with attempts } ∨
        granted = false ∧ ∃ outcomes, backups.outcomes.insert? ⟨request.mutationID, .denied, none⟩ = some outcomes ∧
          next = { backups with attempts, outcomes }) := by
  simp only [beginLocalMutation, peel] at done
  obtain ⟨selection, checked, begun, recorded, done⟩ := done
  obtain ⟨attempts, added, rfl⟩ := recordAttempt_effect recorded
  refine ⟨selection, attempts, mutationSelection_effect checked, added, ?_⟩
  split at done
  next grants =>
    cases done
    exact .inl ⟨rfl, grants, rfl⟩
  next =>
    simp only [peel] at done
    obtain ⟨_, denied, done⟩ := done
    obtain ⟨outcomes, noted, rfl⟩ := recordOutcome_effect denied
    cases done
    exact .inr ⟨rfl, outcomes, noted, rfl⟩

def releasedRetirements (backups : Backups) (leaseID : String) (stamp : Time) : Table RetirementLease.leaseID :=
  backups.retirements.modify (fun lease => lease.leaseID == leaseID && lease.releasedAt == none)
    (fun lease => { lease with releasedAt := some stamp }) fun _ => rfl

structure Committed (backups : Backups) (stamp : Time) (request : SettlementRequest) (intent : Intent) (next : Backups) :
    Prop where
  lease : ∃ lease, backups.retirements.find? request.leaseID = some lease ∧ lease.intentID = request.intentID ∧
    lease.releasedAt = none
  staged : backups.intents.find? request.intentID = some intent
  journal : (journalOf backups request.leaseID).all (settled backups) = true
  appended : ∃ generations, backups.generations.insert? (request.generation intent.selection
      (generationsOf backups intent.selection.repositoryClass intent.selection.recoveryEpoch).getLast? stamp) =
        some generations ∧
    next = { backups with generations, retirements := releasedRetirements backups request.leaseID stamp }

theorem commitLocalRetirementSuccess_effect {request : SettlementRequest}
    (done : commitLocalRetirementSuccess backups now request = .ok next) :
    ∃ intent, Committed backups (second now) request intent next := by
  simp only [commitLocalRetirementSuccess, releaseRetirement, peel, Option.filter_eq_some_iff, Bool.and_eq_true, beq_iff_eq] at done
  obtain ⟨_, _, _, _, lease, ⟨found, same, unreleased⟩, intent, staged, _, _, _, _, _, journal, _, _, generations, added,
    _, _, rfl⟩ := done
  have named : lease.leaseID = request.leaseID := Table.find?_key found
  refine ⟨intent, ⟨lease, found, same, unreleased⟩, staged, journal, generations, added, ?_⟩
  simp only [releasedRetirements, named]

end Retirement

section Frame

theorem checkLastGood_stored {request : LastGoodRequest} (checked : checkLastGood backups now request = .ok ()) :
    (backups.points.find? request.pointID).isSome = true := by
  simp only [checkLastGood, peel] at checked
  obtain ⟨_, _, verification, _, point, found, _⟩ := checked
  rw [found]
  rfl

def Call.leases : Call → Bool
  | .acquireWriter _ | .appendPoint _ | .failJob _ _ | .acquireReader _ | .releaseReader _ | .claim _ | .commit _ => true
  | _ => false

/-- What a call that commits has checked and the tables it leaves. -/
inductive Effect (backups : Backups) (now : Instant) : Call → Backups → Prop where
  | acquireWriter {request} jobs writers readers
      (acquired : WriterAcquired backups (second now) request { backups with jobs, writers, readers }) :
    Effect backups now (.acquireWriter request) { backups with jobs, writers, readers }
  | appendPoint {request} lease points (found : backups.writers.find? request.leaseID = some lease)
      (opened : lease.releasedAt = none) (added : backups.points.insert? (request.point lease (second now)) = some points) :
    Effect backups now (.appendPoint request) { backups with
      points
      jobs := backups.jobs.modify (fun job => job.jobID == lease.jobID)
        (fun job => { job with status := .pending, pointID := some request.pointID }) fun _ => rfl
      writers := backups.writers.modify (fun row => row.leaseID == request.leaseID)
        (fun row => { row with releasedAt := some (second now), pointID := some request.pointID }) fun _ => rfl }
  | failJob {leaseID outcome} lease (found : backups.writers.find? leaseID = some lease)
      (opened : lease.releasedAt = none) :
    Effect backups now (.failJob leaseID outcome) { backups with
      jobs := backups.jobs.modify (fun job => job.jobID == lease.jobID)
        (fun job => { job with status := outcome.status }) fun _ => rfl
      writers := backups.writers.modify (fun row => row.leaseID == leaseID)
        (fun row => { row with releasedAt := some (second now) }) fun _ => rfl }
  | acquireReader {request} readers (acquired : ReaderAcquired backups (second now) request { backups with readers }) :
    Effect backups now (.acquireReader request) { backups with readers }
  | releaseReader {leaseID} :
    Effect backups now (.releaseReader leaseID) { backups with
      readers := backups.readers.modify (fun row => row.leaseID == leaseID && row.releasedAt == none)
        (fun row => { row with releasedAt := some (second now) }) fun _ => rfl }
  | appendVerification {request} status verifications observations
      (added : backups.verifications.insert? (request.row backups now status) = some verifications) :
    Effect backups now (.appendVerification request) { backups with verifications, observations }
  | advanceLastGood {request} lastGood (reading : ∃ lease ∈ backups.readers.rows, lease.open_ request.repositoryClass = true)
      (stored : (backups.points.find? request.pointID).isSome = true)
      (added : (backups.lastGood.delete fun old => old.repositoryClass == request.repositoryClass).insert? request.row =
        some lastGood) :
    Effect backups now (.advanceLastGood request) { backups with lastGood }
  | putPolicy {policy} : Effect backups now (.putPolicy policy) { backups with policies := backups.policies ++ [policy] }
  | activateLocks {request} :
    Effect backups now (.activateLocks request) { backups with activations := backups.activations ++ [request.activation] }
  | stage {request} selection intents (canonical : canonicalRetirementSelection request.selection = .ok selection)
      (current : atRevision backups ⟨selection.stateRevision, selection.recoveryEpoch⟩ = true)
      (added : backups.intents.insert? ⟨request.intentID, request.planID, request.planDigest, selection⟩ = some intents) :
    Effect backups now (.stage request) { backups with intents }
  | claim {request} intent retirements
      (claimed : Claimed backups (second now) request intent { backups with retirements }) :
    Effect backups now (.claim request) { backups with retirements }
  | beginMutation {request} attempts outcomes (extended : backups.outcomes.Extends outcomes) :
    Effect backups now (.beginMutation request) { backups with attempts, outcomes }
  | finishMutation {request} outcomes (extended : backups.outcomes.Extends outcomes) :
    Effect backups now (.finishMutation request) { backups with outcomes }
  | beginCustody {leaseID nonceDigest} custody : Effect backups now (.beginCustody leaseID nonceDigest) { backups with custody }
  | finishCustody {nonceDigest outcome} custody :
    Effect backups now (.finishCustody nonceDigest outcome) { backups with custody }
  | commit {request} intent generations
      (committed : Committed backups (second now) request intent
        { backups with generations, retirements := releasedRetirements backups request.leaseID (second now) }) :
    Effect backups now (.commit request)
      { backups with generations, retirements := releasedRetirements backups request.leaseID (second now) }
  | advanceRevision : Effect backups now .advanceRevision { backups with stateRevision := backups.stateRevision + 1 }
  | startEpoch : Effect backups now .startEpoch { backups with recoveryEpoch := backups.recoveryEpoch + 1 }

theorem Call.transact_effect {call : Call} (done : call.transact backups now = .ok next) : Effect backups now call next := by
  cases call with
  | acquireWriter request =>
    have acquired := acquireBackupWriterLease_effect done
    obtain ⟨jobs, writers, _, _, rfl⟩ := acquired.appended
    exact .acquireWriter jobs writers _ acquired
  | appendPoint request =>
    simp only [Call.transact, appendPendingRecoveryPoint, peel, Option.filter_eq_some_iff] at done
    obtain ⟨_, _, lease, ⟨found, unreleased⟩, _, _, _, _, _, _, points, added, rfl⟩ := done
    exact .appendPoint lease points found (beq_iff_eq.mp unreleased) added
  | failJob leaseID outcome =>
    simp only [Call.transact, failBackupJob, peel, Option.filter_eq_some_iff] at done
    obtain ⟨lease, ⟨found, unreleased⟩, rfl⟩ := done
    exact .failJob lease found (beq_iff_eq.mp unreleased)
  | acquireReader request =>
    have acquired := acquireBackupReadLease_effect done
    obtain ⟨readers, _, rfl⟩ := acquired.appended
    exact .acquireReader readers acquired
  | releaseReader leaseID =>
    simp only [Call.transact, releaseBackupReadLease, peel] at done
    obtain ⟨_, _, rfl⟩ := done
    exact .releaseReader
  | appendVerification request =>
    simp only [Call.transact, appendLocalVerification, peel] at done
    obtain ⟨⟨point, status⟩, _, _, _, verifications, added, rfl⟩ := done
    exact .appendVerification _ verifications _ added
  | advanceLastGood request =>
    simp only [Call.transact, advanceUnderReadLease, advanceLocalLastGood, peel, Option.any_eq_true, checks] at done
    obtain ⟨_, ⟨lease, held, _, opened⟩, _, checked, lastGood, added, rfl⟩ := done
    exact .advanceLastGood lastGood ⟨lease, Table.mem_of_find? held, opened⟩ (checkLastGood_stored checked) added
  | putPolicy policy =>
    simp only [Call.transact, Backup.putPolicy, peel] at done
    obtain ⟨_, _, rfl⟩ := done
    exact .putPolicy
  | activateLocks request =>
    simp only [Call.transact, activateLocalRetentionLockCatalog, peel] at done
    obtain ⟨_, _, _, _, _, _, _, _, rfl⟩ := done
    exact .activateLocks
  | stage request =>
    simp only [Call.transact, stageLocalRetirement, peel] at done
    obtain ⟨_, _, selection, canonical, _, current, _, _, _, _, intents, added, rfl⟩ := done
    exact .stage selection intents canonical current added
  | claim request =>
    obtain ⟨intent, claimed⟩ := claimLocalRetirement_effect done
    obtain ⟨retirements, _, rfl⟩ := claimed.appended
    exact .claim intent retirements claimed
  | beginMutation request =>
    simp only [Call.transact, map_eq_ok] at done
    obtain ⟨⟨_, granted⟩, begun, rfl⟩ := done
    obtain ⟨_, attempts, _, _, ⟨_, _, rfl⟩ | ⟨_, outcomes, noted, rfl⟩⟩ := beginLocalMutation_effect begun
    · exact .beginMutation attempts backups.outcomes (.refl _)
    · exact .beginMutation attempts outcomes (Table.extends_of_insert? noted)
  | finishMutation request =>
    simp only [Call.transact, finishLocalMutation, peel] at done
    obtain ⟨_, _, _, _, _, _, _, _, done⟩ := done
    obtain ⟨outcomes, added, rfl⟩ := recordOutcome_effect done
    exact .finishMutation outcomes (Table.extends_of_insert? added)
  | beginCustody leaseID nonceDigest =>
    simp only [Call.transact, beginRetirementCustody, peel] at done
    obtain ⟨_, _, custody, _, rfl⟩ := done
    exact .beginCustody custody
  | finishCustody nonceDigest outcome =>
    simp only [Call.transact, finishRetirementCustody, peel] at done
    obtain ⟨_, _, rfl⟩ := done
    exact .finishCustody _
  | commit request =>
    obtain ⟨intent, committed⟩ := commitLocalRetirementSuccess_effect done
    obtain ⟨generations, _, rfl⟩ := committed.appended
    exact .commit intent generations committed
  | advanceRevision =>
    cases done
    exact .advanceRevision
  | startEpoch =>
    cases done
    exact .startEpoch

theorem Call.transact_retirements_eq {call : Call} (other : call.leases = false) (done : call.transact backups now = .ok next) :
    next.retirements = backups.retirements := by
  cases Call.transact_effect done with
  | claim | commit => cases other
  | _ => rfl

end Frame

end VskLabs.Backup

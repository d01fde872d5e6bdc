import VskLabs.Backup.Journal
import Mathlib.Data.Fintype.EquivFin

/-! One execution of the local retention adapter, and what its exits leave to the
leases that come after it. -/

namespace VskLabs.Backup
open Library

/-- What `backup.ForecastLocalRetirement` decides on a capacity; `none` is invalid. -/
structure Forecast where
  (admitNewStandard admitCritical : Bool)

def maxInt64 : Int := 9223372036854775807

def forecastLocalRetirement (targets : Nat) (capacity : Capacity) (retainedBytes expectedGrowthBytes repackScratchBytes : Int) :
    Option Forecast :=
  let used := capacity.totalBytes - capacity.availableBytes
  let projected := used + expectedGrowthBytes + repackScratchBytes
  let reserveLimit := capacity.totalBytes / 10 * 7 + capacity.totalBytes % 10 * 7 / 10
  let standardStop := capacity.totalBytes / 10 * 8 + capacity.totalBytes % 10 * 8 / 10
  if capacity.totalBytes ≤ 0 ∨ capacity.availableBytes < 0 ∨ capacity.availableBytes > capacity.totalBytes ∨
      retainedBytes < 0 ∨ capacity.quarantinedBytes < 0 ∨ expectedGrowthBytes < 0 ∨ repackScratchBytes < 0 ∨
      0 < targets ∧ repackScratchBytes = 0 then none
  else if retainedBytes > used ∨ capacity.quarantinedBytes > used - retainedBytes then none
  else if projected > maxInt64 ∨ projected > capacity.totalBytes then none
  else some ⟨decide (used < standardStop ∧ projected ≤ reserveLimit), decide (projected ≤ reserveLimit)⟩

/-- `inventoryBytes`, without overflow. -/
def inventoryBytes (objects : List ExpectedObject) : Option Int :=
  objects.foldlM (fun total object =>
    if object.bytes < 0 ∨ object.bytes > maxInt64 - total then none else some (total + object.bytes)) 0

def sameIDs (first second : List String) : Bool := byPoint id first == byPoint id second

inductive Mutation where
  | begin (now : Instant) (request : MutationRequest)
  | finish (request : OutcomeRequest)

def Mutation.perform (backups : Backups) : Mutation → Backups
  | .begin now request => (Call.beginMutation request).perform backups now
  | .finish request => (Call.finishMutation request).perform backups 0

structure ResticRun where
  mutations : List Mutation
  succeeded : Bool

/-- What the outside answers to one execution: the bound operation, the stored
draft, the custody process, restic and the clock. -/
structure Attempt where
  (operationBound declarationBound : Bool)
  intentID : String
  draft : Except Failure StageRequest
  (artifactDigest targetID : String)
  (stateRevision recoveryEpoch : Int)
  deadline : Option Instant
  policyMatches : Bool
  (leaseID planID planDigest : String)
  (claimAdmitted authorized : Bool)
  nonceDigest : String
  (custodyAdmitted custodyStarted custodyCloses : Bool)
  preSnapshots : Option (List String)
  preObjects : Option (List ExpectedObject)
  capacity : Option Capacity
  dryRun : Bool
  (forget prune : ResticRun)
  postSnapshots : Option (List String)
  postObjects : Option (List ExpectedObject)
  fullRead : Bool
  restored : Except Failure Unit
  generationDigest : String
  settlementAdmitted : Bool
  (checkedAt claimedAt settledAt : Instant)

namespace Attempt

variable (attempt : Attempt) (expectedInventoryDigest : List ExpectedObject → String)

/-- The intent of the bound selection is looked up, and staged from its draft when
there is none. -/
def stage (backups : Backups) : Except Failure Backups := do
  ensure attempt.operationBound (failed .prerequisiteBlocked "local-retention-binding")
  ensure attempt.declarationBound (failed .prerequisiteBlocked "local-retention-declaration")
  if (backups.intents.find? attempt.intentID).isSome then return backups
  let request ← attempt.draft
  stageLocalRetirement backups request

def check (backups : Backups) : Except Failure Intent := do
  let intent ← require (backups.intents.find? attempt.intentID) .unclassified
  let selection := intent.selection
  ensure (selection.expectedInventoryDigest == attempt.artifactDigest && selection.repositoryID == attempt.targetID &&
    selection.stateRevision == attempt.stateRevision && selection.recoveryEpoch == attempt.recoveryEpoch)
    (failed .planStale "local-retention-intent")
  ensure (attempt.deadline.any fun deadline => decide (attempt.checkedAt < deadline)) (failed .planStale "local-retention-deadline")
  ensure attempt.policyMatches (failed .prerequisiteBlocked "local-retention-custody-policy")
  return intent

def claimRequest : ClaimRequest :=
  ⟨attempt.intentID, attempt.leaseID, attempt.planID, attempt.planDigest, attempt.recoveryEpoch, attempt.deadline.getD 0,
    attempt.claimAdmitted, attempt.authorized⟩

/-- The snapshots, objects and capacity before the first mutation, and the dry run. -/
def inspect (selection : Selection) : Except Failure Int := do
  ensure (attempt.preSnapshots.any fun snapshots => sameIDs snapshots
    ((selection.survivors.map fun survivor => survivor.snapshotID) ++ selection.targets.map Target.snapshotID))
    (failed .planStale "local-retention-inventory")
  let objects ← require (attempt.preObjects.filter fun objects =>
    expectedInventoryDigest objects == selection.expectedInventoryDigest) (failed .planStale "local-retention-object-inventory")
  let bytes ← require (inventoryBytes objects) (failed .prerequisiteBlocked "local-retention-capacity")
  let capacity ← require attempt.capacity (failed .prerequisiteBlocked "local-retention-capacity")
  ensure ((forecastLocalRetirement selection.targets.length capacity bytes selection.capacityExpectedGrowthBytes
    selection.maxRepackBytes).any fun forecast => match selection.repositoryClass with
      | .standard => forecast.admitNewStandard
      | .critical => forecast.admitCritical) (failed .prerequisiteBlocked "local-retention-capacity")
  ensure attempt.dryRun (failed .executionFailed "local-retention-dry-run")
  return bytes

/-- `forget` and `prune` with the mutations that they journal. -/
def mutate (backups : Backups) : Backups × Except Failure Unit :=
  let forgotten := attempt.forget.mutations.foldl Mutation.perform backups
  if !attempt.forget.succeeded then (forgotten, .error (failed .recoveryRequired "local-retention-forget"))
  else
    let pruned := attempt.prune.mutations.foldl Mutation.perform forgotten
    if !attempt.prune.succeeded then (pruned, .error (failed .recoveryRequired "local-retention-prune")) else (pruned, .ok ())

def conclude (selection : Selection) (preBytes : Int) : Except Failure (List ExpectedObject) := do
  ensure (attempt.postSnapshots.any fun snapshots => sameIDs snapshots
    (selection.survivors.map fun survivor => survivor.snapshotID)) (failed .recoveryRequired "local-retention-post-inventory")
  let objects ← require attempt.postObjects (failed .recoveryRequired "local-retention-object-inventory")
  ensure ((inventoryBytes objects).any fun bytes => decide (bytes ≤ preBytes)) (failed .recoveryRequired "local-retention-reclaim")
  ensure attempt.fullRead (failed .recoveryRequired "local-retention-full-read")
  attempt.restored
  return objects

def settlement (selection : Selection) (objects : List ExpectedObject) : SettlementRequest :=
  ⟨attempt.intentID, attempt.leaseID, attempt.generationDigest, expectedInventoryDigest objects,
    selection.survivors.map fun survivor => survivor.pointID, objects, selection.recoveryEpoch, attempt.settlementAdmitted⟩

/-- `custody.Close` records the outcome of the custody attempt. -/
def close (backups : Backups) : Backups :=
  (Call.finishCustody attempt.nonceDigest (if attempt.custodyCloses then .succeeded else .uncertain)).perform backups 0

def abandon (backups : Backups) (failure : Failure) : Backups × Except Failure String :=
  (attempt.close backups,
    .error (if attempt.custodyCloses then failure else failed .recoveryRequired "local-retention-custody-close"))

def retire (claimed : Backups) (intent : Intent) : Backups × Except Failure String :=
  if !attempt.custodyAdmitted then (claimed, .error (failed .prerequisiteBlocked "local-retention-custody"))
  else
    let begun := (Call.beginCustody attempt.leaseID attempt.nonceDigest).perform claimed 0
    if !attempt.custodyStarted then
      ((Call.finishCustody attempt.nonceDigest .uncertain).perform begun 0,
        .error (failed .prerequisiteBlocked "local-retention-custody"))
    else match attempt.inspect expectedInventoryDigest intent.selection with
      | .error failure => attempt.abandon begun failure
      | .ok bytes =>
        match attempt.mutate begun with
        | (mutated, .error failure) => attempt.abandon mutated failure
        | (mutated, .ok ()) =>
          match attempt.conclude intent.selection bytes with
          | .error failure => attempt.abandon mutated failure
          | .ok objects =>
            let closed := attempt.close mutated
            if !attempt.custodyCloses then (closed, .error (failed .recoveryRequired "local-retention-custody-close"))
            else match commitLocalRetirementSuccess closed attempt.settledAt
                (attempt.settlement expectedInventoryDigest intent.selection objects) with
              | .error failure => (closed, .error failure)
              | .ok settled => (settled, .ok attempt.generationDigest)

/-- `ExecuteBoundWithCredentials`: the tables that it leaves and its result. -/
def executeBoundWithCredentials (backups : Backups) : Backups × Except Failure String :=
  match attempt.stage backups with
  | .error failure => (backups, .error failure)
  | .ok staged =>
    match attempt.check staged with
    | .error failure => (staged, .error failure)
    | .ok intent =>
      match claimLocalRetirement staged attempt.claimedAt attempt.claimRequest with
      | .error failure => (staged, .error failure)
      | .ok claimed => attempt.retire expectedInventoryDigest claimed intent

def claims (backups : Backups) : Bool :=
  match attempt.stage backups with
  | .error _ => false
  | .ok staged => (attempt.check staged).isOk && (claimLocalRetirement staged attempt.claimedAt attempt.claimRequest).isOk

end Attempt

/-! ### The lease that a failed execution leaves -/

variable {backups next final : Backups} {now : Instant} {attempt : Attempt}
  {expectedInventoryDigest : List ExpectedObject → String}

theorem perform_retirements {call : Call} (other : call.leases = false) : (call.perform backups now).retirements = backups.retirements :=
  call.perform_cases (fun next => next.retirements = backups.retirements) rfl
    fun _ => Call.transact_retirements_eq other

theorem mutations_retirements (mutations : List Mutation) :
    (mutations.foldl Mutation.perform backups).retirements = backups.retirements := by
  induction mutations generalizing backups with
  | nil => rfl
  | cons mutation rest ih =>
    rw [List.foldl_cons, ih]
    cases mutation with
    | begin now request => exact perform_retirements rfl
    | finish request => exact perform_retirements rfl

theorem mutate_retirements : (attempt.mutate backups).1.retirements = backups.retirements := by
  unfold Attempt.mutate
  split
  · exact mutations_retirements _
  · split
    · exact (mutations_retirements _).trans (mutations_retirements _)
    · exact (mutations_retirements _).trans (mutations_retirements _)

variable {failure : Failure} {intents : Table Intent.intentID}

theorem abandon_retirements {result : Except Failure String}
    (left : attempt.abandon backups failure = (final, result)) : final.retirements = backups.retirements := by
  cases left
  exact perform_retirements rfl

theorem retire_error {intent : Intent}
    (failed : attempt.retire expectedInventoryDigest backups intent = (final, .error failure)) :
    final.retirements = backups.retirements := by
  have begun : ((Call.beginCustody attempt.leaseID attempt.nonceDigest).perform backups 0).retirements = backups.retirements :=
    perform_retirements rfl
  unfold Attempt.retire at failed
  split at failed
  · cases failed
    rfl
  dsimp only at failed
  split at failed
  · cases failed
    exact (perform_retirements rfl).trans begun
  split at failed
  · exact (abandon_retirements failed).trans begun
  have mutated := @mutate_retirements ((Call.beginCustody attempt.leaseID attempt.nonceDigest).perform backups 0) attempt
  split at failed
  next equal =>
    rw [equal] at mutated
    exact (abandon_retirements failed).trans (mutated.trans begun)
  next equal =>
    rw [equal] at mutated
    split at failed
    · exact (abandon_retirements failed).trans (mutated.trans begun)
    split at failed
    · cases failed
      exact (perform_retirements rfl).trans (mutated.trans begun)
    · split at failed
      · cases failed
        exact (perform_retirements rfl).trans (mutated.trans begun)
      · cases failed

def Call.acquires : Call → Bool
  | .acquireWriter _ | .acquireReader _ | .claim _ => true
  | _ => false

def Call.accepted (backups : Backups) (now : Instant) (call : Call) : Prop := ∃ next, call.transact backups now = .ok next

def Unhindered (backups final : Backups) : Prop :=
  ∀ call : Call, call.acquires = true → ∀ now, call.accepted backups now → call.accepted final now

/-! ### A writer is accepted before the claim and refused after it -/

theorem exists_fresh (names : List String) : ∃ name, name ∉ names := by
  obtain ⟨name, fresh⟩ := Infinite.exists_notMem_finset names.toFinset
  exact ⟨name, fun member => fresh (List.mem_toFinset.mpr member)⟩

theorem writer_refused {request : WriterLeaseRequest} {lease : RetirementLease} (member : lease ∈ backups.retirements.rows)
    (opened : lease.open_ request.repositoryClass = true) : ¬ (Call.acquireWriter request).accepted backups now := by
  rintro ⟨next, done⟩
  have closed := (acquireBackupWriterLease_effect done).retirements lease member
  rw [opened] at closed
  cases closed

theorem insert?_of_fresh {κ ρ : Type} [DecidableEq κ] {key : ρ → κ} {table : Table key} {row : ρ}
    (fresh : table.find? (key row) = none) : ∃ after, table.insert? row = some after :=
  Option.isSome_iff_exists.mp (Table.insert?_isSome_iff.mpr fresh)

theorem writer_accepted {request : WriterLeaseRequest} (free : unleased backups request.repositoryClass = true)
    (admitted : request.admitted = true) (epoch : 0 ≤ request.recoveryEpoch) (job : backups.jobs.find? request.jobID = none)
    (lease : backups.writers.find? request.leaseID = none) : (Call.acquireWriter request).accepted backups now := by
  simp only [unleased, checks, List.any_eq_false, Bool.not_eq_true] at free
  obtain ⟨⟨writers, readers⟩, retirements⟩ := free
  have untouchedWriters : ∀ row ∈ backups.writers.rows, row.overdue request.repositoryClass (second now) = false := by
    intro row member
    have closed := writers row member
    rw [WriterLease.open_] at closed
    rw [WriterLease.overdue, closed, Bool.false_and]
  have untouchedReaders : ∀ row ∈ backups.readers.rows, row.overdue request.repositoryClass (second now) = false := by
    intro row member
    have closed := readers row member
    rw [ReadLease.open_] at closed
    rw [ReadLease.overdue, closed, Bool.false_and]
  obtain ⟨jobs, addedJob⟩ : ∃ jobs,
      (reclaimWriters backups request.repositoryClass (second now)).jobs.insert? request.job = some jobs := by
    apply insert?_of_fresh
    rw [reclaimWriters, Table.find?_modify]
    exact congrArg _ job
  obtain ⟨leases, addedLease⟩ : ∃ leases, backups.writers.insert? (request.lease (second now)) = some leases :=
    insert?_of_fresh lease
  have sameWriters : (reclaimReaders (reclaimWriters backups request.repositoryClass (second now)) request.repositoryClass
      (second now)).writers = backups.writers := by
    simp only [reclaimReaders, reclaimWriters, Table.modify_eq_self untouchedWriters]
  have sameReaders : (reclaimReaders (reclaimWriters backups request.repositoryClass (second now)) request.repositoryClass
      (second now)).readers = backups.readers := by
    simp only [reclaimReaders, reclaimWriters, Table.modify_eq_self untouchedReaders]
  simp only [Call.accepted, Call.transact, acquireBackupWriterLease, insertWriter, peel, checks, List.any_eq_false, Bool.not_eq_true]
  refine ⟨_, (), ⟨admitted, epoch⟩, (), ?_, (), retirements, jobs, addedJob, (), ?_, leases, ?_, rfl⟩
  · rw [sameReaders]
    exact readers
  · rw [sameWriters]
    exact writers
  · rw [sameWriters]
    exact addedLease

/-! ### Staging hinders nobody -/

theorem walkGenerations_grow (grown : backups.intents.Extends intents)
    {generations : List Generation} {count : Int} {prior : Option String} {retired : List String}
    {latest result : Option Successor} (done : walkGenerations backups generations count prior retired latest = .ok result) :
    walkGenerations { backups with intents } generations count prior retired latest = .ok result := by
  induction generations generalizing count prior retired latest with
  | nil => exact done
  | cons first rest ih =>
    simp only [walkGenerations, peel] at done ⊢
    obtain ⟨intent, staged, _, checked, done⟩ := done
    exact ⟨intent, grown.find? staged, (), checked, ih done⟩

theorem currentPointIDs_grow (grown : backups.intents.Extends intents)
    {repositoryClass : RepositoryClass} {recoveryEpoch : Int} {pointIDs : List String}
    (done : loadLocalRetirementCurrentPointIDs backups repositoryClass recoveryEpoch = .ok pointIDs) :
    loadLocalRetirementCurrentPointIDs { backups with intents } repositoryClass recoveryEpoch = .ok pointIDs := by
  simp only [loadLocalRetirementCurrentPointIDs, peel] at done ⊢
  obtain ⟨successor, walked, rest⟩ := done
  exact ⟨successor, walkGenerations_grow grown walked, rest⟩

/-- The proofs of the survivors are not kept among the intents. -/
theorem proveSurvivors_staging (backups : Backups) (selection : Selection) (survivors : List Survivor) :
    proveSurvivors { backups with intents } now selection survivors = proveSurvivors backups now selection survivors := by
  induction survivors with
  | nil => rfl
  | cons first rest ih =>
    simp only [proveSurvivors, ih]
    rfl

theorem unhindered_of_staging (grown : backups.intents.Extends intents) :
    Unhindered backups { backups with intents } := by
  intro call acquires now accepted
  cases call with
  | acquireWriter request =>
    simp only [Call.accepted, Call.transact, acquireBackupWriterLease, insertWriter, bind_eq_ok, require_eq_ok,
      pure_eq_ok] at accepted ⊢
    obtain ⟨_, _, admitted, _, readers, _, retirements, jobs, job, _, writers, leases, lease, _⟩ := accepted
    exact ⟨_, _, admitted, _, readers, _, retirements, jobs, job, _, writers, leases, lease, rfl⟩
  | acquireReader request =>
    simp only [Call.accepted, Call.transact, acquireBackupReadLease, insertReader, bind_eq_ok, require_eq_ok,
      pure_eq_ok] at accepted ⊢
    obtain ⟨_, _, admitted, _, current, _, point, _, writers, _, retirements, _, readers, leases, lease, _⟩ := accepted
    exact ⟨_, _, admitted, _, current, _, point, _, writers, _, retirements, _, readers, leases, lease, rfl⟩
  | claim request =>
    simp only [Call.accepted, Call.transact, claimLocalRetirement, bind_eq_ok, require_eq_ok, pure_eq_ok,
      mapError_eq_ok] at accepted ⊢
    obtain ⟨_, _, admitted, _, early, intent, staged, _, plan, _, current, locks, locked, _, authorized, _, free, pointIDs,
      loaded, rest⟩ := accepted
    obtain ⟨_, covers, _, capacity, _, survivors, _, targets, _, protected_, _, lastGood, retirements, added, _⟩ := rest
    exact ⟨_, _, admitted, _, early, intent, grown.find? staged, _, plan, _, current, locks, locked, _, authorized, _, free,
      pointIDs, currentPointIDs_grow grown loaded, _, covers, _, capacity, _,
      (proveSurvivors_staging backups intent.selection _).trans survivors, _, targets, _, protected_, _, lastGood,
      retirements, added, rfl⟩
  | _ => cases acquires

theorem stage_ok {staged : Backups} (done : attempt.stage backups = .ok staged) :
    ∃ intents, backups.intents.Extends intents ∧ staged = { backups with intents } := by
  simp only [Attempt.stage, peel] at done
  obtain ⟨_, _, _, _, done⟩ := done
  split at done
  · cases done
    exact ⟨backups.intents, .refl _, rfl⟩
  · simp only [peel] at done
    obtain ⟨request, _, done⟩ := done
    have effect : Effect backups 0 (.stage request) staged := Call.transact_effect done
    cases effect with | stage selection intents canonical current added =>
    exact ⟨intents, Table.extends_of_insert? added, rfl⟩

theorem hindered_of_claim {staged claimed : Backups} (same : staged = { backups with intents })
    (done : claimLocalRetirement staged now attempt.claimRequest = .ok claimed) (left : final.retirements = claimed.retirements) :
    ¬ Unhindered backups final := by
  obtain ⟨intent, effect⟩ := claimLocalRetirement_effect done
  obtain ⟨retirements, added, rfl⟩ := effect.appended
  obtain ⟨jobID, freshJob⟩ := exists_fresh (backups.jobs.rows.map Job.jobID)
  obtain ⟨leaseID, freshLease⟩ := exists_fresh (backups.writers.rows.map WriterLease.leaseID)
  intro unhindered
  let request : WriterLeaseRequest :=
    ⟨leaseID, jobID, "", "", "", "", "", intent.selection.repositoryClass, 0, 0, 0, true⟩
  have free := effect.unleased
  rw [same] at free
  have before : (Call.acquireWriter request).accepted backups now := by
    apply writer_accepted free rfl le_rfl
    · exact Table.find?_eq_none_iff.mpr fun row member named => freshJob (List.mem_map.mpr ⟨row, member, named⟩)
    · exact Table.find?_eq_none_iff.mpr fun row member named => freshLease (List.mem_map.mpr ⟨row, member, named⟩)
  have member : attempt.claimRequest.lease intent.selection (second now) ∈ final.retirements.rows := by
    rw [left]
    exact (Table.mem_insert? added).mpr (.inr rfl)
  exact writer_refused member (by simp [RetirementLease.open_, ClaimRequest.lease, request]) (unhindered _ rfl now before)

theorem execution_unhindered_iff
    (ends : attempt.executeBoundWithCredentials expectedInventoryDigest backups = (final, .error failure)) :
    Unhindered backups final ↔ attempt.claims backups = false := by
  unfold Attempt.executeBoundWithCredentials at ends
  unfold Attempt.claims
  cases prepared : attempt.stage backups with
  | error refusal =>
    simp only [prepared] at ends ⊢
    cases ends
    exact iff_of_true (fun _ _ _ accepted => accepted) trivial
  | ok staged =>
    obtain ⟨intents, grown, same⟩ := stage_ok prepared
    have harmless : Unhindered backups staged := same ▸ unhindered_of_staging grown
    simp only [prepared] at ends ⊢
    cases checked : attempt.check staged with
    | error refusal =>
      simp only [checked] at ends ⊢
      cases ends
      exact iff_of_true harmless rfl
    | ok intent =>
      simp only [checked] at ends ⊢
      cases claimed : claimLocalRetirement staged attempt.claimedAt attempt.claimRequest with
      | error refusal =>
        simp only [claimed] at ends ⊢
        cases ends
        exact iff_of_true harmless rfl
      | ok tables =>
        simp only [claimed] at ends ⊢
        exact iff_of_false (hindered_of_claim same claimed (retire_error ends)) nofun

/-! ### The settlement -/

/-- A well-formed settlement of an open lease: the journal is resolved, custody
succeeded and the survivors match. -/
structure Settleable (backups : Backups) (request : SettlementRequest) (lease : RetirementLease) : Prop where
  admitted : request.admitted = true
  objects : (request.successorObjects.map fun object => (object.type, object.name)).Nodup
  held : backups.retirements.find? request.leaseID = some lease
  opened : lease.releasedAt = none
  intent : ∃ intent, lease.intentID = request.intentID ∧ backups.intents.find? request.intentID = some intent ∧
    intent.selection.recoveryEpoch = request.recoveryEpoch ∧ request.matchesSurvivors intent.selection = true
  journal : (journalOf backups request.leaseID).all (settled backups) = true
  custody : custodySucceeded backups request.leaseID = true
  fresh : backups.generations.find? request.generationDigest = none

theorem settlement_accepted_iff {request : SettlementRequest} {lease : RetirementLease}
    (settleable : Settleable backups request lease) :
    (Call.commit request).accepted backups now ↔ lease.acquiredAt < second now := by
  obtain ⟨intent, same, staged, epoch, survivors⟩ := settleable.intent
  have named : lease.leaseID = request.leaseID := Table.find?_key settleable.held
  constructor
  · rintro ⟨next, done⟩
    simp only [Call.transact, commitLocalRetirementSuccess, releaseRetirement, peel, Option.filter_eq_some_iff,
      List.all_eq_true, Bool.or_eq_true, decide_eq_true_eq] at done
    obtain ⟨_, _, _, _, other, ⟨found, _⟩, _, _, _, _, _, _, _, _, _, _, _, _, _, later, _⟩ := done
    rw [settleable.held] at found
    cases found
    simpa [settleable.opened] using later lease (Table.mem_of_find? settleable.held)
  · intro later
    obtain ⟨generations, added⟩ : ∃ generations, backups.generations.insert? (request.generation intent.selection
        (generationsOf backups intent.selection.repositoryClass intent.selection.recoveryEpoch).getLast? (second now)) =
          some generations := insert?_of_fresh settleable.fresh
    simp only [Call.accepted, Call.transact, commitLocalRetirementSuccess, releaseRetirement, peel, Option.filter_eq_some_iff,
      Bool.and_eq_true, beq_iff_eq, decide_eq_true_eq]
    refine ⟨_, (), settleable.admitted, (), settleable.objects, lease, ⟨settleable.held, same, settleable.opened⟩, intent, staged,
      (), epoch, (), survivors, (), settleable.journal, (), settleable.custody, generations, added, (), ?_, rfl⟩
    rw [List.all_eq_true]
    intro row member
    by_cases own : row.leaseID = lease.leaseID
    · have equal : row = lease :=
        List.inj_on_of_nodup_map backups.retirements.distinct member (Table.mem_of_find? settleable.held) own
      simp [equal, later]
    · simp [own]

/-- A failed execution of the adapter hinders later leases exactly if its claim
passed, and a settlement succeeds exactly after the second of the claim. -/
theorem retirement_hinders_iff (backups : Backups) :
    (∀ (attempt : Attempt) (expectedInventoryDigest : List ExpectedObject → String) (final : Backups) (failure : Failure),
      attempt.executeBoundWithCredentials expectedInventoryDigest backups = (final, .error failure) →
        (Unhindered backups final ↔ attempt.claims backups = false)) ∧
    ∀ (now : Instant) (request : SettlementRequest) (lease : RetirementLease),
      Settleable backups request lease → ((Call.commit request).accepted backups now ↔ lease.acquiredAt < second now) :=
  ⟨fun _ _ _ _ ends => execution_unhindered_iff ends, fun _ _ _ settleable => settlement_accepted_iff settleable⟩

section Example

def unclaimed : Backups := (after 0 retiring.dropLast).backups

def resolved : Backups :=
  (after 0 (retiring ++ [.call 0 (.beginMutation deletion),
    .call 0 (.finishMutation ⟨"mutation", "lease", .quarantined, some "snapshots/snapshot-1", true⟩),
    .call 0 (.beginCustody "lease" "nonce"), .call 0 (.finishCustody "nonce" .succeeded)])).backups

def unstarted (policyMatches : Bool) : Attempt :=
  ⟨true, true, "intent", .error .unclassified, "inventory", "local-standard", 1, 0, some 60000000000, policyMatches, "lease",
    "plan", "plan-digest", true, true, "nonce", true, false, true, none, none, none, false, ⟨[], false⟩, ⟨[], false⟩, none, none,
    false, .ok (), "generation", true, 0, 0, 0⟩

def latecomer : Call := .acquireWriter ⟨"writer-3", "job-3", "policy", "policy-digest", "run", "step", "local-standard", .standard, 1,
  0, 900000000000000000, true⟩

def settlingRequest : SettlementRequest :=
  ⟨"intent", "lease", "generation", "snapshot-2", ["point-2"], [⟨.snapshots, "snapshot-2", 10, "digest-2"⟩], 0, true⟩

def settlingLease : RetirementLease := ⟨"lease", "intent", .standard, 0, 60, 0, none⟩

theorem settling_settleable : Settleable resolved settlingRequest settlingLease where
  admitted := rfl
  objects := by decide
  held := by decide +kernel
  opened := rfl
  intent := by
    have staged : (resolved.intents.find? "intent").any (fun intent => intent.selection.recoveryEpoch == 0 &&
        settlingRequest.matchesSurvivors intent.selection) = true := by decide +kernel
    simp only [finds, checks] at staged
    obtain ⟨intent, found, epoch, survivors⟩ := staged
    exact ⟨intent, rfl, found, epoch, survivors⟩
  journal := by decide +kernel
  custody := by decide +kernel
  fresh := by decide +kernel

theorem refused_policy_hinders_nobody :
    Unhindered unclaimed ((unstarted false).executeBoundWithCredentials (fun _ => "inventory") unclaimed).1 ∧
      (Call.commit settlingRequest).accepted resolved 1000000000 := by
  refine ⟨?_, ((retirement_hinders_iff _).2 1000000000 _ _ settling_settleable).mpr (by decide +kernel)⟩
  have fails : ((unstarted false).executeBoundWithCredentials (fun _ => "inventory") unclaimed).2.isOk = false := by
    decide +kernel
  cases ends : (unstarted false).executeBoundWithCredentials (fun _ => "inventory") unclaimed with
  | mk final result =>
    cases result with
    | error failure => exact ((retirement_hinders_iff _).1 _ _ _ _ ends).mpr (by decide +kernel)
    | ok digest =>
      rw [ends] at fails
      cases fails

/-- Custody does not start and no mutation is begun; a year later a writer is still
refused. A settlement in the second of the claim is refused as well. -/
theorem failed_custody_hinders_writers :
    (latecomer.transact unclaimed 0).isOk = true ∧
    ((unstarted true).executeBoundWithCredentials (fun _ => "inventory") unclaimed).2.isOk = false ∧
    ((unstarted true).executeBoundWithCredentials (fun _ => "inventory") unclaimed).1.attempts.rows = [] ∧
    (latecomer.transact ((unstarted true).executeBoundWithCredentials (fun _ => "inventory") unclaimed).1 0).isOk = false ∧
    (latecomer.transact ((unstarted true).executeBoundWithCredentials (fun _ => "inventory") unclaimed).1
      31536000000000000).isOk = false ∧
    ((Call.commit settlingRequest).transact resolved 0).isOk = false ∧
    ((Call.commit settlingRequest).transact resolved 999999999).isOk = false ∧
    ((Call.commit settlingRequest).transact resolved 1000000000).isOk = true := by
  decide +kernel

end Example

end VskLabs.Backup

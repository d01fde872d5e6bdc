import VskLabs.Credential.Lineage

/-! Every change keeps the tables sound: retention under its condition, and each of
the five actions by continuing the history of its reference. -/

namespace VskLabs.Credential
open Library

variable {vault after : Vault} {row : VersionRow} {plan : PlanRow} {binding : LifecycleBinding}
  {referenceID material : String} {recoveryEpoch : Int}

/-! ### Changes that append no version -/

def PlansKept (before after : Vault) : Prop :=
  ∀ planID plan, before.plans.find? planID = some plan → after.plans.find? planID = some plan

theorem Written.mono (written : Written vault row plan binding) (plans : PlansKept vault after) :
    Written after row plan binding :=
  { written with found := plans _ _ written.found }

theorem Sound.priorOf_mono (sound : Sound vault) (plans : PlansKept vault after) (member : row ∈ vault.versions) :
    priorOf after row = priorOf vault row := by
  obtain ⟨plan, binding, written⟩ := sound.written row member
  rw [written.priorOf_eq, (written.mono plans).priorOf_eq]

theorem Sound.same_versions (sound : Sound vault) (versions : after.versions = vault.versions)
    (plans : PlansKept vault after) (seals : ∀ plan ∈ after.plans.rows, SealsOperation plan) (steps : StepsPlanned after)
    (revision : vault.stateRevision ≤ after.stateRevision) (epoch : vault.recoveryEpoch ≤ after.recoveryEpoch)
    (kept : ∀ row ∈ vault.versions, ∀ prior, priorOf vault row = some prior →
      statuses (rowsOf vault row.reference.referenceID row.reference.recoveryEpoch) prior = [.staged, .active] →
      (vault.steps.find? row.stepID).isSome = true → (after.steps.find? row.stepID).isSome = true) :
    Sound after where
  steps := steps
  plans := seals
  written row member := by
    obtain ⟨plan, binding, written⟩ := sound.written row (versions ▸ member)
    exact ⟨plan, binding, written.mono plans⟩
  ordered := versions ▸ sound.ordered
  bounded row member := by
    have before := sound.bounded row (versions ▸ member)
    exact ⟨before.1.trans revision, before.2.trans epoch⟩
  kept row member prior rotated active := by
    rw [versions] at member
    rw [sound.priorOf_mono plans member] at rotated
    simp only [rowsOf, versions] at active
    exact kept row member prior rotated active (sound.kept row member prior rotated active)
  history referenceID recoveryEpoch := by
    have rows : rowsOf after referenceID recoveryEpoch = rowsOf vault referenceID recoveryEpoch := by
      simp only [rowsOf, versions]
    rw [rows]
    exact (sound.history referenceID recoveryEpoch).congr fun row member =>
      sound.priorOf_mono plans (mem_rowsOf.mp member).1

theorem Sound.same_plans (sound : Sound vault) (versions : after.versions = vault.versions)
    (plans : after.plans = vault.plans) (steps : StepsPlanned after)
    (revision : vault.stateRevision ≤ after.stateRevision) (epoch : vault.recoveryEpoch ≤ after.recoveryEpoch)
    (kept : ∀ stepID, (vault.steps.find? stepID).isSome = true → (after.steps.find? stepID).isSome = true) :
    Sound after :=
  sound.same_versions versions (fun _ _ found => plans ▸ found) (plans ▸ sound.plans) steps revision epoch
    fun row _ _ _ _ => kept row.stepID

structure Grows (before after : Vault) : Prop where
  versions : before.versions <+: after.versions
  plans : PlansKept before after

theorem Grows.same (versions : after.versions = vault.versions) (plans : PlansKept vault after) : Grows vault after :=
  ⟨versions ▸ List.prefix_rfl, plans⟩

theorem Grows.refl (vault : Vault) : Grows vault vault := .same rfl fun _ _ found => found

theorem Sound.commitPlan (sound : Sound vault) (done : Credential.commitPlan vault plan = .ok after) :
    Sound after ∧ Grows vault after := by
  simp only [Credential.commitPlan, peel] at done
  obtain ⟨_, _, _, sealing, plans, added, rfl⟩ := done
  obtain ⟨free, rows⟩ := Table.insert?_eq_some added
  have kept : PlansKept vault { vault with plans, stateRevision := vault.stateRevision + 1 } := by
    intro planID stored found
    have other : plan.planID ≠ planID := by
      rintro rfl
      rw [free] at found
      cases found
    simp only [Table.find?_insert? added, if_neg other, found]
  refine ⟨sound.same_versions rfl kept ?_ ?_ (Int.le_add_one le_rfl) le_rfl fun _ _ _ _ _ found => found, .same rfl kept⟩
  · intro stored member binding sealed
    rw [rows, List.mem_append, List.mem_singleton] at member
    rcases member with old | rfl
    · exact sound.plans stored old binding sealed
    · rw [sealed] at sealing
      simp only [Option.all_some, checks] at sealing
      obtain ⟨operation, single⟩ := List.length_eq_one_iff.mp sealing.1
      obtain ⟨⟨⟨⟨named, adapter⟩, target⟩, input⟩, artifact⟩ := sealing.2 operation (by simp [single])
      exact ⟨operation, single, named, adapter, target, input, artifact⟩
  · intro step member
    obtain ⟨owner, found, inside⟩ := sound.steps step member
    exact ⟨owner, kept _ _ found, inside⟩

theorem insertSteps_spec {runID : RunID} {operations : List PlanOperation} {steps final : Table StepRow.stepID}
    (done : insertSteps runID steps operations = some final) :
    (∀ step ∈ final.rows, step ∈ steps.rows ∨ step.stepID.runID = runID ∧ step.operation ∈ operations) ∧
      ∀ stepID, (steps.find? stepID).isSome = true → (final.find? stepID).isSome = true := by
  induction operations generalizing steps with
  | nil =>
    cases done
    exact ⟨fun step member => .inl member, fun _ found => found⟩
  | cons operation rest ih =>
    rw [insertSteps, Option.bind_eq_some_iff] at done
    obtain ⟨middle, added, done⟩ := done
    obtain ⟨only, kept⟩ := ih done
    refine ⟨?_, ?_⟩
    · intro step member
      rcases only step member with old | ⟨own, inside⟩
      · rcases (Table.mem_insert? added).mp old with old | rfl
        · exact .inl old
        · exact .inr ⟨rfl, .head _⟩
      · exact .inr ⟨own, .tail _ inside⟩
    · intro stepID found
      apply kept
      rw [Table.find?_insert? added]
      split
      · rfl
      · exact found

theorem Sound.createRun (sound : Sound vault) {runID : RunID} {acknowledged : Bool} {now : Time}
    (done : Credential.createRun vault runID acknowledged now = .ok after) :
    Sound after ∧ Grows vault after := by
  simp only [Credential.createRun, peel] at done
  obtain ⟨plan, found, runs, _, steps, added, rfl⟩ := done
  obtain ⟨only, kept⟩ := insertSteps_spec added
  refine ⟨sound.same_plans rfl rfl ?_ le_rfl le_rfl kept, .same rfl fun _ _ found => found⟩
  intro step member
  rcases only step member with old | ⟨own, inside⟩
  · exact sound.steps step old
  · exact ⟨plan, by rw [own]; exact found, inside⟩

/-- Retention may delete the run of a rotation only once the version that was
rotated away is no longer the latest active row of its material. -/
def spares (vault : Vault) : Change → Prop
  | .prune now => ∀ row ∈ vault.versions, ∀ prior ∈ priorOf vault row, deletesRun vault now row.runID = true →
      ∀ latest ∈ latestOf (epochRows vault row.reference.referenceID row.reference.recoveryEpoch) prior,
        latest.reference.status ≠ .active
  | _ => True

theorem Sound.prune (sound : Sound vault) {now : Time} (spared : spares vault (.prune now))
    (done : pruneRunHistory vault now = .ok after) :
    Sound after ∧ Grows vault after := by
  simp only [pruneRunHistory, peel] at done
  obtain ⟨_, _, rfl⟩ := done
  refine ⟨sound.same_versions rfl (fun _ _ found => found) sound.plans ?_ le_rfl le_rfl ?_, .same rfl fun _ _ found => found⟩
  · intro step member
    exact sound.steps step (Table.mem_delete.mp member).1
  · intro row member prior rotated active found
    obtain ⟨step, stored⟩ := Option.isSome_iff_exists.mp found
    obtain ⟨_, _, written⟩ := sound.written row member
    have stays : deletesRun vault now step.stepID.runID = false := by
      rw [Table.find?_key stored, written.step, Bool.eq_false_iff]
      intro deleted
      cases latest : latestOf (rowsOf vault row.reference.referenceID row.reference.recoveryEpoch) prior with
      | none =>
        rw [latestOf_eq_none latest] at active
        cases active
      | some last =>
        have status := latestOf_status latest
        rw [active] at status
        apply spared row member prior rotated deleted last
        · rw [sound.epochRows_eq]
          exact latest
        · simpa using status.symm
    rw [Table.find?_delete, stored, Option.filter_some_pos (by simp [stays])]
    rfl

/-! ### Applying a lifecycle action -/

def ApplyRequest.version (request : ApplyRequest) : VersionRow :=
  ⟨request.versionID, request.reference, request.planID, request.planDigest, request.runID, request.stepID⟩

structure Applied (vault : Vault) (request : ApplyRequest) (after : Vault) : Prop where
  allowed : allowsAction vault request = .ok ()
  appended : after = { vault with versions := vault.versions ++ [request.version], stateRevision := vault.stateRevision + 1 }
  revision : request.reference.stateRevision = vault.stateRevision + 1
  epoch : request.reference.recoveryEpoch = vault.recoveryEpoch ∧ request.binding.recoveryEpoch = vault.recoveryEpoch
  same : request.reference.referenceID = request.binding.referenceID ∧
    request.reference.materialVersion = request.binding.materialVersion
  stored : (vault.steps.find? request.stepID).isSome = true
  written : (request.binding.action = .rotate →
      request.reference.status = .active ∧ request.binding.priorMaterialVersion.isSome = true) →
    ∃ plan, Written vault request.version plan request.binding

theorem Sound.of_apply (sound : Sound vault) {request : ApplyRequest}
    (done : applyCredentialLifecycle vault request = .ok after) : Applied vault request after := by
  simp only [applyCredentialLifecycle, applyCredentialVersion, peel, checks] at done
  obtain ⟨_, ⟨⟨⟨⟨⟨⟨reference, target⟩, resolver⟩, material⟩, fingerprint⟩, epoch⟩, expected⟩, _, allowed, _,
    ⟨⟨⟨_, revision⟩, _⟩, _⟩, plan, found, _, ⟨⟨⟨⟨digest, planned⟩, _⟩, _⟩, central⟩, _, ⟨current, now⟩, _, exact, _, _, _, _,
    _, sealing, rfl⟩ := done
  simp only [exactLifecycleBinding, found, Option.any_some, checks] at sealing
  obtain ⟨⟨⟨lifecycle, own⟩, sameEpoch⟩, _⟩ := sealing
  simp only [exactStep, checks] at exact
  obtain ⟨⟨⟨⟨⟨_, run⟩, _⟩, step⟩, typed⟩, _⟩ := exact
  obtain ⟨joined, stored, facts⟩ := Option.any_eq_true _ _ |>.mp typed
  simp only [checks] at facts
  refine ⟨allowed, rfl, ?_, ?_, ⟨reference, material⟩, by rw [stored]; rfl, ?_⟩
  · rw [revision, current]
  · rw [epoch, now, expected]
    exact ⟨rfl, rfl⟩
  · intro rotated
    obtain ⟨owner, located, inside⟩ := sound.steps joined (Table.mem_of_find? stored)
    rw [Table.find?_key stored, step, run, found] at located
    cases located
    have same : joined.operation.operationType = request.binding.action.operationType := by tauto
    refine ⟨plan, found, digest, central, lifecycle, ⟨joined.operation, inside, same⟩, step, run,
      ⟨own.symm, sameEpoch.symm⟩, ?_, epoch.symm, reference.symm, target.symm, resolver.symm, material.symm,
      fingerprint.symm, rotated⟩
    rw [← own, planned]
    exact revision.symm

theorem rowsOf_append (vault : Vault) (row : VersionRow) (revision : Int) (referenceID : String) (recoveryEpoch : Int) :
    rowsOf { vault with versions := vault.versions ++ [row], stateRevision := revision } referenceID recoveryEpoch =
      rowsOf vault referenceID recoveryEpoch ++ if inEpoch referenceID recoveryEpoch row then [row] else [] := by
  simp only [rowsOf, List.filter_append, List.filter_cons, List.filter_nil]

theorem Sound.append (sound : Sound vault) {request : ApplyRequest} (applied : Applied vault request after)
    (rotated : request.binding.action = .rotate →
      request.reference.status = .active ∧ request.binding.priorMaterialVersion.isSome = true)
    (history : History (priorOf vault) (rowsOf vault request.binding.referenceID vault.recoveryEpoch ++ [request.version])) :
    Sound after := by
  obtain rfl := applied.appended
  refine ⟨sound.steps, sound.plans, ?_, ?_, ?_, ?_, ?_⟩
  · intro row member
    rcases List.mem_append.mp member with old | new
    · obtain ⟨plan, binding, written⟩ := sound.written row old
      exact ⟨plan, binding, written.mono fun _ _ found => found⟩
    · obtain ⟨plan, written⟩ := applied.written rotated
      obtain rfl := List.mem_singleton.mp new
      exact ⟨plan, request.binding, written.mono fun _ _ found => found⟩
  · refine List.pairwise_append.mpr ⟨sound.ordered, List.pairwise_singleton _ _, ?_⟩
    intro first old second new
    rw [List.mem_singleton.mp new]
    have before := sound.bounded first old
    exact ⟨by rw [ApplyRequest.version, applied.revision]; exact Int.lt_add_one_of_le before.1,
      by rw [ApplyRequest.version, applied.epoch.1]; exact before.2⟩
  · intro row member
    rcases List.mem_append.mp member with old | new
    · exact ⟨Int.le_add_one (sound.bounded row old).1, (sound.bounded row old).2⟩
    · obtain rfl := List.mem_singleton.mp new
      exact ⟨applied.revision.le, applied.epoch.1.le⟩
  · intro row member prior found active
    rcases List.mem_append.mp member with old | new
    · -- the prior was active already, so the new row is not the one that activated it
      apply sound.kept row old prior found
      have was := (sound.history row.reference.referenceID row.reference.recoveryEpoch).superseded row
        (mem_rowsOf.mpr ⟨old, rfl, rfl⟩) prior found
      rw [rowsOf_append] at active
      split at active
      · by_cases same : request.version.reference.materialVersion = prior
        · rw [statuses_append_self same] at active
          have shape : statuses _ prior ++ [_] = [VersionStatus.staged] ++ [.active] := active
          rw [(List.append_inj' shape rfl).1] at was
          simp at was
        · rwa [statuses_append_other same] at active
      · rwa [List.append_nil] at active
    · obtain rfl := List.mem_singleton.mp new
      exact applied.stored
  · intro referenceID recoveryEpoch
    rw [rowsOf_append]
    split
    next inside =>
      simp only [inEpoch, ApplyRequest.version, checks] at inside
      rw [← inside.1, ← inside.2, applied.same.1, applied.epoch.1]
      exact history
    next =>
      rw [List.append_nil]
      exact sound.history referenceID recoveryEpoch

/-! ### What the transition checks say -/

theorem Sound.sorted_eq (sound : Sound vault) :
    (vault.versions.filter fun row => row.reference.referenceID == referenceID).insertionSort earlier =
      vault.versions.filter fun row => row.reference.referenceID == referenceID := by
  apply List.Pairwise.insertionSort_eq
  exact (sound.ordered.imp fun before => Or.inl before.1).filter _

theorem Sound.last_epoch (sound : Sound vault) {rows : List VersionRow} (part : rows.Sublist vault.versions)
    {last : VersionRow} (found : rows.getLast? = some last) (row : VersionRow) (member : row ∈ rows) :
    row.reference.recoveryEpoch ≤ last.reference.recoveryEpoch := by
  have ordered := sound.ordered.sublist part
  obtain ⟨init, rfl⟩ := List.getLast?_eq_some_iff.mp found
  rw [List.mem_append, List.mem_singleton] at member
  rcases member with old | rfl
  · exact ((List.pairwise_append.mp ordered).2.2 row old last (.head _)).2
  · exact le_rfl

theorem Sound.current_cases (sound : Sound vault) {current : Option Reference}
    (read : orNone (getCredentialVersion vault referenceID material) = .ok current) :
    (statuses (rowsOf vault referenceID vault.recoveryEpoch) material = [] ∧
        ∀ reference ∈ current, reference.recoveryEpoch ≠ vault.recoveryEpoch) ∨
      ∃ row, current = some row.reference ∧ row.reference.recoveryEpoch = vault.recoveryEpoch ∧
        latestOf (rowsOf vault referenceID vault.recoveryEpoch) material = some row := by
  have split : (rowsOf vault referenceID vault.recoveryEpoch).filter
      (fun row => row.reference.materialVersion == material) =
      ((vault.versions.filter fun row => row.reference.referenceID == referenceID).filter
        fun row => row.reference.materialVersion == material).filter
          fun row => row.reference.recoveryEpoch == vault.recoveryEpoch := by
    simp only [rowsOf, inEpoch, List.filter_filter]
    congr 1
    funext row
    ac_rfl
  have part : ((vault.versions.filter fun row => row.reference.referenceID == referenceID).filter
      fun row => row.reference.materialVersion == material).Sublist vault.versions :=
    List.filter_sublist.trans List.filter_sublist
  unfold getCredentialVersion at read
  rw [sound.sorted_eq] at read
  unfold latestOf at read ⊢
  dsimp only at read
  unfold statuses
  rw [split]
  revert read part
  generalize (vault.versions.filter fun row => row.reference.referenceID == referenceID).filter
    (fun row => row.reference.materialVersion == material) = rows
  intro read part
  cases found : rows.getLast? with
  | none =>
    rw [found] at read
    cases read
    rw [List.getLast?_eq_none_iff.mp found]
    exact .inl ⟨rfl, by simp⟩
  | some row =>
    rw [found] at read
    cases read
    by_cases running : row.reference.recoveryEpoch = vault.recoveryEpoch
    · refine .inr ⟨row, rfl, running, ?_⟩
      obtain ⟨init, rfl⟩ := List.getLast?_eq_some_iff.mp found
      simp [List.filter_append, running]
    · refine .inl ⟨?_, by simpa using running⟩
      rw [List.map_eq_nil_iff, List.filter_eq_nil_iff]
      intro other member same
      have most := sound.last_epoch part found other member
      have least := (sound.bounded row (part.mem (List.mem_of_getLast? found))).2
      rw [beq_iff_eq.mp same] at most
      exact running (le_antisymm least most)

theorem Sound.current_path (sound : Sound vault) {current : Option Reference} {holds : Reference → Bool}
    (read : orNone (getCredentialVersion vault referenceID material) = .ok current) (present : current.any holds = true)
    (running : ∀ reference, holds reference = true → reference.recoveryEpoch = vault.recoveryEpoch) :
    ∃ reference, holds reference = true ∧ reference.status ≠ .unavailable ∧
      statuses (rowsOf vault referenceID vault.recoveryEpoch) material = reference.status.path := by
  obtain ⟨reference, rfl, held⟩ := (Option.any_eq_true _ _).mp present
  rcases sound.current_cases read with ⟨_, elsewhere⟩ | ⟨row, same, _, latest⟩
  · exact absurd (running reference held) (elsewhere reference rfl)
  · cases same
    exact ⟨_, held, (sound.history referenceID vault.recoveryEpoch).path_eq latest⟩

theorem Sound.none_active (sound : Sound vault)
    (read : orNone (getActiveVersion vault referenceID recoveryEpoch) = .ok none) (material : String) :
    ¬ Live (priorOf vault) (rowsOf vault referenceID recoveryEpoch) material := by
  rcases sound.active_cases referenceID recoveryEpoch with ⟨_, none_⟩ | ⟨row, found, _⟩
  · exact none_ material
  · rw [found] at read
    cases read

theorem Sound.some_active (sound : Sound vault) {active : Reference}
    (read : orNone (getActiveVersion vault referenceID recoveryEpoch) = .ok (some active)) :
    Live (priorOf vault) (rowsOf vault referenceID recoveryEpoch) active.materialVersion := by
  rcases sound.active_cases referenceID recoveryEpoch with ⟨missing, _⟩ | ⟨row, found, _, live⟩
  · rw [missing] at read
    simp [orNone, failed, Failure.code] at read
  · rw [found] at read
    cases read
    exact live

/-! ### The five actions -/

section Actions

variable {request : ApplyRequest}

theorem Applied.prior_none (applied : Applied vault request after) (other : request.binding.action ≠ .rotate) :
    priorOf vault request.version = none := by
  obtain ⟨plan, written⟩ := applied.written fun rotate => absurd rotate other
  rw [written.priorOf_eq, if_neg other]

theorem Sound.apply_staged (sound : Sound vault) (applied : Applied vault request after)
    (other : request.binding.action ≠ .rotate) (staged : request.reference.status = .staged)
    (first : statuses (rowsOf vault request.binding.referenceID vault.recoveryEpoch) request.binding.materialVersion = []) :
    Sound after :=
  sound.append applied (fun rotate => absurd rotate other)
    ((sound.history _ _).settle (by simp [ApplyRequest.version, applied.same.2, first, staged]) (applied.prior_none other))

theorem Sound.apply_stage (sound : Sound vault) (applied : Applied vault request after)
    (action : request.binding.action = .stage) : Sound after := by
  have allowed := applied.allowed
  simp only [allowsAction, action, peel, checks] at allowed
  obtain ⟨current, read, _, ⟨⟨staged, _⟩, _⟩, absent⟩ := allowed
  refine sound.apply_staged applied (by simp [action]) staged ?_
  rcases sound.current_cases read with ⟨first, _⟩ | ⟨row, rfl, running, _⟩
  · exact first
  · simp [running, applied.epoch.2] at absent

theorem Sound.apply_activate (sound : Sound vault) (applied : Applied vault request after)
    (action : request.binding.action = .activate) : Sound after := by
  have allowed := applied.allowed
  simp only [allowsAction, action, peel, checks] at allowed
  obtain ⟨current, read, _, ⟨activated, _⟩, _, present, active, found, _, alone, _⟩ := allowed
  have other : request.binding.action ≠ .rotate := by simp [action]
  refine sound.append applied (fun rotate => absurd rotate other) ?_
  have history := sound.history request.binding.referenceID vault.recoveryEpoch
  rw [applied.epoch.2] at found present
  have staged : statuses (rowsOf vault request.binding.referenceID vault.recoveryEpoch) request.binding.materialVersion =
      [.staged] := by
    obtain ⟨reference, held, known, path⟩ := sound.current_path read present (by simp +contextual)
    simp only [checks] at held
    rw [path, held.2.resolve_right known, VersionStatus.path]
  have dead : ∀ material, ¬ Live (priorOf vault) (rowsOf vault request.binding.referenceID vault.recoveryEpoch) material := by
    cases active with
    | none => exact sound.none_active found
    | some active =>
      have live := sound.some_active found
      rw [beq_iff_eq.mp alone] at live
      rw [live.1] at staged
      cases staged
  apply history.promote activated
  · exact applied.same.2 ▸ staged
  · intro material live
    exact absurd live (dead material)
  · intro material rotated
    rw [applied.prior_none other] at rotated
    cases rotated

theorem Sound.apply_rotate (sound : Sound vault) (applied : Applied vault request after)
    (action : request.binding.action = .rotate) : Sound after := by
  have allowed := applied.allowed
  simp only [allowsAction, action, peel, checks] at allowed
  obtain ⟨current, read, _, ⟨⟨⟨activated, _⟩, given⟩, _⟩, active, found, _, ⟨replaced, present⟩, _⟩ := allowed
  refine sound.append applied (fun _ => ⟨activated, given⟩) ?_
  have history := sound.history request.binding.referenceID vault.recoveryEpoch
  obtain ⟨plan, written⟩ := applied.written fun _ => ⟨activated, given⟩
  have prior := written.priorOf_eq
  rw [if_pos action] at prior
  rw [applied.epoch.2] at found present
  obtain ⟨active, rfl, named⟩ := (Option.any_eq_true _ _).mp replaced
  rw [beq_iff_eq] at named
  have live := sound.some_active found
  apply history.promote activated
  · rw [ApplyRequest.version, applied.same.2]
    obtain ⟨reference, held, _, path⟩ := sound.current_path read present (by simp +contextual)
    simp only [checks] at held
    rw [path, held.1.2, VersionStatus.path]
  · intro material other
    rw [prior, ← named, history.one _ _ other live]
  · intro material rotated
    rw [prior, ← named] at rotated
    rw [← Option.some.inj rotated, live.1]
    simp

theorem Sound.apply_revoke (sound : Sound vault) (applied : Applied vault request after)
    (action : request.binding.action = .revoke) : Sound after := by
  have allowed := applied.allowed
  simp only [allowsAction, action, peel, checks] at allowed
  obtain ⟨current, read, _, revoked, present⟩ := allowed
  have other : request.binding.action ≠ .rotate := by simp [action]
  refine sound.append applied (fun rotate => absurd rotate other) ?_
  rw [applied.epoch.2] at present
  obtain ⟨reference, held, known, path⟩ := sound.current_path read present (by simp +contextual)
  simp only [checks] at held
  refine (sound.history _ _).settle ?_ (applied.prior_none other)
  rw [ApplyRequest.version, applied.same.2, path, held.2.resolve_right known, revoked]
  simp [VersionStatus.path]

theorem Sound.reference_epoch (sound : Sound vault) {found : Option Reference}
    (read : orNone (getReference vault referenceID) = .ok found)
    (before : ∀ reference ∈ found, reference.recoveryEpoch < vault.recoveryEpoch) :
    rowsOf vault referenceID vault.recoveryEpoch = [] := by
  unfold getReference at read
  rw [sound.sorted_eq] at read
  dsimp only at read
  have part : (vault.versions.filter fun row => row.reference.referenceID == referenceID).Sublist vault.versions :=
    List.filter_sublist
  rw [List.eq_nil_iff_forall_not_mem]
  intro row member
  obtain ⟨stored, own, running⟩ := mem_rowsOf.mp member
  have listed : row ∈ vault.versions.filter fun row => row.reference.referenceID == referenceID := by
    simp [List.mem_filter, stored, own]
  cases last : (vault.versions.filter fun row => row.reference.referenceID == referenceID).getLast? with
  | none =>
    rw [List.getLast?_eq_none_iff] at last
    rw [last] at listed
    cases listed
  | some latest =>
    have most := sound.last_epoch part last row listed
    rw [last] at read
    have given : ∃ reference, found = some reference ∧ reference.recoveryEpoch = latest.reference.recoveryEpoch := by
      simp only [require, bind, Except.bind] at read
      cases active : getActiveVersion vault referenceID latest.reference.recoveryEpoch with
      | ok reference =>
        rw [active] at read
        cases read
        exact ⟨reference, rfl, (sound.live_of_active active).1⟩
      | error failure =>
        rcases sound.active_cases referenceID latest.reference.recoveryEpoch with ⟨missing, _⟩ | ⟨_, present, _⟩
        · rw [missing] at active read
          cases read
          exact ⟨latest.reference, rfl, rfl⟩
        · rw [present] at active
          cases active
    obtain ⟨reference, rfl, epoch⟩ := given
    have less := before reference rfl
    rw [epoch] at less
    rw [running] at most
    exact absurd less (not_lt.mpr most)

theorem Sound.apply_recover (sound : Sound vault) (applied : Applied vault request after)
    (action : request.binding.action = .recover) : Sound after := by
  have allowed := applied.allowed
  simp only [allowsAction, action, peel, checks] at allowed
  obtain ⟨_, _, _, ⟨⟨staged, _⟩, _⟩, _, _, prior, found, older⟩ := allowed
  refine sound.apply_staged applied (by simp [action]) staged ?_
  rw [sound.reference_epoch found]
  · rfl
  · intro reference same
    rw [same] at older
    simpa [applied.epoch.2] using older

theorem Sound.apply (sound : Sound vault) (done : applyCredentialLifecycle vault request = .ok after) : Sound after := by
  have applied := sound.of_apply done
  cases action : request.binding.action with
  | stage => exact sound.apply_stage applied action
  | activate => exact sound.apply_activate applied action
  | rotate => exact sound.apply_rotate applied action
  | revoke => exact sound.apply_revoke applied action
  | recover => exact sound.apply_recover applied action

end Actions

end VskLabs.Credential

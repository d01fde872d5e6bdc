import VskLabs.Credential.History
import VskLabs.Library.Machine

/-! What holds of the tables as long as retention spares the steps of rotations
whose prior version is not revoked yet. -/

namespace VskLabs.Credential
open Library

def sealedBinding (vault : Vault) (row : VersionRow) : Option LifecycleBinding :=
  (vault.plans.find? row.planID).bind PlanRow.lifecycle

def priorOf (vault : Vault) (row : VersionRow) : Option String :=
  (sealedBinding vault row).bind fun binding => if binding.action = .rotate then binding.priorMaterialVersion else none

def rowsOf (vault : Vault) (referenceID : String) (recoveryEpoch : Int) : List VersionRow :=
  vault.versions.filter (inEpoch referenceID recoveryEpoch)

structure Written (vault : Vault) (row : VersionRow) (plan : PlanRow) (binding : LifecycleBinding) : Prop where
  found : vault.plans.find? row.planID = some plan
  digest : plan.planDigest = row.planDigest
  central : plan.executorMode = .central
  lifecycle : plan.lifecycle = some binding
  typed : ∃ operation ∈ plan.operations, operation.operationType = binding.action.operationType
  step : row.stepID.runID = row.runID
  run : row.runID.planID = row.planID
  planned : binding.stateRevision = plan.stateRevision ∧ binding.recoveryEpoch = plan.recoveryEpoch
  revision : binding.stateRevision + 1 = row.reference.stateRevision
  epoch : binding.recoveryEpoch = row.reference.recoveryEpoch
  reference : binding.referenceID = row.reference.referenceID
  target : binding.targetID = row.reference.targetID
  resolver : binding.resolverID = row.reference.resolverID
  material : binding.materialVersion = row.reference.materialVersion
  fingerprint : binding.ciphertextFingerprint = row.reference.fingerprint
  rotated : binding.action = .rotate → row.reference.status = .active ∧ binding.priorMaterialVersion.isSome = true

def SealsOperation (plan : PlanRow) : Prop :=
  ∀ binding, plan.lifecycle = some binding → ∃ operation, plan.operations = [operation] ∧
    operation.operationID = binding.operationID ∧ operation.adapterID = "core.credential" ∧
    operation.targetID = binding.targetID ∧ operation.inputDigest = binding.ciphertextFingerprint ∧
    operation.artifactDigest = binding.ciphertextFingerprint

def StepsPlanned (vault : Vault) : Prop :=
  ∀ step ∈ vault.steps.rows, ∃ plan, vault.plans.find? step.stepID.runID.planID = some plan ∧
    step.operation ∈ plan.operations

structure Sound (vault : Vault) : Prop where
  steps : StepsPlanned vault
  plans : ∀ plan ∈ vault.plans.rows, SealsOperation plan
  written : ∀ row ∈ vault.versions, ∃ plan binding, Written vault row plan binding
  ordered : vault.versions.Pairwise fun first second =>
    first.reference.stateRevision < second.reference.stateRevision ∧
      first.reference.recoveryEpoch ≤ second.reference.recoveryEpoch
  bounded : ∀ row ∈ vault.versions, row.reference.stateRevision ≤ vault.stateRevision ∧
    row.reference.recoveryEpoch ≤ vault.recoveryEpoch
  kept : ∀ row ∈ vault.versions, ∀ prior, priorOf vault row = some prior →
    statuses (rowsOf vault row.reference.referenceID row.reference.recoveryEpoch) prior = [.staged, .active] →
    (vault.steps.find? row.stepID).isSome = true
  history : ∀ referenceID recoveryEpoch, History (priorOf vault) (rowsOf vault referenceID recoveryEpoch)

theorem Sound.fresh : Sound Vault.fresh where
  steps := by simp [StepsPlanned, Vault.fresh, Table.empty]
  plans := by simp [Vault.fresh, Table.empty]
  written := by simp [Vault.fresh]
  ordered := by simp [Vault.fresh]
  bounded := by simp [Vault.fresh]
  kept := by simp [Vault.fresh]
  history _ _ := by
    simp only [rowsOf, Vault.fresh, List.filter_nil]
    exact History.nil

variable {vault after : Vault} {row : VersionRow} {plan : PlanRow} {binding : LifecycleBinding}
  {referenceID material : String} {recoveryEpoch : Int}

theorem mem_rowsOf : row ∈ rowsOf vault referenceID recoveryEpoch ↔
    row ∈ vault.versions ∧ row.reference.referenceID = referenceID ∧ row.reference.recoveryEpoch = recoveryEpoch := by
  simp [rowsOf, inEpoch, List.mem_filter]

/-! ### Rotations -/

theorem Written.priorOf_eq (written : Written vault row plan binding) :
    priorOf vault row = if binding.action = .rotate then binding.priorMaterialVersion else none := by
  simp [priorOf, sealedBinding, written.found, written.lifecycle]

theorem Action.operationType_rotate {action : Action} (same : action.operationType = "credential.rotate") :
    action = .rotate := by
  cases action <;> simp_all [Action.operationType]

theorem Sound.step_operation (sound : Sound vault) {step : StepRow} (written : Written vault row plan binding)
    (found : vault.steps.find? row.stepID = some step) :
    plan.operations = [step.operation] ∧ step.operation.operationType = binding.action.operationType := by
  obtain ⟨stored, located, member⟩ := sound.steps step (Table.mem_of_find? found)
  rw [Table.find?_key found, written.step, written.run, written.found] at located
  cases located
  obtain ⟨operation, single, _⟩ := sound.plans plan (Table.mem_of_find? written.found) binding written.lifecycle
  obtain ⟨other, inside, typed⟩ := written.typed
  rw [single, List.mem_singleton] at member inside
  rw [inside, ← member] at typed
  rw [member]
  exact ⟨single, member ▸ typed⟩

theorem Sound.rotates_some (sound : Sound vault) {prior : String} {step : StepRow} (member : row ∈ vault.versions)
    (rotated : priorOf vault row = some prior) (found : vault.steps.find? row.stepID = some step) :
    rotates vault row = some step ∧
      supersededBy vault row.reference.referenceID row.reference.recoveryEpoch row step = .ok prior := by
  obtain ⟨plan, binding, written⟩ := sound.written row member
  rw [written.priorOf_eq] at rotated
  have action : binding.action = .rotate := by
    by_contra other
    simp [other] at rotated
  rw [if_pos action] at rotated
  obtain ⟨single, typed⟩ := sound.step_operation written found
  obtain ⟨operation, alone, named, adapter, target, input, artifact⟩ :=
    sound.plans plan (Table.mem_of_find? written.found) binding written.lifecycle
  rw [single] at alone
  cases alone
  refine ⟨?_, ?_⟩
  · simp [rotates, (written.rotated action).1, found, Table.find?_key found, written.step, typed, action,
      Action.operationType]
  · have sealing : getLifecycleBinding plan step.operation.operationID = .ok binding := by
      simp [-bind_pure_comp, getLifecycleBinding, peel, written.central, written.lifecycle, named, written.planned,
        single, adapter, target, input, artifact]
    simp [-bind_pure_comp, supersededBy, peel, written.found, sealing, rotated, written.digest, written.target,
      written.resolver, action, written.reference, written.material, written.fingerprint, written.revision, written.epoch]

theorem found_of_rotates {step : StepRow} (joined : rotates vault row = some step) :
    vault.steps.find? row.stepID = some step := by
  unfold rotates at joined
  split at joined
  · exact (Option.filter_eq_some_iff.mp joined).1
  · cases joined

theorem Sound.rotates_none (sound : Sound vault) (member : row ∈ vault.versions) (rotated : priorOf vault row = none) :
    rotates vault row = none := by
  obtain ⟨plan, binding, written⟩ := sound.written row member
  unfold rotates
  split
  · rw [Option.filter_eq_none_iff]
    intro step found
    obtain ⟨_, typed⟩ := sound.step_operation written found
    rw [typed, Bool.and_eq_true, not_and]
    intro _ same
    have action := Action.operationType_rotate (beq_iff_eq.mp same)
    have given := (written.rotated action).2
    rw [written.priorOf_eq, if_pos action] at rotated
    rw [rotated] at given
    cases given
  · rfl

def supersededIn (vault : Vault) (rows : List VersionRow) : List String :=
  rows.filterMap fun row => if (rotates vault row).isSome then priorOf vault row else none

theorem Sound.superseded_cons (sound : Sound vault) {rows : List VersionRow} (stored : ∀ row ∈ rows, row ∈ vault.versions) :
    ((rows.filterMap fun row =>
          if inEpoch referenceID recoveryEpoch row then (rotates vault row).map fun step => (row, step) else none).mapM
        fun pair => supersededBy vault referenceID recoveryEpoch pair.1 pair.2) =
      .ok (supersededIn vault (rows.filter (inEpoch referenceID recoveryEpoch))) := by
  induction rows with
  | nil => rfl
  | cons row rest ih =>
    have later := ih fun other member => stored other (.tail row member)
    by_cases inside : inEpoch referenceID recoveryEpoch row = true
    · rw [List.filter_cons_of_pos inside]
      have own : row.reference.referenceID = referenceID ∧ row.reference.recoveryEpoch = recoveryEpoch := by
        simpa [inEpoch] using inside
      cases joined : rotates vault row with
      | none =>
        rw [List.filterMap_cons_none (by simp [joined]), later]
        simp [supersededIn, joined]
      | some step =>
        have found := found_of_rotates joined
        cases prior : priorOf vault row with
        | none =>
          rw [sound.rotates_none (stored row (.head _)) prior] at joined
          cases joined
        | some material =>
          have checked := (sound.rotates_some (stored row (.head _)) prior found).2
          rw [own.1, own.2] at checked
          rw [List.filterMap_cons_some (b := (row, step)) (by simp [inside, joined]), List.mapM_cons, checked]
          rw [later]
          simp [supersededIn, joined, prior, bind, Except.bind, pure, Except.pure]
    · rw [List.filter_cons_of_neg inside, List.filterMap_cons_none (by simp [inside])]
      exact later

theorem Sound.superseded_eq (sound : Sound vault) :
    ((rotations vault referenceID recoveryEpoch).mapM fun pair =>
        supersededBy vault referenceID recoveryEpoch pair.1 pair.2) =
      .ok (supersededIn vault (rowsOf vault referenceID recoveryEpoch)) :=
  sound.superseded_cons fun _ member => member

theorem Sound.mem_supersededIn (sound : Sound vault)
    (active : statuses (rowsOf vault referenceID recoveryEpoch) material = [.staged, .active]) :
    material ∈ supersededIn vault (rowsOf vault referenceID recoveryEpoch) ↔
      ∃ row ∈ rowsOf vault referenceID recoveryEpoch, priorOf vault row = some material := by
  simp only [supersededIn, List.mem_filterMap]
  constructor
  · rintro ⟨row, member, found⟩
    split at found
    · exact ⟨row, member, found⟩
    · cases found
  · rintro ⟨row, member, found⟩
    obtain ⟨stored, rfl, rfl⟩ := mem_rowsOf.mp member
    obtain ⟨step, present⟩ := Option.isSome_iff_exists.mp (sound.kept row stored material found active)
    refine ⟨row, member, ?_⟩
    rw [(sound.rotates_some stored found present).1]
    exact found

/-! ### The active version -/

theorem Sound.epochRows_eq (sound : Sound vault) :
    epochRows vault referenceID recoveryEpoch = rowsOf vault referenceID recoveryEpoch := by
  apply List.Pairwise.insertionSort_eq
  exact (sound.ordered.imp fun before => Or.inl before.1).filter _

theorem Sound.nodup (sound : Sound vault) : (rowsOf vault referenceID recoveryEpoch).Nodup := by
  apply List.Pairwise.filter
  refine sound.ordered.imp ?_
  rintro first second ⟨before, _⟩ rfl
  exact lt_irrefl _ before

theorem Sound.active_cases (sound : Sound vault) (referenceID : String) (recoveryEpoch : Int) :
    (getActiveVersion vault referenceID recoveryEpoch = .error (failed .resourceNotFound "credential-active-version") ∧
        ∀ material, ¬ Live (priorOf vault) (rowsOf vault referenceID recoveryEpoch) material) ∨
      ∃ row, getActiveVersion vault referenceID recoveryEpoch = .ok row.reference ∧
        latestOf (rowsOf vault referenceID recoveryEpoch) row.reference.materialVersion = some row ∧
        Live (priorOf vault) (rowsOf vault referenceID recoveryEpoch) row.reference.materialVersion := by
  unfold getActiveVersion
  rw [sound.superseded_eq, sound.epochRows_eq]
  simp only [bind, Except.bind]
  rcases activeRows_cases (sound.history referenceID recoveryEpoch)
      (fun _ active => sound.mem_supersededIn active) sound.nodup with ⟨empty, none_⟩ | ⟨row, single, latest, live⟩
  · rw [empty]
    exact .inl ⟨rfl, none_⟩
  · rw [single]
    exact .inr ⟨row, rfl, latest, live⟩

theorem Sound.live_of_active (sound : Sound vault) {reference : Reference}
    (active : getActiveVersion vault referenceID recoveryEpoch = .ok reference) :
    reference.recoveryEpoch = recoveryEpoch ∧
      Live (priorOf vault) (rowsOf vault referenceID recoveryEpoch) reference.materialVersion := by
  rcases sound.active_cases referenceID recoveryEpoch with ⟨missing, _⟩ | ⟨row, found, latest, live⟩
  · rw [missing] at active
    cases active
  · rw [found] at active
    cases active
    exact ⟨(mem_rowsOf.mp (latestOf_mem latest).1).2.2, live⟩

theorem Sound.active_congr (sound : Sound vault) (later : Sound after) (versions : after.versions = vault.versions)
    (priors : ∀ row ∈ vault.versions, priorOf after row = priorOf vault row) :
    getActiveVersion after referenceID recoveryEpoch = getActiveVersion vault referenceID recoveryEpoch := by
  have rows : rowsOf after referenceID recoveryEpoch = rowsOf vault referenceID recoveryEpoch := by
    simp only [rowsOf, versions]
  have same : ∀ material, Live (priorOf after) (rowsOf vault referenceID recoveryEpoch) material ↔
      Live (priorOf vault) (rowsOf vault referenceID recoveryEpoch) material := by
    intro material
    unfold Live
    refine and_congr_right fun _ => forall₂_congr fun row member => ?_
    rw [priors row (mem_rowsOf.mp member).1]
  rcases sound.active_cases referenceID recoveryEpoch with ⟨missing, none_⟩ | ⟨row, found, latest, live⟩ <;>
  rcases later.active_cases referenceID recoveryEpoch with ⟨gone, dead⟩ | ⟨other, now, last, alive⟩
  · rw [missing, gone]
  · rw [rows, same] at alive
    exact absurd alive (none_ _)
  · rw [← same, ← rows] at live
    exact absurd live (dead _)
  · rw [rows, same] at alive
    rw [rows, (sound.history _ _).one _ _ alive live, latest] at last
    cases last
    rw [found, now]

end VskLabs.Credential

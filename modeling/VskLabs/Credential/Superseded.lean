import VskLabs.Credential.Preservation

/-! Superseded credentials stay away as long as retention spares the runs of
rotations whose prior version is still active on record. -/

namespace VskLabs.Credential
open Library

variable {vault after : Vault}

theorem Grows.trans {first second third : Vault} (one : Grows first second) (two : Grows second third) :
    Grows first third :=
  ⟨one.versions.trans two.versions, fun planID plan found => two.plans planID plan (one.plans planID plan found)⟩

theorem settle_cases (property : Vault → Prop) {result : Except Failure Vault} (unchanged : property vault)
    (success : ∀ after, result = .ok after → property after) : property (settle vault result) := by
  cases result with
  | ok after => exact success after rfl
  | error failure => exact unchanged

theorem Sound.perform (sound : Sound vault) (change : Change) (spared : spares vault change) :
    Sound (change.perform vault) ∧ Grows vault (change.perform vault) := by
  have unchanged := And.intro sound (Grows.refl vault)
  cases change with
  | apply request =>
    refine settle_cases (fun after => Sound after ∧ Grows vault after) unchanged fun after done => ⟨sound.apply done, ?_⟩
    rw [(sound.of_apply done).appended]
    exact ⟨List.prefix_append _ _, fun _ _ found => found⟩
  | prune => exact settle_cases (fun after => Sound after ∧ Grows vault after) unchanged fun _ => sound.prune spared
  | commitPlan => exact settle_cases (fun after => Sound after ∧ Grows vault after) unchanged fun _ => sound.commitPlan
  | createRun => exact settle_cases (fun after => Sound after ∧ Grows vault after) unchanged fun _ => sound.createRun
  | moveStep stepID effectState activeLeaseID =>
    refine ⟨sound.same_plans rfl rfl ?_ le_rfl le_rfl ?_, Grows.same rfl fun _ _ found => found⟩
    · intro step member
      simp only [Change.perform] at member
      obtain ⟨old, stored, rfl⟩ := Table.mem_modify.mp member
      have planned := sound.steps old stored
      split <;> exact planned
    · intro other found
      simpa [Change.perform] using found
  | moveRun | acquireLease | closeLease | referenceRun =>
    exact ⟨sound.same_plans rfl rfl sound.steps le_rfl le_rfl fun _ found => found, Grows.same rfl fun _ _ found => found⟩
  | advance =>
    exact ⟨sound.same_plans rfl rfl sound.steps (Int.le_add_one le_rfl) le_rfl fun _ found => found,
      Grows.same rfl fun _ _ found => found⟩
  | startEpoch =>
    exact ⟨sound.same_plans rfl rfl sound.steps le_rfl (Int.le_add_one le_rfl) fun _ found => found,
      Grows.same rfl fun _ _ found => found⟩

def Retired (vault : Vault) (referenceID : String) (recoveryEpoch : Int) (material : String) : Prop :=
  ∃ row ∈ rowsOf vault referenceID recoveryEpoch,
    priorOf vault row = some material ∨ row.reference.materialVersion = material ∧ row.reference.status = .revoked

theorem Sound.retired_not_live (sound : Sound vault) (grown : Grows vault after) {referenceID material : String}
    {recoveryEpoch : Int} (retired : Retired vault referenceID recoveryEpoch material) :
    ¬ Live (priorOf after) (rowsOf after referenceID recoveryEpoch) material := by
  rintro ⟨path, free⟩
  obtain ⟨row, member, reason⟩ := retired
  obtain ⟨stored, named⟩ := mem_rowsOf.mp member
  have still : row ∈ rowsOf after referenceID recoveryEpoch := mem_rowsOf.mpr ⟨grown.versions.mem stored, named⟩
  rcases reason with rotated | ⟨own, revoked⟩
  · rw [← sound.priorOf_mono grown.plans stored] at rotated
    exact free row still rotated
  · have listed : VersionStatus.revoked ∈ statuses (rowsOf after referenceID recoveryEpoch) material := by
      simp only [statuses, List.mem_map, List.mem_filter, checks]
      exact ⟨row, ⟨still, own⟩, revoked⟩
    rw [path] at listed
    simp at listed

section Histories

variable {changes : List Change}

theorem sound_throughout (sound : Sound vault) (spared : Throughout Change.perform spares vault changes) :
    Sound (execute Change.perform vault changes) :=
  spared.invariant sound fun _ change sound spared => (sound.perform change spared).1

theorem grows_throughout (sound : Sound vault) (spared : Throughout Change.perform spares vault changes) :
    Grows vault (execute Change.perform vault changes) :=
  spared.related sound (fun _ change sound spared => (sound.perform change spared).1) Grows.refl
    (fun _ _ _ => Grows.trans) fun _ change sound spared => (sound.perform change spared).2

/-- In every history whose retention spares such rotations there is one active
version or none, what was rotated away or revoked is not read as active in any
later state, and retention does not change what is read. -/
theorem spared_rotations_stay_superseded (spared : Throughout Change.perform spares Vault.fresh changes)
    (referenceID : String) (recoveryEpoch : Int) :
    ((∃ active, getActiveVersion (execute Change.perform Vault.fresh changes) referenceID recoveryEpoch = .ok active) ∨
      getActiveVersion (execute Change.perform Vault.fresh changes) referenceID recoveryEpoch =
        .error (failed .resourceNotFound "credential-active-version")) ∧
    (∀ later material, Throughout Change.perform spares (execute Change.perform Vault.fresh changes) later →
      Retired (execute Change.perform Vault.fresh changes) referenceID recoveryEpoch material →
      ∀ active, getActiveVersion (execute Change.perform Vault.fresh (changes ++ later)) referenceID recoveryEpoch =
        .ok active → active.materialVersion ≠ material) ∧
    ∀ now, spares (execute Change.perform Vault.fresh changes) (.prune now) →
      getActiveVersion ((Change.prune now).perform (execute Change.perform Vault.fresh changes)) referenceID recoveryEpoch =
        getActiveVersion (execute Change.perform Vault.fresh changes) referenceID recoveryEpoch := by
  have sound := sound_throughout Sound.fresh spared
  refine ⟨?_, ?_, ?_⟩
  · rcases sound.active_cases referenceID recoveryEpoch with ⟨missing, _⟩ | ⟨row, found, _⟩
    · exact .inr missing
    · exact .inl ⟨row.reference, found⟩
  · rintro later material kept retired active found rfl
    rw [execute_append] at found
    have live := ((sound_throughout sound kept).live_of_active found).2
    exact sound.retired_not_live (grows_throughout sound kept) retired live
  · intro now kept
    obtain ⟨still, grown⟩ := sound.perform (.prune now) kept
    refine sound.active_congr still ?_ fun row member => sound.priorOf_mono grown.plans member
    refine settle_cases (fun after => after.versions = _) rfl fun after done => ?_
    simp only [pruneRunHistory, peel] at done
    obtain ⟨_, _, rfl⟩ := done
    rfl

end Histories

/-! ### A rotation whose run has expired -/

section Scenario

def passwordBinding (place : Nat) (action : Action) (material : String) (prior : Option String) : LifecycleBinding :=
  ⟨"op", action, "db-password", "sops", "host", material, prior, "sha256:" ++ material, 2 * place + 1, 0⟩

def passwordPlan (place : Nat) (planID : String) (binding : LifecycleBinding) : PlanRow :=
  ⟨planID, "digest", 2 * place + 1, 0, .human, .central, 1000,
    [⟨1, "op", binding.action.operationType, "core.credential", "central", "host", binding.ciphertextFingerprint,
      binding.ciphertextFingerprint, false⟩], some binding⟩

def passwordRequest (place : Nat) (planID : String) (binding : LifecycleBinding) (status : VersionStatus) : ApplyRequest :=
  let activatedAt := if status = .staged then none else some 100
  { binding,
    reference := ⟨"db-password", "app", "login", "host", "sops", binding.materialVersion, binding.ciphertextFingerprint,
      status, 2 * place + 2, 0, activatedAt, []⟩,
    planID, planDigest := "digest", runID := ⟨planID, "key"⟩, stepID := ⟨⟨planID, "key"⟩, 1⟩, leaseID := planID,
    expectedStateRevision := 2 * place + 1, expectedRecoveryEpoch := 0, versionID := planID, now := 100,
    verified := true, recovered := false, admitted := true }

def carryOut (place : Nat) (planID : String) (binding : LifecycleBinding) (status : VersionStatus) : List Change :=
  [.commitPlan (passwordPlan place planID binding),
    .createRun ⟨planID, "key"⟩ true 100,
    .moveRun ⟨planID, "key"⟩ .running 100,
    .acquireLease ⟨planID, ⟨⟨planID, "key"⟩, 1⟩, .active, .central, 1000, 0⟩,
    .moveStep ⟨⟨planID, "key"⟩, 1⟩ .intentRecorded (some planID),
    .apply (passwordRequest place planID binding status),
    .moveStep ⟨⟨planID, "key"⟩, 1⟩ .verified none,
    .closeLease planID .released,
    .moveRun ⟨planID, "key"⟩ .succeeded 100]

def rotation : List Change :=
  carryOut 0 "stage-a" (passwordBinding 0 .stage "a" none) .staged ++
  carryOut 1 "activate-a" (passwordBinding 1 .activate "a" none) .active ++
  carryOut 2 "stage-b" (passwordBinding 2 .stage "b" none) .staged ++
  carryOut 3 "rotate-b" (passwordBinding 3 .rotate "b" (some "a")) .active

def revocation (material : String) : List Change :=
  carryOut 4 "revoke" (passwordBinding 4 .revoke material none) .revoked

def expire : List Change := [.prune (100 + runSummaryRetention + 1)]

def activeMaterial (changes : List Change) : Except Failure String :=
  (getActiveVersion (execute Change.perform Vault.fresh changes) "db-password" 0).map Reference.materialVersion

/-- Retention brings the password that was rotated away back: reading the active
one fails, or gives the old one if the new one has been revoked. -/
theorem expired_rotation_revives_prior :
    activeMaterial rotation = .ok "b" ∧
      activeMaterial (rotation ++ expire) = .error (failed .integrityFailure "credential-active-version") ∧
      activeMaterial (rotation ++ revocation "b") = .error (failed .resourceNotFound "credential-active-version") ∧
      activeMaterial (rotation ++ revocation "b" ++ expire) = .ok "a" := by
  decide +kernel

instance instDecidableSpares (vault : Vault) : (change : Change) → Decidable (spares vault change)
  | .prune now => inferInstanceAs (Decidable (∀ row ∈ vault.versions, ∀ prior ∈ priorOf vault row,
      deletesRun vault now row.runID = true →
      ∀ latest ∈ latestOf (epochRows vault row.reference.referenceID row.reference.recoveryEpoch) prior,
        latest.reference.status ≠ .active))
  | .apply _ | .commitPlan _ | .createRun _ _ _ | .moveRun _ _ _ | .moveStep _ _ _ | .acquireLease _ | .closeLease _ _
  | .referenceRun _ | .advance | .startEpoch => instDecidableTrue

/-- Once the old password is revoked the run of the rotation may expire. -/
theorem revoked_prior_stays_away :
    Throughout Change.perform spares Vault.fresh (rotation ++ revocation "a") ∧
      Throughout Change.perform spares (execute Change.perform Vault.fresh (rotation ++ revocation "a")) expire ∧
      activeMaterial (rotation ++ revocation "a") = .ok "b" ∧
      ∀ active, getActiveVersion (execute Change.perform Vault.fresh ((rotation ++ revocation "a") ++ expire))
        "db-password" 0 = .ok active → active.materialVersion ≠ "a" := by
  have spared : Throughout Change.perform spares Vault.fresh (rotation ++ revocation "a") := by decide +kernel
  have later : Throughout Change.perform spares (execute Change.perform Vault.fresh (rotation ++ revocation "a")) expire := by
    decide +kernel
  have retired : Retired (execute Change.perform Vault.fresh (rotation ++ revocation "a")) "db-password" 0 "a" := by
    unfold Retired
    decide +kernel
  exact ⟨spared, later, by decide +kernel,
    (spared_rotations_stay_superseded spared "db-password" 0).2.1 expire "a" later retired⟩

end Scenario

end VskLabs.Credential

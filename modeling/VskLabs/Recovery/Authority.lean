import VskLabs.Contracts.Documents
import VskLabs.Library.Machine
import VskLabs.Library.Outcome
import VskLabs.Library.Table

/-! The recovered authority. Three privileged transactions move a database into a
new recovery epoch and back to ordinary work, beside the ordinary mutations. -/

namespace VskLabs.Recovery
open Library

inductive AuthorityMode where
  | ready | recoveryRequired
  deriving DecidableEq

/-- The columns of `system_meta` that name the authority. -/
structure SystemMeta where
  instanceID : String
  (stateRevision recoveryEpoch : Int)
  mode : AuthorityMode
  deriving DecidableEq

/-- `generated.RestoreBinding`, as far as it is compared. -/
structure RestoreBinding where
  (planID planDigest humanAcknowledgementID candidateDigest fenceSetDigest : String)
  (auditDecisionDigest priorInstanceID newInstanceID : String)
  (priorRecoveryEpoch nextRecoveryEpoch : Int)
  (recoveryReceiptID recoveryChallengeID : String)
  deriving DecidableEq

/-- `validRestoreBinding` without the patterns of the contract. -/
def validRestoreBinding (binding : RestoreBinding) : Bool :=
  binding.nextRecoveryEpoch == binding.priorRecoveryEpoch + 1 && binding.priorInstanceID != binding.newInstanceID

inductive Transition where
  | promoted | verified
  deriving DecidableEq

/-- A row of `recovery_authority_journal`. -/
structure JournalRow where
  transition : Transition
  instanceID : String
  recoveryEpoch : Int
  evidenceDigest : String
  binding : RestoreBinding

def JournalRow.key (row : JournalRow) : String × Transition := (row.binding.planID, row.transition)

/-- A row of `audit_epoch_genesis`. -/
structure GenesisRow where
  recoveryEpoch : Int
  (instanceID recoveryDecision : String)

/-- `RecoveredAuthorityBundle`: `valid` is what `validateRecoveredAuthorityBundle` says of
the rest of it, `digest` what it computes. -/
structure Bundle where
  (planID planDigest : String)
  planRevision : Int
  binding : RestoreBinding
  valid : Bool
  digest : String

/-- A row of `recovery_authority_bundles`. -/
structure BundleRow where
  (planID planDigest bundleDigest : String)

structure Health where
  (stateRevision recoveryEpoch : Int)
  mutationEnabled : Bool

structure Authority where
  system : SystemMeta
  instances : List String
  genesis : Table GenesisRow.recoveryEpoch
  journal : Table JournalRow.key
  bundles : Table BundleRow.planID
  health : Health

namespace Authority

def enabled (authority : Authority) : Except Failure Unit :=
  ensure authority.health.mutationEnabled (.coded .prerequisiteBlocked "database-safe-mode")

def prepareRecoveredAuthority (authority : Authority) (binding : RestoreBinding) (checkpointValid : Bool) :
    Except Failure Authority := do
  ensure (validRestoreBinding binding && checkpointValid) (.coded .inputInvalid "recovery-authority")
  authority.enabled
  ensure (authority.system.instanceID == binding.priorInstanceID &&
    authority.system.recoveryEpoch == binding.priorRecoveryEpoch && authority.system.mode == .ready)
    (.coded .stateConflict "recovery-authority")
  ensure (!authority.instances.contains binding.newInstanceID) constraintViolated
  let genesis ← require (authority.genesis.insert?
    ⟨binding.nextRecoveryEpoch, binding.newInstanceID, binding.auditDecisionDigest⟩) constraintViolated
  let journal ← require (authority.journal.insert?
    ⟨.promoted, binding.newInstanceID, binding.nextRecoveryEpoch, binding.candidateDigest, binding⟩) constraintViolated
  return { authority with
    genesis
    journal
    system := ⟨binding.newInstanceID, authority.system.stateRevision + 1, binding.nextRecoveryEpoch, .recoveryRequired⟩
    instances := authority.instances ++ [binding.newInstanceID]
    health := ⟨authority.system.stateRevision + 1, binding.nextRecoveryEpoch, false⟩ }

/-- The `finish` of a bundle: the plan's revision is the least the epoch continues from. -/
def raiseRevision (authority : Authority) (revision : Int) : Authority :=
  { authority with system.stateRevision := max authority.system.stateRevision revision }

def writeRecoveredAuthorityBundle (authority : Authority) (bundle : Bundle) : Except Failure Authority := do
  ensure (bundle.valid && validRestoreBinding bundle.binding && bundle.binding.planID == bundle.planID &&
    bundle.binding.planDigest == bundle.planDigest) (.coded .inputInvalid "recovery-authority-bundle")
  ensure (authority.system.instanceID == bundle.binding.newInstanceID &&
    authority.system.recoveryEpoch == bundle.binding.nextRecoveryEpoch && authority.system.mode == .recoveryRequired)
    (.coded .stateConflict "recovery-authority-bundle")
  let taken := authority.bundles.rows.any fun row =>
    row.planDigest == bundle.planDigest || row.bundleDigest == bundle.digest
  match if taken then none else authority.bundles.insert? ⟨bundle.planID, bundle.planDigest, bundle.digest⟩ with
  | some bundles => return { authority with bundles }.raiseRevision bundle.planRevision
  | none =>
    -- A replay of the stored bundle succeeds.
    ensure ((authority.bundles.find? bundle.planID).any fun row => row.bundleDigest == bundle.digest)
      (.coded .stateConflict "recovery-authority-bundle")
    return authority.raiseRevision bundle.planRevision

/-- The journal rows of the current epoch. -/
def current (authority : Authority) (transition : Transition) : List JournalRow :=
  authority.journal.rows.filter fun row =>
    row.transition == transition && row.recoveryEpoch == authority.system.recoveryEpoch

def enableRecoveredAuthority (authority : Authority) (instanceID : String) (epoch revision : Int)
    (canaryDigest : String) : Except Failure Authority := do
  ensure (instanceID != "" && decide (1 ≤ epoch) && decide (0 ≤ revision)) (.coded .inputInvalid "recovery-enable")
  ensure (authority.system == ⟨instanceID, revision, epoch, .recoveryRequired⟩)
    (.coded .recoveryRequired "recovery-enable")
  match authority.journal.rows.filter fun row =>
      row.transition == .promoted && row.instanceID == instanceID && row.recoveryEpoch == epoch with
  | [row] =>
    let journal ← require (authority.journal.insert?
      { row with transition := .verified, evidenceDigest := canaryDigest }) constraintViolated
    return { authority with
      journal
      system := ⟨instanceID, revision + 1, epoch, .ready⟩
      health := ⟨revision + 1, epoch, true⟩ }
  | _ => throw (.coded .recoveryRequired "recovery-enable")

/-- `executeAuditIntent` and `WriteIntent`, as far as they touch `system_meta`. -/
def mutate (authority : Authority) (expected : Option (Int × Int)) (advances : Bool) : Except Failure Authority := do
  ensure (expected.all fun token => token.2 == authority.health.recoveryEpoch)
    (.coded .recoveryEpochMismatch "database-revision")
  authority.enabled
  ensure (expected.all fun token => token.2 == authority.system.recoveryEpoch)
    (.coded .recoveryEpochMismatch "database-revision")
  ensure (expected.all fun token => token.1 == authority.system.stateRevision) (.coded .stateConflict "database-revision")
  if advances then
    return { authority with
      system.stateRevision := authority.system.stateRevision + 1
      health.stateRevision := authority.system.stateRevision + 1
      health.recoveryEpoch := authority.system.recoveryEpoch }
  else return authority

end Authority

/-! ### Histories -/

inductive Call where
  | prepare (binding : RestoreBinding) (checkpointValid : Bool)
  | write (bundle : Bundle)
  | enable (instanceID : String) (epoch revision : Int) (canaryDigest : String)
  | mutate (expected : Option (Int × Int)) (advances : Bool)

def Call.perform (authority : Authority) : Call → Except Failure Authority
  | .prepare binding checkpointValid => authority.prepareRecoveredAuthority binding checkpointValid
  | .write bundle => authority.writeRecoveredAuthorityBundle bundle
  | .enable instanceID epoch revision canaryDigest =>
    authority.enableRecoveredAuthority instanceID epoch revision canaryDigest
  | .mutate expected advances => authority.mutate expected advances

inductive Claim where
  | prepared (binding : RestoreBinding)
  | written (binding : RestoreBinding)
  | enabled (instanceID : String) (epoch : Int)

def Call.claim : Call → Option Claim
  | .prepare binding _ => some (.prepared binding)
  | .write bundle => some (.written bundle.binding)
  | .enable instanceID epoch _ _ => some (.enabled instanceID epoch)
  | .mutate .. => none

structure Ledger where
  authority : Authority
  accepted : List Call

def Ledger.step (ledger : Ledger) (call : Call) : Ledger :=
  match call.perform ledger.authority with
  | .ok authority => ⟨authority, call :: ledger.accepted⟩
  | .error _ => ledger

structure Fresh (authority : Authority) : Prop where
  ready : authority.system.mode = .ready
  journal : authority.journal.rows = []
  cached : authority.health = ⟨authority.system.stateRevision, authority.system.recoveryEpoch, true⟩

structure OneWay (start : Authority) (ledger : Ledger) : Prop where
  epoch : ledger.authority.system.recoveryEpoch = start.system.recoveryEpoch +
    ledger.accepted.countP fun call => call matches .prepare ..
  revision : start.system.stateRevision ≤ ledger.authority.system.stateRevision
  mode : ledger.authority.system.mode = .ready ↔
    ledger.authority.current .promoted = [] ∨ (ledger.authority.current .verified).length = 1
  once : (ledger.accepted.filterMap Call.claim).Nodup
  cached : ledger.authority.health =
    ⟨ledger.authority.system.stateRevision, ledger.authority.system.recoveryEpoch,
      ledger.authority.system.mode == .ready⟩

/-- A bundle that is accepted is a new one, of a plan that is not ahead of the database. -/
def Paced (ledger : Ledger) : Call → Prop
  | .write bundle => (ledger.authority.writeRecoveredAuthorityBundle bundle).isOk = true →
      ledger.authority.bundles.find? bundle.planID = none ∧ bundle.planRevision ≤ ledger.authority.system.stateRevision
  | _ => True

instance : ∀ ledger call, Decidable (Paced ledger call)
  | _, .write _ => inferInstanceAs (Decidable (_ → _ ∧ _))
  | _, .prepare .. | _, .enable .. | _, .mutate .. => instDecidableTrue

def Authority.Spent (authority : Authority) : Claim → Prop
  | .prepared binding => binding.nextRecoveryEpoch ≤ authority.system.recoveryEpoch
  | .written binding => authority.bundles.find? binding.planID ≠ none
  | .enabled _ epoch => epoch < authority.system.recoveryEpoch ∨
      (epoch = authority.system.recoveryEpoch ∧ authority.system.mode = .ready)

inductive Authority.Stands (authority : Authority) : Prop where
  | original (mode : authority.system.mode = .ready) (promoted : authority.current .promoted = [])
      (verified : authority.current .verified = [])
  | recovering (mode : authority.system.mode = .recoveryRequired) (promoted : authority.current .promoted ≠ [])
      (verified : authority.current .verified = [])
  | recovered (mode : authority.system.mode = .ready) (verified : (authority.current .verified).length = 1)

/-- A store in good order: no journal row is ahead of its epoch, and the cache is right. -/
structure Authority.Orderly (authority : Authority) : Prop where
  past : ∀ row ∈ authority.journal.rows, row.recoveryEpoch ≤ authority.system.recoveryEpoch
  stands : authority.Stands
  cached : authority.health =
    ⟨authority.system.stateRevision, authority.system.recoveryEpoch, authority.system.mode == .ready⟩

variable {start authority after : Authority} {ledger : Ledger} {call : Call}

theorem Authority.Stands.mode_iff (stands : authority.Stands) : authority.system.mode = .ready ↔
    authority.current .promoted = [] ∨ (authority.current .verified).length = 1 := by
  cases stands with
  | original mode promoted _ => simp [mode, promoted]
  | recovering mode promoted verified => simp [mode, promoted, verified]
  | recovered mode verified => simp [mode, verified]

theorem Authority.Stands.of_same (stands : authority.Stands) (journal : after.journal = authority.journal)
    (epoch : after.system.recoveryEpoch = authority.system.recoveryEpoch)
    (mode : after.system.mode = authority.system.mode) : after.Stands := by
  have same : after.current = authority.current := by
    funext transition
    simp only [Authority.current, journal, epoch]
  cases stands with
  | original ready promoted verified =>
    exact .original (mode.trans ready) (by rw [same, promoted]) (by rw [same, verified])
  | recovering required promoted verified =>
    exact .recovering (mode.trans required) (by rwa [same]) (by rw [same, verified])
  | recovered ready verified => exact .recovered (mode.trans ready) (by rw [same, verified])

structure Advances (authority : Authority) (call : Call) (after : Authority) : Prop where
  orderly : after.Orderly
  epoch : after.system.recoveryEpoch = authority.system.recoveryEpoch + if call matches .prepare .. then 1 else 0
  revision : authority.system.stateRevision ≤ after.system.stateRevision
  new : ∀ claim, call.claim = some claim → ¬ authority.Spent claim ∧ after.Spent claim
  kept : ∀ claim, authority.Spent claim → after.Spent claim

theorem prepare_advances {binding : RestoreBinding} {checkpointValid : Bool} (orderly : authority.Orderly)
    (done : authority.prepareRecoveredAuthority binding checkpointValid = .ok after) :
    Advances authority (.prepare binding checkpointValid) after := by
  simp only [Authority.prepareRecoveredAuthority, Authority.enabled, validRestoreBinding, peel, checks] at done
  obtain ⟨_, ⟨⟨next, _⟩, _⟩, _, _, _, ⟨⟨_, same⟩, _⟩, _, _, genesis, _, journal, added, rfl⟩ := done
  obtain ⟨_, rows⟩ := Table.insert?_eq_some added
  have earlier : ∀ row ∈ authority.journal.rows, row.recoveryEpoch < binding.nextRecoveryEpoch := by
    intro row member
    have := orderly.past row member
    omega
  refine ⟨⟨?_, .recovering rfl ?_ ?_, rfl⟩, ?_, ?_, ?_, ?_⟩
  · intro row member
    rw [rows] at member
    rcases List.mem_append.mp member with old | new
    · exact Int.le_of_lt (earlier row old)
    · obtain rfl := List.mem_singleton.mp new
      exact Int.le_refl _
  · simp [Authority.current, rows]
  · simp only [Authority.current, rows, List.filter_append, List.append_eq_nil_iff, List.filter_eq_nil_iff]
    refine ⟨fun row member => ?_, by simp⟩
    simp [Int.ne_of_lt (earlier row member)]
  · simp only [if_true]
    omega
  · exact Int.le_add_one (Int.le_refl _)
  · intro claim named
    cases named
    simp only [Authority.Spent]
    omega
  · intro claim spent
    cases claim with
    | written other => exact spent
    | prepared other | enabled instanceID epoch =>
      simp only [Authority.Spent] at spent ⊢
      omega

theorem write_advances {bundle : Bundle} (orderly : authority.Orderly)
    (unwritten : authority.bundles.find? bundle.planID = none) (behind : bundle.planRevision ≤ authority.system.stateRevision)
    (done : authority.writeRecoveredAuthorityBundle bundle = .ok after) : Advances authority (.write bundle) after := by
  simp only [Authority.writeRecoveredAuthorityBundle, peel, checks] at done
  obtain ⟨_, ⟨⟨_, samePlan⟩, _⟩, _, _, done⟩ := done
  have level : max authority.system.stateRevision bundle.planRevision = authority.system.stateRevision := by omega
  split at done
  next bundles added =>
    split at added
    · cases added
    have found := Table.find?_insert? added
    simp only [Authority.raiseRevision, level, peel] at done
    subst done
    refine ⟨⟨orderly.past, orderly.stands.of_same rfl rfl rfl, orderly.cached⟩, by simp, Int.le_refl _, ?_, ?_⟩
    · intro claim named
      cases named
      simp only [Authority.Spent, samePlan, ne_eq, not_not]
      exact ⟨unwritten, by simp [found]⟩
    · intro claim spent
      cases claim with
      | prepared | enabled => exact spent
      | written other =>
        simp only [Authority.Spent, found] at spent ⊢
        split
        · simp
        · exact spent
  next =>
    simp only [unwritten, Option.any_none, peel] at done
    obtain ⟨_, replayed, _⟩ := done
    cases replayed

theorem enable_advances {instanceID canaryDigest : String} {epoch revision : Int} (orderly : authority.Orderly)
    (done : authority.enableRecoveredAuthority instanceID epoch revision canaryDigest = .ok after) :
    Advances authority (.enable instanceID epoch revision canaryDigest) after := by
  simp only [Authority.enableRecoveredAuthority, peel, checks] at done
  obtain ⟨_, _, _, system, done⟩ := done
  split at done
  next row chosen =>
    simp only [peel] at done
    obtain ⟨journal, added, rfl⟩ := done
    obtain ⟨_, rows⟩ := Table.insert?_eq_some added
    have promoted : row.recoveryEpoch = epoch := by
      have member : row ∈ [row] := List.mem_singleton.mpr rfl
      rw [← chosen, List.mem_filter, Bool.and_eq_true] at member
      simpa using member.2.2
    have unverified : authority.current .verified = [] := by
      cases orderly.stands with
      | original mode => simp [system] at mode
      | recovering _ _ verified => exact verified
      | recovered mode => simp [system] at mode
    refine ⟨⟨?_, .recovered rfl ?_, rfl⟩, by simp [system], ?_, ?_, ?_⟩
    · intro other member
      rw [rows] at member
      rcases List.mem_append.mp member with old | new
      · simpa [system] using orderly.past other old
      · rw [List.mem_singleton.mp new]
        exact Int.le_of_eq promoted
    · simp only [Authority.current, system] at unverified
      simp [Authority.current, rows, unverified, promoted]
    · rw [system]
      exact Int.le_add_one (Int.le_refl _)
    · intro claim named
      cases named
      simp [Authority.Spent, system]
    · intro claim spent
      cases claim with
      | written other => exact spent
      | prepared other => simpa [Authority.Spent, system] using spent
      | enabled other before => exact .inl (by simpa [Authority.Spent, system] using spent)
  next => simp at done

theorem mutate_advances {expected : Option (Int × Int)} {advances : Bool} (orderly : authority.Orderly)
    (done : authority.mutate expected advances = .ok after) : Advances authority (.mutate expected advances) after := by
  simp only [Authority.mutate, peel] at done
  obtain ⟨_, _, _, _, _, _, _, _, done⟩ := done
  split at done
  · rw [pure_eq_ok] at done
    subst done
    refine ⟨⟨orderly.past, orderly.stands.of_same rfl rfl rfl, by simp [orderly.cached]⟩, by simp,
      Int.le_add_one (Int.le_refl _), by simp [Call.claim], fun claim spent => ?_⟩
    cases claim with
    | prepared | written | enabled => exact spent
  · rw [pure_eq_ok] at done
    subst done
    exact ⟨orderly, by simp, Int.le_refl _, by simp [Call.claim], fun claim spent => spent⟩

theorem Call.advances (orderly : ledger.authority.Orderly) (paced : Paced ledger call)
    (done : call.perform ledger.authority = .ok after) : Advances ledger.authority call after := by
  cases call with
  | prepare => exact prepare_advances orderly done
  | write bundle =>
    obtain ⟨unwritten, behind⟩ := paced (finds.2.2.2.mpr ⟨after, done⟩)
    exact write_advances orderly unwritten behind done
  | enable => exact enable_advances orderly done
  | mutate => exact mutate_advances orderly done

structure Sound (start : Authority) (ledger : Ledger) : Prop extends OneWay start ledger where
  orderly : ledger.authority.Orderly
  spent : ∀ claim ∈ ledger.accepted.filterMap Call.claim, ledger.authority.Spent claim

theorem Sound.step (sound : Sound start ledger) (paced : Paced ledger call) : Sound start (ledger.step call) := by
  unfold Ledger.step
  split
  next after done =>
    have advances := call.advances sound.orderly paced done
    have spent : ∀ claim ∈ (call :: ledger.accepted).filterMap Call.claim, after.Spent claim := by
      intro claim member
      obtain ⟨made, member, named⟩ := List.mem_filterMap.mp member
      rcases List.mem_cons.mp member with rfl | old
      · exact (advances.new claim named).2
      · exact advances.kept claim (sound.spent claim (List.mem_filterMap.mpr ⟨made, old, named⟩))
    refine ⟨⟨?_, Int.le_trans sound.revision advances.revision, advances.orderly.stands.mode_iff, ?_,
      advances.orderly.cached⟩, advances.orderly, spent⟩
    · rw [advances.epoch, sound.epoch, List.countP_cons]
      split <;> simp [Int.add_assoc]
    · rw [List.filterMap_cons]
      split
      next => exact sound.once
      next claim named =>
        refine List.nodup_cons.mpr ⟨fun member => ?_, sound.once⟩
        exact (advances.new claim named).1 (sound.spent claim member)
  next => exact sound

theorem Fresh.sound (fresh : Fresh start) : Sound start ⟨start, []⟩ where
  epoch := by simp
  revision := Int.le_refl _
  mode := by simp [fresh.ready, Authority.current, fresh.journal]
  once := List.nodup_nil
  cached := by simp [fresh.cached, fresh.ready]
  orderly := {
    past := by simp [fresh.journal]
    stands := .original fresh.ready (by simp [Authority.current, fresh.journal]) (by simp [Authority.current, fresh.journal])
    cached := by simp [fresh.cached, fresh.ready] }
  spent := by simp

/-- Recovery is one-way in every history that writes each bundle once, of a plan that is
not ahead of the database it recovers. -/
theorem recovery_is_one_way (fresh : Fresh start) (calls : List Call)
    (paced : Throughout Ledger.step Paced ⟨start, []⟩ calls) :
    OneWay start (execute Ledger.step ⟨start, []⟩ calls) :=
  (@Throughout.invariant _ _ _ _ _ _ (Sound start) paced fresh.sound
    fun _ _ sound condition => sound.step condition).toOneWay

def original : Authority where
  system := ⟨"instance-former", 7, 0, .ready⟩
  instances := ["instance-former"]
  genesis := ⟨[⟨0, "instance-former", ""⟩], by decide⟩
  journal := Table.empty
  bundles := Table.empty
  health := ⟨7, 0, true⟩

def planned : RestoreBinding where
  planID := "plan-restore"
  planDigest := "sha256:plan"
  humanAcknowledgementID := "acknowledgement"
  candidateDigest := "sha256:candidate"
  fenceSetDigest := "sha256:fences"
  auditDecisionDigest := "sha256:decision"
  priorInstanceID := "instance-former"
  newInstanceID := "instance-recovered"
  priorRecoveryEpoch := 0
  nextRecoveryEpoch := 1
  recoveryReceiptID := "receipt"
  recoveryChallengeID := "challenge"

def sealedAt (revision : Int) : Bundle := ⟨"plan-restore", "sha256:plan", revision, planned, true, "sha256:bundle"⟩

theorem recovered_authority_one_way :
    OneWay original (execute Ledger.step ⟨original, []⟩
      [.prepare planned true, .write (sealedAt 6), .enable "instance-recovered" 1 8 "sha256:canary", .mutate none true]) :=
  recovery_is_one_way ⟨rfl, rfl, rfl⟩ _ (by decide +kernel)

/-- The snapshot predates its plan, so the bundle raises the stored revision alone. -/
theorem raised_revision_is_not_cached : ¬ OneWay original
    (execute Ledger.step ⟨original, []⟩ [.prepare planned true, .write (sealedAt 12)]) := by
  intro oneWay
  have cached := congrArg Health.stateRevision oneWay.cached
  revert cached
  decide +kernel

end VskLabs.Recovery

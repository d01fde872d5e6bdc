import VskLabs.Contracts.Documents
import VskLabs.Library.Crash
import VskLabs.Library.Machine

/-! Promotion at startup. Two renames exchange the former database for the candidate;
the record that a promotion is pending is in the database that the first one moves. -/

namespace VskLabs.Recovery
open Library

/-- `PendingRecoveryCandidate`; `replacement` stands for its `ReplacementContinuity`. -/
structure PendingCandidate where
  planID : String
  replacement : Bool
  deriving DecidableEq

/-- A database file: the plan whose recovered authority and bundle verify in it, and what
`PendingPromotion` answers from it. -/
structure Database where
  instanceID : String
  recovers : Option String
  pending : Except Failure (Option PendingCandidate)
  deriving DecidableEq

structure Directory where
  active : Option Database
  candidate : String → Option Database
  preserved : String → Option Database
  journal : String → Bool

namespace Directory

/-- The first rename of `PromoteNoReplace` and the sync after it. -/
def preserve (planID : String) (directory : Directory) : Except Failure Directory := do
  ensure (directory.preserved planID).isNone (.coded .stateConflict "recovery-preserve")
  return { directory with
    active := none
    preserved := fun name => if name = planID then directory.active else directory.preserved name }

def promote (planID : String) (directory : Directory) : Except Failure Directory := do
  ensure directory.active.isNone (.coded .stateConflict "recovery-promote")
  return { directory with
    active := directory.candidate planID
    candidate := fun name => if name = planID then none else directory.candidate name }

end Directory

def preserveFormer (planID : String) : Option Database → Procedure Failure Directory Unit
  | none => do
    .look fun directory => ensure directory.active.isSome (.coded .integrityFailure "recovery-file")
    .write (Directory.preserve planID)
  | some _ => .look fun directory => ensure directory.active.isNone (.coded .stateConflict "recovery-preserve")

/-- `LocalCandidateStorage.PromoteNoReplace`. -/
def promoteNoReplace (planID : String) : Procedure Failure Directory Unit := do
  .look fun directory => ensure ((directory.candidate planID).isSome && directory.journal planID)
    (.coded .integrityFailure "recovery-file")
  let former ← .look fun directory => .ok (directory.preserved planID)
  preserveFormer planID former
  .write (Directory.promote planID)

/-- `PromoteAtStartup` with the candidate still in its place, and `VerifyPromoted` without. -/
def promoteCandidate (planID : String) : Option Database → Procedure Failure Directory Unit
  | some candidate => do
    .look fun _ => ensure (candidate.recovers == some planID) (.coded .integrityFailure "recovery-candidate-bundle")
    promoteNoReplace planID
  | none => .look fun directory => ensure ((directory.preserved planID).isSome &&
      directory.active.any fun active => active.recovers == some planID) (.coded .integrityFailure "recovery-file")

/-- `CandidateManager.PromoteAtStartup`. -/
def promoteAtStartup (planID : String) : Procedure Failure Directory Unit := do
  .look fun directory => ensure (directory.journal planID) (.coded .integrityFailure "recovery-file")
  let candidate ← .look fun directory => .ok (directory.candidate planID)
  promoteCandidate planID candidate

/-- `openStore` opens an existing file only. -/
def openStore : Procedure Failure Directory Database :=
  .look fun directory => require directory.active (.coded .integrityFailure "database-filesystem")

def promotePending (authority : Database) : Option PendingCandidate → Procedure Failure Directory Database
  | none => pure authority
  | some pending => if pending.replacement then pure authority else do
    promoteAtStartup pending.planID
    openStore

def openAuthorityWithPromotion : Procedure Failure Directory Database := do
  let authority ← openStore
  let pending ← .look fun _ => authority.pending
  promotePending authority pending

/-! ### The three states of a promotion -/

section Promotion

variable (planID : String) (former promoted : Database)

/-- A candidate is pending in the database at the active path, and nothing is moved yet. -/
structure Staged (directory : Directory) : Prop where
  active : directory.active = some former
  pending : former.pending = .ok (some ⟨planID, false⟩)
  candidate : directory.candidate planID = some promoted
  recovers : promoted.recovers = some planID
  preserved : directory.preserved planID = none
  journal : directory.journal planID = true

structure Halfway (directory : Directory) : Prop where
  active : directory.active = none
  candidate : directory.candidate planID = some promoted
  preserved : directory.preserved planID = some former

structure Exchanged (directory : Directory) : Prop where
  active : directory.active = some promoted
  recovers : promoted.recovers = some planID
  candidate : directory.candidate planID = none
  preserved : directory.preserved planID = some former
  journal : directory.journal planID = true

/-- Whom a crash should leave in authority: the former database until it is moved away. -/
def Directory.due (directory : Directory) : Database :=
  if (directory.preserved planID).isNone then former else promoted

def Settled : Prop :=
  promoted.pending = .ok none ∨ ∃ pending, promoted.pending = .ok (some pending) ∧
    (pending.replacement = true ∨ pending.planID = planID)

end Promotion

variable {planID : String} {former promoted : Database} {directory : Directory}

theorem Staged.opens (staged : Staged planID former promoted directory) :
    ∃ halfway exchanged, openAuthorityWithPromotion directory = ⟨[halfway, exchanged], .ok promoted, exchanged⟩ ∧
      Halfway planID former promoted halfway ∧ Exchanged planID former promoted exchanged := by
  refine ⟨{ directory with
      active := none
      preserved := fun name => if name = planID then some former else directory.preserved name }, { directory with
      active := some promoted
      candidate := fun name => if name = planID then none else directory.candidate name
      preserved := fun name => if name = planID then some former else directory.preserved name }, ?_,
    ⟨rfl, staged.candidate, if_pos rfl⟩, ⟨rfl, staged.recovers, if_pos rfl, if_pos rfl, staged.journal⟩⟩
  simp [openAuthorityWithPromotion, openStore, promotePending, promoteAtStartup, promoteCandidate, promoteNoReplace,
    preserveFormer, Directory.preserve, Directory.promote, Procedure.bind_assoc, Procedure.look_bind, Procedure.write_bind,
    Procedure.look, require, ensure, staged.active, staged.pending, staged.candidate, staged.recovers, staged.preserved,
    staged.journal]

theorem Halfway.fails (halfway : Halfway planID former promoted directory) :
    openAuthorityWithPromotion directory = ⟨[], .error (.coded .integrityFailure "database-filesystem"), directory⟩ := by
  simp only [openAuthorityWithPromotion, openStore, Procedure.look_bind, halfway.active, require]

theorem Exchanged.opens (exchanged : Exchanged planID former promoted directory) (settled : Settled planID promoted) :
    openAuthorityWithPromotion directory = ⟨[], .ok promoted, directory⟩ := by
  rcases settled with none | ⟨pending, found, leads⟩
  · simp [openAuthorityWithPromotion, openStore, promotePending, Procedure.look_bind, Procedure.pure_apply, require,
      exchanged.active, none]
  · by_cases replacement : pending.replacement = true
    · simp [openAuthorityWithPromotion, openStore, promotePending, Procedure.look_bind, Procedure.pure_apply, require,
        exchanged.active, found, replacement]
    · have same := leads.resolve_left replacement
      simp [openAuthorityWithPromotion, openStore, promotePending, promoteAtStartup, promoteCandidate, Procedure.bind_assoc,
        Procedure.look_bind, Procedure.look, require, ensure, exchanged.active, exchanged.recovers, exchanged.candidate,
        exchanged.preserved, exchanged.journal, found, same, replacement]

inductive Standing (planID : String) (former promoted : Database) (directory : Directory) : Prop
  | staged (staged : Staged planID former promoted directory)
  | halfway (halfway : Halfway planID former promoted directory)
  | exchanged (exchanged : Exchanged planID former promoted directory)

theorem standing_keeps (settled : Settled planID promoted) :
    Procedure.Keeps (Standing planID former promoted) openAuthorityWithPromotion := by
  intro directory standing
  cases standing with
  | staged staged =>
    obtain ⟨halfway, exchanged, opens, first, second⟩ := staged.opens
    rw [opens]
    exact ⟨by simpa using ⟨.halfway first, .exchanged second⟩, .exchanged second⟩
  | halfway halfway =>
    rw [halfway.fails]
    exact ⟨by simp, .halfway halfway⟩
  | exchanged exchanged =>
    rw [exchanged.opens settled]
    exact ⟨by simp, .exchanged exchanged⟩

structure Keeping (planID : String) (former promoted : Database) (directory : Directory) : Prop where
  former : directory.active = some former ∨ directory.preserved planID = some former
  promoted : directory.candidate planID = some promoted ∨ directory.active = some promoted

/-- After any number of starts, each cut off anywhere or not at all, both databases are
there. One more start returns the database that is due exactly if both renames are done:
before the first it promotes at once, and between the two it opens nothing. -/
theorem promotion_restarts_iff (staged : Staged planID former promoted directory) (settled : Settled planID promoted)
    (distinct : former ≠ promoted) (starts : List (Option Nat)) :
    let left := execute openAuthorityWithPromotion.cutOff directory starts
    Keeping planID former promoted left ∧
      ((openAuthorityWithPromotion left).answer = .ok (left.due planID former promoted) ↔ left.candidate planID = none) ∧
      ((openAuthorityWithPromotion left).answer = .ok promoted ↔ left.active.isSome = true) := by
  intro left
  have standing : Standing planID former promoted left :=
    execute_invariant (.staged staged) fun _ crash standing => (standing_keeps settled).cutOff standing crash
  cases standing with
  | staged staged =>
    obtain ⟨_, _, opens, _⟩ := staged.opens
    refine ⟨⟨.inl staged.active, .inl staged.candidate⟩, ?_, ?_⟩
    · simp [opens, Directory.due, staged.preserved, staged.candidate, distinct.symm]
    · simp [opens, staged.active]
  | halfway halfway =>
    refine ⟨⟨.inr halfway.preserved, .inl halfway.candidate⟩, ?_, ?_⟩
    · simp [halfway.fails, halfway.candidate]
    · simp [halfway.fails, halfway.active]
  | exchanged exchanged =>
    refine ⟨⟨.inr exchanged.preserved, .inr exchanged.active⟩, ?_, ?_⟩
    · simp [exchanged.opens settled, Directory.due, exchanged.preserved, exchanged.candidate]
    · simp [exchanged.opens settled, exchanged.active]

def formerDatabase : Database := ⟨"instance-former", none, .ok (some ⟨"plan-restore", false⟩)⟩

def recoveredDatabase : Database := ⟨"instance-recovered", some "plan-restore", .ok none⟩

def stagedDirectory : Directory :=
  ⟨some formerDatabase, fun name => if name = "plan-restore" then some recoveredDatabase else none, fun _ => none,
    fun name => name == "plan-restore"⟩

theorem stagedDirectory_staged : Staged "plan-restore" formerDatabase recoveredDatabase stagedDirectory :=
  ⟨rfl, rfl, rfl, rfl, rfl, rfl⟩

theorem cut_off_after_renames_opens :
    (openAuthorityWithPromotion (openAuthorityWithPromotion.cutOff stagedDirectory (some 2))).answer = .ok recoveredDatabase :=
  (promotion_restarts_iff stagedDirectory_staged (.inl rfl) (by decide) [some 2]).2.1.mpr rfl

/-- A start that stops between the two renames leaves no file to read the record from,
and the starts after it change nothing. -/
theorem cut_off_between_renames_never_opens :
    let left := openAuthorityWithPromotion.cutOff stagedDirectory (some 1)
    (openAuthorityWithPromotion left).answer = .error (.coded .integrityFailure "database-filesystem") ∧
      (openAuthorityWithPromotion left).written.length = 0 ∧
      left.due "plan-restore" formerDatabase recoveredDatabase = recoveredDatabase ∧
      (openAuthorityWithPromotion stagedDirectory).answer = .ok recoveredDatabase := by
  decide +kernel

end VskLabs.Recovery

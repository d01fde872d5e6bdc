import VskLabs.Recovery.Restores

/-! Resumption of a restore run. The first durable act of a run claims the receipt that
its immutable plan names, so a later run of the plan goes on only where that claim is
not made yet. -/

namespace VskLabs.Recovery
open Library

variable {restores later : Restores} {request : RunRequest} {world : World} {plan : RestorePlan}
  {binding : RestoreBinding} {expected : Expected} {planID : String} {reached : RestoreStatus}

theorem status_append (row : RestoreTransition) :
    ({ restores with transitions := restores.transitions ++ [row] } : Restores).status row.planID = row.target := by
  simp [Restores.status]

theorem status_of_appendTransition {row : RestoreTransition} (done : restores.appendTransition row = .ok later) :
    later.status row.planID = row.target := by
  simp only [Restores.appendTransition, peel] at done
  obtain ⟨_, _, _, _, _, _, _, _, done⟩ := done
  split at done
  · simp only [peel, checks] at done
    obtain ⟨_, ⟨there, _⟩, rfl⟩ := done
    exact there
  · simp only [peel] at done
    obtain ⟨_, _, rfl⟩ := done
    exact status_append row

theorem status_of_transitionRestore {source target : RestoreStatus} {evidence : String}
    (answered : (transitionRestore binding expected source target evidence world).answer = .ok reached) :
    (transitionRestore binding expected source target evidence world).final.restores.status binding.planID = reached := by
  obtain ⟨_, moved, same, final⟩ := Procedure.bind_answered answered
  rw [transitionRestore, final]
  cases same
  obtain ⟨after, changed, written⟩ := Procedure.write_answered moved
  change (transact _ world).final.restores.status binding.planID = _
  rw [transact, written]
  obtain ⟨restores, done, same⟩ := bind_eq_ok.mp changed
  cases pure_eq_ok.mp same
  exact status_of_appendTransition done

theorem status_of_movedFrom {status source : RestoreStatus} {move : Procedure Failure World RestoreStatus}
    (current : world.restores.status planID = status)
    (moves : (move world).answer = .ok reached → (move world).final.restores.status planID = reached)
    (answered : (status.movedFrom source move world).answer = .ok reached) :
    (status.movedFrom source move world).final.restores.status planID = reached := by
  unfold RestoreStatus.movedFrom at answered ⊢
  split at answered
  next at_source =>
    rw [if_pos at_source]
    exact moves answered
  next elsewhere =>
    rw [if_neg elsewhere]
    cases answered
    exact current

theorem status_of_proceed {result : RestoreBinding} (answered : (proceed plan binding expected world).answer = .ok result) :
    (proceed plan binding expected world).final.restores.status binding.planID = .verificationRequired := by
  unfold proceed at answered ⊢
  obtain ⟨_, _, answered, final⟩ := Procedure.bind_answered answered
  rw [final]
  obtain ⟨status, read, answered, final⟩ := Procedure.bind_answered answered
  rw [final]
  cases read
  obtain ⟨_, answer, answered, final⟩ := Procedure.bind_answered answered
  rw [final]
  have atFenced := status_of_movedFrom rfl status_of_transitionRestore answer
  obtain ⟨_, answer, answered, final⟩ := Procedure.bind_answered answered
  rw [final]
  have atRestored := status_of_movedFrom atFenced (fun answered => by
    obtain ⟨_, _, moved, final⟩ := Procedure.bind_answered answered
    rw [final]
    exact status_of_transitionRestore moved) answer
  obtain ⟨last, answer, answered, final⟩ := Procedure.bind_answered answered
  rw [final]
  have atLast := status_of_movedFrom atRestored status_of_transitionRestore answer
  obtain ⟨_, checked, _, final⟩ := Procedure.bind_answered answered
  rw [final]
  have verified : last = .verificationRequired := by simpa [Procedure.look] using checked
  exact atLast.trans verified

theorem status_of_run (answered : (run request world).answer = .ok binding) :
    (run request world).final.restores.status request.binding.planID = .verificationRequired := by
  obtain ⟨plan, qualified, answered, final⟩ := Procedure.bind_answered answered
  rw [run, final]
  obtain ⟨_, _, answered, final⟩ := Procedure.bind_answered answered
  rw [final, (qualify_eq_ok qualified).2]
  exact status_of_proceed answered

/-! ### The receipt -/

theorem run_refused (claimed : request.binding.recoveryReceiptID ∈ world.receipts) (result : RestoreBinding) :
    (run request world).answer ≠ .ok result := by
  intro answered
  obtain ⟨plan, qualified, answered, _⟩ := Procedure.bind_answered answered
  obtain ⟨_, consumed, _⟩ := Procedure.bind_answered answered
  obtain ⟨_, written, _⟩ := Procedure.bind_answered consumed
  obtain ⟨after, changed, _⟩ := Procedure.write_answered written
  obtain ⟨_, unclaimed, _⟩ := bind_eq_ok.mp changed
  rw [← (qualify_eq_ok qualified).2] at unclaimed
  simp [Procedure.look, claimed] at unclaimed

theorem keeps_claimed (receiptID planID : String) :
    (∀ before after : World, receiptID ∈ before.receipts → before.Files after → receiptID ∈ after.receipts) ∧
      ∀ (before : World) (restores : Restores), receiptID ∈ before.receipts → before.restores.Step planID restores →
        receiptID ∈ ({ before with restores := restores } : World).receipts :=
  ⟨fun _ _ claimed files => files.receipts claimed, fun _ _ claimed _ => claimed⟩

theorem claimReceipt_claims {receiptID : String} {done : Unit} (answered : (claimReceipt receiptID world).answer = .ok done) :
    (claimReceipt receiptID world).written = [(claimReceipt receiptID world).final] ∧
      receiptID ∈ (claimReceipt receiptID world).final.receipts := by
  obtain ⟨after, changed, written⟩ := Procedure.write_answered answered
  rw [claimReceipt, written]
  simp only [peel] at changed
  obtain ⟨_, _, rfl⟩ := changed
  exact ⟨rfl, by simp⟩

theorem consume_claims (world : World) (receiptID challengeID : String) :
    (∀ after ∈ (consume receiptID challengeID world).written, receiptID ∈ after.receipts) ∧
      ∀ done, (consume receiptID challengeID world).answer = .ok done →
        receiptID ∈ (consume receiptID challengeID world).final.receipts := by
  unfold consume
  cases answered : (claimReceipt receiptID world).answer with
  | error failure =>
    rw [Procedure.bind_error answered, show (claimReceipt receiptID world).written = [] from Procedure.write_refused answered]
    exact ⟨by simp, fun _ impossible => by cases impossible⟩
  | ok done =>
    obtain ⟨only, claimed⟩ := claimReceipt_claims answered
    -- The second marker is claimed after the first and keeps it.
    have kept := keeps_claimChallenge (keeps_claimed receiptID receiptID).1 challengeID _ claimed
    rw [Procedure.bind_ok answered, only]
    exact ⟨by simpa using ⟨claimed, kept.1⟩, fun _ _ => kept.2⟩

theorem written_claimed {after : World} (written : after ∈ (run request world).written) :
    request.binding.recoveryReceiptID ∈ after.receipts := by
  obtain ⟨files, stored⟩ := keeps_claimed request.binding.recoveryReceiptID request.binding.planID
  unfold run at written
  cases qualified : qualify request world with
  | error failure =>
    rw [Procedure.look_bind, qualified] at written
    cases written
  | ok plan =>
    have same := (qualify_eq_ok qualified).2
    rw [Procedure.look_bind, qualified] at written
    simp only [← same] at written
    obtain ⟨early, final⟩ :=
      consume_claims world request.binding.recoveryReceiptID request.binding.recoveryChallengeID
    cases answered : (consume request.binding.recoveryReceiptID request.binding.recoveryChallengeID world).answer with
    | error failure =>
      rw [Procedure.bind_error answered] at written
      exact early after written
    | ok done =>
      rw [Procedure.bind_ok answered] at written
      rcases List.mem_append.mp written with first | late
      · exact early after first
      · have on : plan.planID = request.binding.planID := by rw [RestorePlan.planID, ← same]
        have kept := keeps_proceed files stored plan
          { request.binding with humanAcknowledgementID := request.humanAcknowledgementID } request.expected on rfl _
          (final done answered)
        exact kept.1 after late

/-- A later run of the request ends where the first one, uninterrupted, would have ended. -/
structure Resumes (request : RunRequest) (world after : World) : Prop where
  answer : (run request after).answer = (run request world).answer
  status : (run request after).final.restores.status request.binding.planID = .verificationRequired
  candidate : (run request after).final.restores.candidates.find? request.binding.planID =
    (run request world).final.restores.candidates.find? request.binding.planID

/-- A run that was cut off is taken up again, with the answer it would have had, exactly if
it had not yet claimed its receipt. -/
theorem run_resumes_iff (done : (run request world).answer = .ok binding) {after : World}
    (crashed : after ∈ (run request).left world) :
    Resumes request world after ↔ request.binding.recoveryReceiptID ∉ after.receipts := by
  constructor
  · intro resumed claimed
    exact run_refused claimed binding (resumed.answer.trans done)
  · intro unclaimed
    rcases List.mem_cons.mp crashed with rfl | written
    · exact ⟨rfl, status_of_run done, rfl⟩
    · exact absurd (written_claimed written) unclaimed

/-! ### Two approved plans -/

def firstPlan : RestorePlan :=
  ⟨{ planned with humanAcknowledgementID := "pending-human-acknowledgement" }, 0, "sha256:database", "sha256:journal",
    "sha256:bundle"⟩

def secondPlan : RestorePlan where
  binding := { firstPlan.binding with
    planID := "plan-second"
    planDigest := "sha256:plan-second"
    candidateDigest := "sha256:candidate-second"
    recoveryReceiptID := "receipt-second"
    recoveryChallengeID := "challenge-second" }
  recoveryEpoch := 0
  databaseDigest := "sha256:database"
  journalDigest := "sha256:journal-second"
  bundleDigest := "sha256:bundle-second"

def approved : World where
  restores := {
    system := ⟨"instance-former", 7, 0, .ready⟩
    plans := ⟨[firstPlan, secondPlan], by decide⟩
    acknowledgements := ⟨[⟨"acknowledgement", "plan-restore", true⟩, ⟨"acknowledgement-second", "plan-second", true⟩],
      by decide⟩
    sessions := Table.empty
    transitions := []
    candidates := Table.empty }
  receipts := []
  challenges := []
  candidateFiles := []
  preserved := []
  journals := []

def firstRun : RunRequest := ⟨firstPlan.binding, "acknowledgement", ⟨7, 0⟩, true⟩

def secondRun : RunRequest := ⟨secondPlan.binding, "acknowledgement-second", ⟨7, 0⟩, true⟩

theorem unclaimed_run_resumes : Resumes firstRun approved approved :=
  (run_resumes_iff (show (run firstRun approved).answer = .ok planned by decide +kernel) (.head _)).mpr
    (by decide)

/-- The run makes eleven writes; a crash after any of them ends the plan. -/
theorem interrupted_run_is_refused :
    (run firstRun approved).answer = .ok planned ∧ (run firstRun approved).written.length = 11 ∧
      ∀ after ∈ (run firstRun approved).written, ¬ Resumes firstRun approved after := by
  have answered : (run firstRun approved).answer = .ok planned := by decide +kernel
  refine ⟨answered, by decide +kernel, fun after written resumed => ?_⟩
  exact run_refused (written_claimed written) planned (resumed.answer.trans answered)

end VskLabs.Recovery

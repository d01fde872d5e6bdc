import VskLabs.Library.Crash
import VskLabs.Recovery.Authority

/-! Restore sessions: the tables of `RestoreRepository` and the run of a restore plan,
which ends with a candidate that the next start of the server may promote. -/

namespace VskLabs.Recovery
open Library

inductive RestoreStatus where
  | planned | fenced | restoring | verificationRequired | verified | failed | uncertain
  deriving DecidableEq

/-- `RevisionToken`. -/
structure Expected where
  (stateRevision recoveryEpoch : Int)
  deriving DecidableEq

/-- A committed plan of a `recovery.restore` declaration with its qualification. The
digests are those of the snapshot, the journal and the bundle that belong to the plan. -/
structure RestorePlan where
  binding : RestoreBinding
  recoveryEpoch : Int
  (databaseDigest journalDigest bundleDigest : String)

def RestorePlan.planID (plan : RestorePlan) : String := plan.binding.planID

/-- A row of `acknowledgement_requests`. -/
structure Acknowledged where
  (acknowledgementID planID : String)
  approved : Bool

/-- A row of `restore_sessions`. -/
structure RestoreSession where
  binding : RestoreBinding
  stateRevision : Int

def RestoreSession.planID (session : RestoreSession) : String := session.binding.planID

/-- A row of `restore_transitions`. -/
structure RestoreTransition where
  planID : String
  (source target : RestoreStatus)
  (planDigest evidenceDigest : String)
  expected : Expected
  deriving DecidableEq

/-- A row of `recovery_candidates`. -/
structure RecoveryCandidate where
  (candidateID planID candidateDigest fenceSetDigest auditDecisionDigest databaseDigest : String)
  (journalDigest bundleDigest : String)
  expected : Expected
  deriving DecidableEq

structure Restores where
  system : SystemMeta
  plans : Table RestorePlan.planID
  acknowledgements : Table Acknowledged.acknowledgementID
  sessions : Table RestoreSession.planID
  transitions : List RestoreTransition
  candidates : Table RecoveryCandidate.planID

def allowedRestoreTransition : RestoreStatus → RestoreStatus → Bool
  | .planned, .failed | .fenced, .failed | .restoring, .failed | .verificationRequired, .failed
  | .planned, .uncertain | .fenced, .uncertain | .restoring, .uncertain | .verificationRequired, .uncertain
  | .planned, .fenced | .fenced, .restoring | .restoring, .verificationRequired
  | .verificationRequired, .verified => true
  | _, _ => false

namespace Restores

/-- The target of the last transition, `planned` before the first. -/
def status (restores : Restores) (planID : String) : RestoreStatus :=
  (((restores.transitions.filter fun row => row.planID == planID).getLast?).map RestoreTransition.target).getD .planned

def compareRestoreState (restores : Restores) (expected : Expected) (instanceID : String) : Except Failure Unit :=
  ensure (restores.system == ⟨instanceID, expected.stateRevision, expected.recoveryEpoch, .ready⟩)
    (.coded .stateConflict "restore-authority")

/-- `RestoreRepository.CreatePlan`. A replay of the stored binding changes nothing. -/
def createPlan (restores : Restores) (binding : RestoreBinding) (expected : Expected) : Except Failure Restores := do
  ensure (validRestoreBinding binding && decide (0 ≤ expected.stateRevision) && decide (0 ≤ expected.recoveryEpoch))
    (.coded .inputInvalid "restore-plan")
  restores.compareRestoreState expected binding.priorInstanceID
  let plan ← require ((restores.plans.find? binding.planID).filter fun plan =>
    plan.recoveryEpoch == expected.recoveryEpoch) (.coded .prerequisiteBlocked "restore-plan")
  let acknowledged ← require ((restores.acknowledgements.find? binding.humanAcknowledgementID).filter fun row =>
    row.planID == binding.planID) (.coded .prerequisiteBlocked "restore-plan")
  ensure (plan.binding.planDigest == binding.planDigest && acknowledged.approved) (.coded .stateConflict "restore-plan")
  let taken := restores.sessions.rows.any fun row => row.binding.planDigest == binding.planDigest ||
    row.binding.humanAcknowledgementID == binding.humanAcknowledgementID
  match if taken then none else restores.sessions.insert? ⟨binding, expected.stateRevision⟩ with
  | some sessions => return { restores with sessions }
  | none =>
    ensure ((restores.sessions.find? binding.planID).any fun row => row.binding == binding)
      (.coded .stateConflict "restore-plan")
    return restores

/-- `RestoreRepository.AppendTransition`; transitions are unique in plan and source. -/
def appendTransition (restores : Restores) (row : RestoreTransition) : Except Failure Restores := do
  ensure (row.planID != "" && allowedRestoreTransition row.source row.target) (.coded .inputInvalid "restore-transition")
  let session ← require (restores.sessions.find? row.planID) (.coded .resourceNotFound "restore-session")
  restores.compareRestoreState row.expected session.binding.priorInstanceID
  ensure (session.binding.planDigest == row.planDigest) (.coded .stateConflict "restore-transition")
  if restores.status row.planID != row.source then
    -- The stored row is compared without its target.
    ensure (restores.status row.planID == row.target &&
      restores.transitions.any fun other => { other with target := row.target } == row)
      (.coded .stateConflict "restore-transition")
    return restores
  ensure (!restores.transitions.any fun other => other.planID == row.planID && other.source == row.source)
    (.coded .stateConflict "restore-transition")
  return { restores with transitions := restores.transitions ++ [row] }

/-- `RestoreRepository.BindCandidate`. -/
def bindCandidate (restores : Restores) (row : RecoveryCandidate) : Except Failure Restores := do
  ensure (row.candidateID != "" && row.planID != "") (.coded .inputInvalid "recovery-candidate")
  let session ← require (restores.sessions.find? row.planID) (.coded .resourceNotFound "restore-session")
  restores.compareRestoreState row.expected session.binding.priorInstanceID
  ensure (session.binding.candidateDigest == row.candidateDigest && session.binding.fenceSetDigest == row.fenceSetDigest &&
    session.binding.auditDecisionDigest == row.auditDecisionDigest) (.coded .stateConflict "recovery-candidate")
  let taken := restores.candidates.rows.any fun other =>
    other.candidateID == row.candidateID || other.candidateDigest == row.candidateDigest
  match if taken then none else restores.candidates.insert? row with
  | some candidates => return { restores with candidates }
  | none =>
    ensure ((restores.candidates.find? row.planID).any fun other => { other with candidateID := row.candidateID } == row)
      (.coded .stateConflict "recovery-candidate")
    return restores

/-- The candidates `PendingPromotion` selects. -/
def pending (restores : Restores) : List RecoveryCandidate :=
  restores.candidates.rows.filter fun row =>
    (restores.sessions.find? row.planID).isSome && restores.status row.planID == .verificationRequired

/-- `RestoreRepository.PendingPromotion`. -/
def pendingPromotion (restores : Restores) : Except Failure (Option RecoveryCandidate) :=
  match restores.pending with
  | [] => .ok none
  | [candidate] => .ok (some candidate)
  | _ => .error (.coded .integrityFailure "recovery-candidate")

end Restores

/-! ### The run of a plan -/

inductive CandidateFile where
  | restored | prepared | bundled

/-- The database of the server, the markers of the receipt directory, and the files
beside the database, all durable. -/
structure World where
  restores : Restores
  (receipts challenges : List String)
  candidateFiles : List (String × CandidateFile)
  (preserved journals : List String)

/-- `RestoreRunRequest`. `binding` stands for the fields `runMatchesBinding` compares;
`evidence` says whether the source, the continuity and the fences verify. -/
structure RunRequest where
  binding : RestoreBinding
  humanAcknowledgementID : String
  expected : Expected
  evidence : Bool

def transact (change : Restores → Except Failure Restores) : Procedure Failure World Unit :=
  .write fun world => do
    let restores ← change world.restores
    return { world with restores }

/-- `claimReceiptMarker`: a marker is created exclusively and never removed. -/
def claimReceipt (receiptID : String) : Procedure Failure World Unit := .write fun world => do
  ensure (!world.receipts.contains receiptID) .unclassified
  return { world with receipts := receiptID :: world.receipts }

def claimChallenge (challengeID : String) : Procedure Failure World Unit := .write fun world => do
  ensure (!world.challenges.contains challengeID) .unclassified
  return { world with challenges := challengeID :: world.challenges }

/-- `fileReceiptStore.Consume`. -/
def consume (receiptID challengeID : String) : Procedure Failure World Unit := do
  claimReceipt receiptID
  claimChallenge challengeID

/-- `CandidateManager.Stage` behind `StageRestoreCandidate`. -/
def stage (plan : RestorePlan) (expected : Expected) : Procedure Failure World Unit := do
  match ← .look fun world => .ok (world.restores.candidates.find? plan.planID) with
  | some candidate =>
    .look fun _ => ensure (candidate.candidateDigest == plan.binding.candidateDigest &&
      candidate.fenceSetDigest == plan.binding.fenceSetDigest &&
      candidate.auditDecisionDigest == plan.binding.auditDecisionDigest && candidate.expected == expected)
      (.coded .stateConflict "recovery-candidate")
  | none =>
    .look fun world => ensure (!world.candidateFiles.any (fun file => file.1 == plan.planID) &&
      !world.preserved.contains plan.planID && !world.journals.contains plan.planID)
      (.coded .stateConflict "recovery-candidate")
    .write fun world => .ok { world with candidateFiles := (plan.planID, .restored) :: world.candidateFiles }
    .write fun world => .ok { world with candidateFiles := (plan.planID, .prepared) :: world.candidateFiles }
    .write fun world => .ok { world with candidateFiles := (plan.planID, .bundled) :: world.candidateFiles }
    .write fun world => do
      ensure (!world.journals.contains plan.planID) (.coded .stateConflict "recovery-journal")
      return { world with journals := plan.planID :: world.journals }
    transact fun restores => restores.bindCandidate ⟨plan.planID, plan.planID, plan.binding.candidateDigest,
      plan.binding.fenceSetDigest, plan.binding.auditDecisionDigest, plan.databaseDigest,
      plan.journalDigest, plan.bundleDigest, expected⟩

/-- `TransitionRestore`, with the status it leads to. -/
def transitionRestore (binding : RestoreBinding) (expected : Expected) (source target : RestoreStatus) (evidence : String) :
    Procedure Failure World RestoreStatus := do
  transact fun restores => restores.appendTransition ⟨binding.planID, source, target, binding.planDigest, evidence, expected⟩
  return target

/-- The branch of `Run` that moves a session on from a status. -/
def RestoreStatus.movedFrom (status source : RestoreStatus) (move : Procedure Failure World RestoreStatus) :
    Procedure Failure World RestoreStatus :=
  if status == source then move else pure status

/-- What `Run` does after it has qualified the request. -/
def proceed (plan : RestorePlan) (binding : RestoreBinding) (expected : Expected) :
    Procedure Failure World RestoreBinding := do
  transact fun restores => restores.createPlan binding expected
  let status ← .look fun world => .ok (world.restores.status binding.planID)
  let status ← status.movedFrom .planned (transitionRestore binding expected .planned .fenced binding.fenceSetDigest)
  let status ← status.movedFrom .fenced do
    stage plan expected
    transitionRestore binding expected .fenced .restoring binding.candidateDigest
  let status ← status.movedFrom .restoring
    (transitionRestore binding expected .restoring .verificationRequired binding.candidateDigest)
  .look fun _ => ensure (status == .verificationRequired) (.coded .stateConflict "restore-run")
  return binding

/-- What `Run` checks before it consumes the receipt of the plan. -/
def qualify (request : RunRequest) (world : World) : Except Failure RestorePlan := do
  let plan ← require (world.restores.plans.find? request.binding.planID) (.coded .planStale "restore-run")
  ensure (request.humanAcknowledgementID != "" && request.humanAcknowledgementID != "pending-human-acknowledgement" &&
    request.binding == plan.binding) (.coded .planStale "restore-run")
  ensure request.evidence (.coded .prerequisiteBlocked "restore-qualification")
  return plan

theorem qualify_eq_ok {request : RunRequest} {world : World} {plan : RestorePlan} (done : qualify request world = .ok plan) :
    world.restores.plans.find? request.binding.planID = some plan ∧ request.binding = plan.binding := by
  simp only [qualify, peel, checks] at done
  obtain ⟨_, found, _, ⟨_, same⟩, _, _, rfl⟩ := done
  exact ⟨found, same⟩

/-- `OperationsService.Run`, with the exact fence verifier. -/
def run (request : RunRequest) : Procedure Failure World RestoreBinding := do
  let plan ← .look (qualify request)
  consume plan.binding.recoveryReceiptID plan.binding.recoveryChallengeID
  proceed plan { plan.binding with humanAcknowledgementID := request.humanAcknowledgementID } request.expected

/-! ### What the writes of a run keep -/

inductive Restores.Step (planID : String) (before after : Restores) : Prop
  | created {binding expected} (concerns : binding.planID = planID) (done : before.createPlan binding expected = .ok after)
  | moved {row} (concerns : row.planID = planID) (done : before.appendTransition row = .ok after)
  | bound {row} (concerns : row.planID = planID) (done : before.bindCandidate row = .ok after)

/-- The files of `after` are those of `before` and more, the database is the same. -/
structure World.Files (before after : World) : Prop where
  restores : after.restores = before.restores
  receipts : before.receipts ⊆ after.receipts

section Keeps

variable {property : World → Prop} {planID : String}

variable (files : ∀ world after, property world → world.Files after → property after)
  (stored : ∀ world restores, property world → world.restores.Step planID restores →
    property { world with restores := restores })

include stored in
theorem keeps_transact {change : Restores → Except Failure Restores}
    (calls : ∀ before after, change before = .ok after → before.Step planID after) :
    Procedure.Keeps property (transact change) := by
  refine Procedure.keeps_write fun world after holds changed => ?_
  obtain ⟨restores, done, same⟩ := bind_eq_ok.mp changed
  cases pure_eq_ok.mp same
  exact stored world restores holds (calls _ _ done)

theorem keeps_movedFrom {status source : RestoreStatus} {move : Procedure Failure World RestoreStatus}
    (moves : Procedure.Keeps property move) : Procedure.Keeps property (status.movedFrom source move) := by
  unfold RestoreStatus.movedFrom
  split
  · exact moves
  · exact Procedure.keeps_pure _

include files

theorem keeps_files {change : World → Except Failure World}
    (only : ∀ world after, change world = .ok after → world.Files after) : Procedure.Keeps property (.write change) :=
  Procedure.keeps_write fun world after holds changed => files world after holds (only world after changed)

theorem keeps_claimChallenge (challengeID : String) : Procedure.Keeps property (claimChallenge challengeID) := by
  refine keeps_files files fun world after changed => ?_
  simp only [peel] at changed
  obtain ⟨_, _, rfl⟩ := changed
  exact ⟨rfl, fun _ => id⟩

theorem keeps_consume (receiptID challengeID : String) : Procedure.Keeps property (consume receiptID challengeID) := by
  refine (keeps_files files fun world after changed => ?_).bind fun _ _ _ => keeps_claimChallenge files challengeID
  simp only [peel] at changed
  obtain ⟨_, _, rfl⟩ := changed
  exact ⟨rfl, by simp⟩

include stored

theorem keeps_stage (plan : RestorePlan) (expected : Expected) (concerns : plan.planID = planID) :
    Procedure.Keeps property (stage plan expected) := by
  have grows (file : CandidateFile) : Procedure.Keeps property (.write fun world =>
      (.ok { world with candidateFiles := (plan.planID, file) :: world.candidateFiles } : Except Failure World)) := by
    refine keeps_files files fun world after changed => ?_
    cases changed
    exact ⟨rfl, fun _ => id⟩
  refine (Procedure.keeps_look _).bind fun _ candidate _ => ?_
  cases candidate with
  | some candidate => exact Procedure.keeps_look _
  | none =>
    refine (Procedure.keeps_look _).bind fun _ _ _ => (grows .restored).bind fun _ _ _ =>
      (grows .prepared).bind fun _ _ _ => (grows .bundled).bind fun _ _ _ => .bind (keeps_files files ?_) fun _ _ _ =>
      keeps_transact stored fun _ _ done => .bound concerns done
    intro world after changed
    simp only [peel] at changed
    obtain ⟨_, _, rfl⟩ := changed
    exact ⟨rfl, fun _ => id⟩

theorem keeps_proceed (plan : RestorePlan) (binding : RestoreBinding) (expected : Expected)
    (planned : plan.planID = planID) (concerns : binding.planID = planID) :
    Procedure.Keeps property (proceed plan binding expected) := by
  have moves (source target evidence) :
      Procedure.Keeps property (transitionRestore binding expected source target evidence) :=
    (keeps_transact stored fun _ _ done => .moved concerns done).bind fun _ _ _ => Procedure.keeps_pure _
  refine (keeps_transact stored fun _ _ done => .created concerns done).bind fun _ _ _ =>
    (Procedure.keeps_look _).bind fun _ status _ => .bind ?fences fun _ _ _ => .bind ?stages fun _ _ _ =>
    .bind ?verifies fun _ _ _ => (Procedure.keeps_look _).bind fun _ _ _ => Procedure.keeps_pure _
  case fences | verifies => exact keeps_movedFrom (moves _ _ _)
  case stages => exact keeps_movedFrom ((keeps_stage files stored plan expected planned).bind fun _ _ _ => moves _ _ _)

theorem keeps_run (request : RunRequest) (concerns : request.binding.planID = planID) :
    Procedure.Keeps property (run request) := by
  refine (Procedure.keeps_look _).bind fun world plan qualified => (keeps_consume files _ _).bind fun _ _ _ => ?_
  have on : plan.planID = planID := by rw [RestorePlan.planID, ← (qualify_eq_ok qualified).2, concerns]
  exact keeps_proceed files stored plan _ _ on on

end Keeps

end VskLabs.Recovery

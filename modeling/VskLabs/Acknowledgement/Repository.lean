import VskLabs.Acknowledgement.Documents

/-! The acknowledgement tables beside the run tables, and the transactions of
`AcknowledgementRepository` over both. -/

namespace VskLabs.Acknowledge
open Library

/-- A row of `acknowledgement_requests`; the columns that repeat the request
document are read from it. -/
structure RequestRow where
  acknowledgementID : String
  request : AcknowledgementRequest
  pending : Acknowledgement
  status : Standing
  createdAt : Time
  (decidedAt consumedAt : Option Time)

/-- A row of `acknowledgement_proofs`. -/
structure ProofRow where
  acknowledgementID : String
  proof : Acknowledgement

structure CreateRecord where
  request : AcknowledgementRequest
  pending : Acknowledgement
  createdAt : Time
  principalID : String

structure DecisionRecord where
  expected : AcknowledgementRequest
  outcome : Acknowledgement
  decidedAt : Time
  principalID : String

inductive Attempt where
  | candidate (action : Verdict) (binding : Binding)
  | proof (kind : String) (digest : ProofDigest) (code : Option ErrorCode)
  deriving DecidableEq

structure DenialRecord where
  (targetID correlationID : String)
  attempt : Attempt
  reason : ErrorCode
  rejectedAt : Time

inductive Key where
  | request (acknowledgementID : String)
  | decision (proof : ProofDigest)
  | consume (proof : ProofDigest)
  | denial (attempt : Attempt)
  deriving DecidableEq

inductive Digest where
  | request (request : AcknowledgementRequest)
  | decision (outcome : Acknowledgement)
  | consume (time : Time)
  | denial (reason : ErrorCode)
  deriving DecidableEq

structure KeyRow where
  key : Key
  digest : Digest

structure Authority where
  store : Store
  requests : Table RequestRow.acknowledgementID
  proofs : Table ProofRow.acknowledgementID
  keys : Table KeyRow.key

def Authority.fresh (plans : Table Plan.planID) (stateRevision recoveryEpoch : Int) : Authority :=
  ⟨.fresh plans stateRevision recoveryEpoch, .empty, .empty, .empty⟩

def expiryPrincipalID : String := "policy.acknowledgement-expiry"

/-- `executeAuditIntent` over the acknowledgement tables; `false` reports a
recorded key. -/
def executeIntent (authority : Authority) (expected : Option Binding) (key : Key) (digest : Digest)
    (business : Authority → Except Failure Authority) : Except Failure (Bool × Authority) := do
  ensure (expected.all fun binding => binding.recoveryEpoch == authority.store.recoveryEpoch)
    (.coded .recoveryEpochMismatch "database-revision")
  ensure (expected.all fun binding => binding.stateRevision == authority.store.stateRevision)
    (.coded .stateConflict "database-revision")
  match authority.keys.find? key with
  | some row =>
    ensure (row.digest == digest) (.coded .stateConflict "audit-intent-key")
    return (false, authority)
  | none =>
    let after ← business authority
    let keys ← require (after.keys.insert? ⟨key, digest⟩) constraintViolated
    return (true, { after with keys := keys })

/-- The trigger `acknowledgement_requests_terminal`. -/
def validTransition (old new : RequestRow) : Bool :=
  new.request == old.request && new.pending == old.pending && new.createdAt == old.createdAt &&
    ((old.status == .pending && new.status != .pending && old.decidedAt == none && new.decidedAt != none &&
        old.consumedAt == none && new.consumedAt == none) ||
      (old.status == .approved && new.status == .approved && new.decidedAt == old.decidedAt &&
        old.consumedAt == none && new.consumedAt != none))

/-- `UPDATE acknowledgement_requests SET ... WHERE <guard>` under its trigger. -/
def updateRequests (authority : Authority) (guard : RequestRow → Bool) (change : RequestRow → RequestRow)
    (keeps : ∀ row, (change row).acknowledgementID = row.acknowledgementID) : Except Failure Authority := do
  ensure (authority.requests.rows.all fun row => !guard row || validTransition row (change row)) constraintViolated
  return { authority with requests := authority.requests.modify guard change keeps }

namespace Repository

def validCreate (record : CreateRecord) : Bool :=
  exactRequest record.request && exactAcknowledgement record.pending && record.pending.status == .pending &&
    record.request.toBinding == record.pending.toBinding

def validDecision (record : DecisionRecord) : Bool :=
  exactRequest record.expected && exactAcknowledgement record.outcome && record.outcome.status != .pending &&
    record.expected.toBinding == record.outcome.toBinding && record.outcome.receivedAt == record.decidedAt

def get (authority : Authority) (planID : String) : Except Failure Stored := do
  ensure (planID != "") (.coded .inputInvalid "acknowledgement")
  let row ← require (authority.requests.rows.find? fun row => row.request.planID == planID)
    (.coded .resourceNotFound "acknowledgement")
  ensure (exactRequest row.request) (.coded .integrityFailure "acknowledgement-request")
  let outcome ← require
    (if row.status = .pending then some row.pending
     else (authority.proofs.find? row.acknowledgementID).map ProofRow.proof)
    (.coded .integrityFailure "acknowledgement-proof")
  ensure (exactAcknowledgement outcome && outcome.status == row.status) (.coded .integrityFailure "acknowledgement-proof")
  return ⟨row.request, outcome, row.consumedAt.isSome⟩

/-- The transaction of `Create`. -/
def create (authority : Authority) (record : CreateRecord) : Except Failure (Bool × Authority) :=
  let request := record.request
  executeIntent authority (some request.toBinding) (.request record.pending.acknowledgementID) (.request request)
    fun authority => do
      let plan ← require (authority.store.plans.find? request.planID) (.coded .planStale "plan")
      ensure (plan.binding.stateRevision == request.stateRevision && plan.binding.recoveryEpoch == request.recoveryEpoch)
        (.coded .planStale "plan")
      ensure (plan.planDigest == request.planDigest) (.coded .planStale "plan")
      -- the plan and the nonce digest are unique columns
      ensure (authority.requests.rows.all fun row =>
        row.request.planID != request.planID && row.request.nonceDigest != request.nonceDigest) constraintViolated
      let requests ← require (authority.requests.insert? ⟨record.pending.acknowledgementID, request, record.pending,
        .pending, record.createdAt, none, none⟩) constraintViolated
      return { authority with requests := requests }

/-- The transaction of `Decide`. -/
def decide (authority : Authority) (record : DecisionRecord) : Except Failure (Bool × Authority) :=
  let id := record.outcome.acknowledgementID
  executeIntent authority (some record.expected.toBinding) (.decision record.outcome.proofDigest)
    (.decision record.outcome) fun authority => do
      let row ← require (authority.requests.find? id) (.coded .stateConflict "database")
      ensure (row.request == record.expected && row.status == .pending) (.coded .planStale "acknowledgement")
      let authority ← updateRequests authority (fun row => row.acknowledgementID == id && row.status == .pending)
        (fun row => { row with status := record.outcome.status, decidedAt := some record.decidedAt }) fun _ => rfl
      -- the proof digest is a unique column
      ensure (authority.proofs.rows.all fun row => row.proof.proofDigest != record.outcome.proofDigest)
        constraintViolated
      let proofs ← require (authority.proofs.insert? ⟨id, record.outcome⟩) constraintViolated
      return { authority with proofs := proofs }

/-- The transaction of `Consume` for the row `Get` returned. -/
def consume (authority : Authority) (stored : Stored) (planID : String) (consumedAt : Time) :
    Except Failure (Bool × Authority) :=
  let available (row : RequestRow) : Bool :=
    row.request.planID == planID && row.status == .approved && row.consumedAt == none
  executeIntent authority (some stored.request.toBinding) (.consume stored.acknowledgement.proofDigest)
    (.consume consumedAt) fun authority => do
      let after ← updateRequests authority available (fun row => { row with consumedAt := some consumedAt }) fun _ => rfl
      ensure ((authority.requests.rows.filter available).length == 1) (.coded .planStale "acknowledgement-proof")
      return after

/-- `VerifyRunClaim`: exactly one queued run holds the acknowledgement. -/
def verifyRunClaim (authority : Authority) (planID acknowledgementID : String) (claimedAt : Time) :
    Except Failure Unit := do
  ensure (planID != "" && acknowledgementID != "" && !claimedAt.isZero) (.coded .inputInvalid "acknowledgement-run-claim")
  ensure ((authority.store.runs.rows.filter fun row => row.planID == planID &&
      row.run.acknowledgementID == some acknowledgementID && row.createdAt == claimedAt && row.status == .queued).length == 1)
    (.coded .authorizationDenied "acknowledgement-run-claim")

/-- `RecordDenial`: an intent with an audit event and nothing else. -/
def recordDenial (authority : Authority) (record : DenialRecord) : Except Failure (Bool × Authority) := do
  ensure (record.targetID != "" && record.correlationID != "" && !record.rejectedAt.isZero)
    (.coded .inputInvalid "acknowledgement-denial")
  executeIntent authority none (.denial record.attempt) (.denial record.reason) fun authority => return authority

end Repository

end VskLabs.Acknowledge

import VskLabs.Authorization.Targets
import VskLabs.Run.Lifecycle

/-! Acknowledgement requests, their terminal proofs and the candidates a human's
answer is reduced to. A proof digest stands for the values it is computed from. -/

namespace VskLabs

inductive Standing where
  | pending | approved | rejected | expired
  deriving DecidableEq

/-- The fields a request and its outcome share, `sameAcknowledgementBinding`. -/
structure Binding where
  (planID planDigest targetDigest reasonDigest humanID authorityID nonceDigest : String)
  (stateRevision recoveryEpoch : Int)
  expiresAt : Time
  deriving DecidableEq

structure AcknowledgementRequest extends Binding where
  extensions : List ContractExtension
  deriving DecidableEq

/-- What `proofDigest` hashes. -/
structure ProofDigest where
  binding : Binding
  status : Standing
  time : Time
  deriving DecidableEq

structure Acknowledgement extends Binding where
  acknowledgementID : String
  proofDigest : ProofDigest
  status : Standing
  receivedAt : Time
  extensions : List ContractExtension
  deriving DecidableEq

namespace Acknowledge

/-- What the functions outside this package say about texts and plans: the hash,
the id it yields for a plan and a nonce digest, and the digests a plan is sealed
with. A plan here leaves out the requests it carries; `document` is the whole of it. -/
structure Config where
  digest : String → String
  acknowledgementID : String → String → String
  targetDigest : Plan → String
  reasonDigest : Plan → String
  document : Plan → Authorization.Plan
  document_toPlan : ∀ plan, (document plan).toPlan = plan
  validators : Authorization.Validators

def Config.uniqueTargets (config : Config) (plan : Plan) : List String :=
  Authorization.uniqueTargets config.validators (config.document plan)

def Config.firstExecutionTarget (config : Config) (plan : Plan) (targetID : String) : Bool :=
  Authorization.firstExecutionTarget config.validators (config.document plan) targetID

/-- `acknowledgement.Scope`. -/
structure Scope where
  human : Principal
  (authorityID nonce : String)

inductive Verdict where
  | approve | reject
  deriving DecidableEq

def Verdict.status : Verdict → Standing
  | .approve => .approved
  | .reject => .rejected

/-- `acknowledgement.Candidate`. -/
structure Candidate where
  human : Principal
  authorityID : String
  action : Verdict
  (planID planDigest targetDigest reasonDigest nonce : String)
  (stateRevision recoveryEpoch : Int)
  (expiresAt decidedAt : Time)

/-- `acknowledgement.Stored`. -/
structure Stored where
  request : AcknowledgementRequest
  acknowledgement : Acknowledgement
  consumed : Bool

/-- `unicode.IsSpace`. -/
def isSpace (char : Char) : Bool :=
  let code := char.toNat
  (9 ≤ code && code ≤ 13) || code == 32 || code == 0x85 || code == 0xA0 || code == 0x1680 ||
    (0x2000 ≤ code && code ≤ 0x200a) || code == 0x2028 || code == 0x2029 || code == 0x202f || code == 0x205f ||
    code == 0x3000

/-- `unicode.IsControl`. -/
def isControl (char : Char) : Bool :=
  let code := char.toNat
  code < 32 || (127 ≤ code && code < 160)

def validNonce (value : String) : Bool :=
  value != "" && (bytes value).length ≤ 512 && !(value.toList.head?.any isSpace) &&
    !(value.toList.getLast?.any isSpace) && value.toList.all fun char => !isControl char

def validScope (scope : Scope) : Bool :=
  validPrincipal scope.human && effectivePrincipalKind scope.human == .human && validRunToken scope.authorityID &&
    validNonce scope.nonce

def validCandidate (candidate : Candidate) : Bool :=
  validScope ⟨candidate.human, candidate.authorityID, candidate.nonce⟩ && validRunToken candidate.planID &&
    [candidate.planDigest, candidate.targetDigest, candidate.reasonDigest].all validFingerprint &&
    0 ≤ candidate.stateRevision && 0 ≤ candidate.recoveryEpoch && !candidate.expiresAt.isZero &&
    !candidate.decidedAt.isZero

def exactBinding (binding : Binding) : Bool :=
  [binding.planID, binding.humanID, binding.authorityID].all validRunToken &&
    [binding.planDigest, binding.targetDigest, binding.reasonDigest, binding.nonceDigest].all validFingerprint &&
    0 ≤ binding.stateRevision && 0 ≤ binding.recoveryEpoch && binding.expiresAt.fourDigitYear

def exactRequest (request : AcknowledgementRequest) : Bool :=
  exactBinding request.toBinding && validExtensions request.extensions

def exactAcknowledgement (outcome : Acknowledgement) : Bool :=
  exactBinding outcome.toBinding && validRunToken outcome.acknowledgementID && outcome.receivedAt.fourDigitYear &&
    validExtensions outcome.extensions

def proofDigest (request : AcknowledgementRequest) (status : Standing) (time : Time) : ProofDigest :=
  ⟨request.toBinding, status, time⟩

def outcomeFrom (request : AcknowledgementRequest) (acknowledgementID : String) (status : Standing) (receivedAt : Time)
    (proof : ProofDigest) : Acknowledgement where
  toBinding := request.toBinding
  acknowledgementID := acknowledgementID
  proofDigest := proof
  status := status
  receivedAt := receivedAt
  extensions := []

def Candidate.binding (config : Config) (candidate : Candidate) : Binding where
  planID := candidate.planID
  planDigest := candidate.planDigest
  targetDigest := candidate.targetDigest
  reasonDigest := candidate.reasonDigest
  humanID := candidate.human.id
  authorityID := candidate.authorityID
  nonceDigest := config.digest candidate.nonce
  stateRevision := candidate.stateRevision
  recoveryEpoch := candidate.recoveryEpoch
  expiresAt := candidate.expiresAt

def candidateMatchesRequest (config : Config) (candidate : Candidate) (request : AcknowledgementRequest) : Bool :=
  candidate.binding config == request.toBinding

def candidateMismatch (candidate : Candidate) (request : AcknowledgementRequest) : ErrorCode :=
  if candidate.recoveryEpoch != request.recoveryEpoch then .recoveryEpochMismatch
  else if candidate.stateRevision != request.stateRevision then .planStale
  else .authorizationDenied

/-- The request and its proof are about this plan, and the proof digest is the
one the service computes. -/
def proofMatchesPlan (config : Config) (stored : Stored) (plan : Plan) : Bool :=
  let request := stored.request
  let proof := stored.acknowledgement
  request.planID == plan.planID && request.planDigest == plan.planDigest &&
    request.targetDigest == config.targetDigest plan && request.reasonDigest == config.reasonDigest plan &&
    request.stateRevision == plan.binding.stateRevision && request.recoveryEpoch == plan.binding.recoveryEpoch &&
    proof.toBinding == request.toBinding && proof.proofDigest == proofDigest request proof.status proof.receivedAt

end Acknowledge

end VskLabs

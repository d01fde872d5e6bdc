import VskLabs.Contracts.Documents
import Mathlib.Data.List.Sort

/-! Contract checks on documents. The patterns are those of the generated rule
table; fields with an inductive type satisfy their enumeration by construction. -/

namespace VskLabs

def bytes (value : String) : List UInt8 := value.toByteArray.data.toList

def between (low high : Char) (byte : UInt8) : Bool :=
  decide (low.toNat ≤ byte.toNat) && decide (byte.toNat ≤ high.toNat)

def lowercase (byte : UInt8) : Bool := between 'a' 'z' byte

def uppercase (byte : UInt8) : Bool := between 'A' 'Z' byte

def decimalDigit (byte : UInt8) : Bool := between '0' '9' byte

def oneOf (chars : List Char) (byte : UInt8) : Bool := chars.any fun char => char.toNat == byte.toNat

/-- `^[a-z][a-z0-9._:-]{0,127}$`, the pattern of every identifier. -/
def validRunToken (value : String) : Bool :=
  match bytes value with
  | [] => false
  | first :: rest =>
    lowercase first && decide (rest.length ≤ 127) &&
      rest.all fun byte => lowercase byte || decimalDigit byte || oneOf ['.', '_', ':', '-'] byte

/-- `^sha256:[a-f0-9]{64}$`, also `audit.ValidFingerprint`. -/
def validFingerprint (value : String) : Bool :=
  let text := bytes value
  text.take 7 == bytes "sha256:" && (text.drop 7).length == 64 &&
    (text.drop 7).all fun byte => decimalDigit byte || between 'a' 'f' byte

/-- `^1\.[0-9]+\.[0-9]+$`. -/
def validPolicyVersion (value : String) : Bool :=
  let text := bytes value
  let rest := text.drop 2
  let minor := rest.takeWhile decimalDigit
  let patch := (rest.dropWhile decimalDigit).drop 1
  text.take 2 == bytes "1." && !minor.isEmpty && (rest.dropWhile decimalDigit).take 1 == bytes "." &&
    !patch.isEmpty && patch.all decimalDigit

/-- `^x-[a-z][a-z0-9.-]{0,62}$`. -/
def validExtensionName (value : String) : Bool :=
  let text := bytes value
  text.take 2 == bytes "x-" &&
    match text.drop 2 with
    | [] => false
    | first :: rest =>
      lowercase first && decide (rest.length ≤ 62) &&
        rest.all fun byte => lowercase byte || decimalDigit byte || oneOf ['.', '-'] byte

def validExtensions (extensions : List ContractExtension) : Bool :=
  decide (extensions.length ≤ 64) &&
    extensions.all fun extension => validExtensionName extension.name && validFingerprint extension.valueDigest

def optionally (check : String → Bool) : Option String → Bool
  | none => true
  | some value => check value

def PlanOperation.exactContract (operation : PlanOperation) : Bool :=
  decide (1 ≤ operation.sequence) &&
    [operation.operationID, operation.operationType, operation.adapterID, operation.executorID,
      operation.targetID].all validRunToken &&
    [operation.inputDigest, operation.artifactDigest].all validFingerprint

def Plan.exactContract (plan : Plan) : Bool :=
  validRunToken plan.planID && validFingerprint plan.planDigest &&
    decide (1 ≤ plan.binding.stateRevision) && validPolicyVersion plan.binding.policyVersion &&
    !plan.operations.isEmpty && decide (plan.operations.length ≤ 256) &&
    plan.operations.all PlanOperation.exactContract &&
    optionally validRunToken plan.executorID && plan.expiresAt.fourDigitYear && validExtensions plan.extensions

def RunStep.exactContract (step : RunStep) : Bool :=
  decide (1 ≤ step.sequence) &&
    [step.operationID, step.operationType, step.adapterID, step.executorID, step.targetID,
      step.stepID].all validRunToken &&
    [step.inputDigest, step.artifactDigest].all validFingerprint

def Run.exactContract (run : Run) : Bool :=
  [run.runID, run.planID, run.authorizationDecisionID, run.executorID].all validRunToken &&
    optionally validRunToken run.acknowledgementID && validPolicyVersion run.policyVersion &&
    [run.planDigest, run.executorBindingDigest].all validFingerprint &&
    optionally validFingerprint run.verificationDigest &&
    decide (run.steps.length ≤ 256) && run.steps.all RunStep.exactContract &&
    run.createdAt.fourDigitYear && run.updatedAt.fourDigitYear && validExtensions run.extensions

def ExecutorLease.exactContract (lease : ExecutorLease) : Bool :=
  [lease.leaseID, lease.planID, lease.runID, lease.stepID, lease.operationID, lease.executorID,
    lease.adapterID, lease.targetID].all validRunToken &&
    [lease.planDigest, lease.artifactDigest, lease.bindingDigest, lease.nonceDigest].all validFingerprint &&
    [lease.claimedAt, lease.renewAfter, lease.leaseExpiresAt, lease.maximumExpiresAt].all Time.fourDigitYear &&
    validExtensions lease.extensions

def receiptStatus (status : Status) : Bool :=
  [Status.failed, .partialOutcome, .running, .succeeded].contains status

def ExecutionReceipt.exactContract (receipt : ExecutionReceipt) : Bool :=
  [receipt.leaseID, receipt.planID, receipt.runID, receipt.stepID, receipt.operationID, receipt.executorID,
    receipt.adapterID, receipt.targetID, receipt.receiptID].all validRunToken &&
    [receipt.planDigest, receipt.artifactDigest, receipt.bindingDigest, receipt.nonceDigest,
      receipt.resultDigest].all validFingerprint &&
    receiptStatus receipt.status && optionally validRunToken receipt.pendingPointID &&
    receipt.recordedAt.fourDigitYear && validExtensions receipt.extensions

/-- `validExecutorClaim`. -/
def ExecutorClaimRequest.exactContract (request : ExecutorClaimRequest) : Bool :=
  [request.executorID, request.principalID, request.adapterID].all validRunToken &&
    validFingerprint request.nonceDigest && validExtensions request.extensions

/-- `validExecutorRenewal`. -/
def ExecutorRenewRequest.exactContract (request : ExecutorRenewRequest) : Bool :=
  validRunToken request.leaseID && [request.bindingDigest, request.nonceDigest].all validFingerprint &&
    validExtensions request.extensions

/-- `validExecutionReceiptRequest`. -/
def ExecutionReceiptRequest.exactContract (request : ExecutionReceiptRequest) : Bool :=
  request.receipt.exactContract && validFingerprint request.expectedBindingDigest &&
    validExtensions request.extensions

def PlanReferenceRequest.exactContract (request : PlanReferenceRequest) : Bool :=
  [request.planID, request.idempotencyKey].all validRunToken && validFingerprint request.planDigest &&
    validExtensions request.extensions

def RunReferenceRequest.exactContract (request : RunReferenceRequest) : Bool :=
  [request.runID, request.idempotencyKey].all validRunToken && validExtensions request.extensions

def AuthorizationDecision.exactContract (decision : AuthorizationDecision) : Bool :=
  [decision.decisionID, decision.principalID, decision.action, decision.targetID].all validRunToken &&
    validFingerprint decision.planDigest

def effectivePrincipalKind (principal : Principal) : PrincipalKind := principal.kind.getD .human

def validPrincipal (principal : Principal) : Bool :=
  (principal.deviceID == "" || validRunToken principal.deviceID) && validRunToken principal.id &&
    match principal.method with
    | .managedCIController => principal.kind == some .policy && principal.deviceID == ""
    | .localOSPeer | .cloudflareAccess | .slackSocketMode => true
    | .other _ => false

def secretStarts : List String :=
  ["github_pat_", "ghp_", "gho_", "ghu_", "ghs_", "ghr_", "sk-", "xoxb-", "xoxp-", "akia"]

/-- `audit.validToken`: `^[A-Za-z0-9][A-Za-z0-9._:-]*$` within a length, and no
known secret in either case. -/
def validToken (maximum : Nat) (value : String) : Bool :=
  let alphanumeric (byte : UInt8) := lowercase byte || uppercase byte || decimalDigit byte
  let lowered := (bytes value).map fun byte => if uppercase byte then byte + 32 else byte
  match bytes value with
  | [] => false
  | first :: rest =>
    alphanumeric first && decide (rest.length < maximum) &&
      (rest.all fun byte => alphanumeric byte || oneOf ['.', '_', ':', '-'] byte) &&
      !secretStarts.any fun start => (bytes start).isPrefixOf lowered

/-- `audit.NewAttribution` of an authenticated principal alone. -/
def attributable (principal : Principal) : Bool :=
  validToken 128 principal.id &&
    match principal.method with
    | .other name => validToken 64 name
    | _ => true

/-- The steps in sequence order are numbered from `index` on and repeat no step
or operation id. -/
def sequenced (index : Int) (seenSteps seenOps : List String) : List RunStep → Bool
  | [] => true
  | step :: rest =>
    step.sequence == index && !seenSteps.contains step.stepID && !seenOps.contains step.operationID &&
      sequenced (index + 1) (step.stepID :: seenSteps) (step.operationID :: seenOps) rest

def validRunDocument (run : Run) : Bool :=
  run.exactContract && validRunToken run.runID && !run.steps.isEmpty &&
    sequenced 1 [] [] (run.steps.insertionSort fun first second => first.sequence ≤ second.sequence)

/-- Stored bytes decode to the document they were encoded from; what remains of
`decodeRun` is the check of that document. -/
def decodeRun (run : Run) : Except Failure Run :=
  if validRunDocument run then .ok run else .error (.coded .integrityFailure "run")

def executorLeaseSeconds : Int := 60

def executorCheckInSeconds : Int := 20

/-- `ValidateLeaseTiming`. -/
def ExecutorLease.timed (lease : ExecutorLease) : Bool :=
  lease.renewAfter == lease.claimedAt + executorCheckInSeconds &&
    lease.leaseExpiresAt == lease.claimedAt + executorLeaseSeconds &&
    lease.maximumExpiresAt == lease.leaseExpiresAt

def validLease (lease : ExecutorLease) : Bool := lease.exactContract && lease.timed

def validReceipt (receipt : ExecutionReceipt) : Bool := receipt.exactContract

def validStoredExecutorLease (lease : ExecutorLease) : Bool :=
  lease.exactContract && lease.leaseExpiresAt == lease.claimedAt + executorLeaseSeconds &&
    lease.maximumExpiresAt == lease.leaseExpiresAt && decide (lease.claimedAt < lease.renewAfter) &&
    decide (lease.renewAfter ≤ lease.leaseExpiresAt)

def decodeStoredExecutorLease (lease : ExecutorLease) : Except Failure ExecutorLease :=
  if validStoredExecutorLease lease then .ok lease else .error (.coded .integrityFailure "executor-lease")

/-- `validUTCSecond`; modelled times are whole UTC seconds already. -/
def validUTCSecond (time : Time) : Bool := !time.isZero

def runTransitions : List (Status × Status) :=
  [(.interrupted, .cancelled), (.interrupted, .running), (.queued, .cancelled), (.queued, .running),
    (.running, .failed), (.running, .interrupted), (.running, .partialOutcome), (.running, .succeeded)]

/-- `ValidateRunTransition`. -/
def validRunTransition (before after : Status) : Bool := runTransitions.contains (before, after)

def PlanOperation.matchesStep (operation : PlanOperation) (step : RunStep) : Bool :=
  operation.sequence == step.sequence && operation.operationType == step.operationType &&
    operation.adapterID == step.adapterID && operation.executorID == step.executorID &&
    operation.targetID == step.targetID && operation.inputDigest == step.inputDigest &&
    operation.artifactDigest == step.artifactDigest && operation.idempotent == step.idempotent

/-- `ValidateExecutorLeaseBinding`: the lease names exactly one step of the run
and exactly one operation of its plan, and widens neither. -/
def validExecutorLeaseBinding (plan : Plan) (run : Run) (lease : ExecutorLease) : Bool :=
  plan.planID == run.planID && plan.planID == lease.planID && plan.planDigest == run.planDigest &&
    plan.planDigest == lease.planDigest && plan.binding.recoveryEpoch == run.recoveryEpoch &&
    plan.binding.recoveryEpoch == lease.recoveryEpoch && plan.binding.stateRevision == run.stateRevision &&
    run.runID == lease.runID && plan.executorMode == run.executorMode && run.executorID == lease.executorID &&
    run.executorBindingDigest == lease.bindingDigest &&
    (plan.executorMode != .external || plan.executorID == some run.executorID) &&
    match run.steps.filter fun step => step.stepID == lease.stepID with
    | [step] =>
      match plan.operations.filter fun operation => operation.operationID == lease.operationID with
      | [operation] =>
        operation.operationID == step.operationID && operation.matchesStep step &&
          step.executorID == lease.executorID && step.adapterID == lease.adapterID &&
          step.targetID == lease.targetID && step.artifactDigest == lease.artifactDigest
      | _ => false
    | _ => false

/-- `ValidateExecutionReceiptBinding`: the receipt repeats every binding field
of the lease, its current nonce included. -/
def validExecutionReceiptBinding (lease : ExecutorLease) (receipt : ExecutionReceipt) : Bool :=
  lease.leaseID == receipt.leaseID && lease.planID == receipt.planID && lease.planDigest == receipt.planDigest &&
    lease.runID == receipt.runID && lease.stepID == receipt.stepID && lease.operationID == receipt.operationID &&
    lease.executorID == receipt.executorID && lease.adapterID == receipt.adapterID &&
    lease.targetID == receipt.targetID && lease.artifactDigest == receipt.artifactDigest &&
    lease.bindingDigest == receipt.bindingDigest && lease.nonceDigest == receipt.nonceDigest &&
    lease.recoveryEpoch == receipt.recoveryEpoch

end VskLabs

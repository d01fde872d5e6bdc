import Mathlib.Order.Basic

/-! The documents of the run protocol. Field names follow the generated Go
contracts; enumerated texts are inductive types and times are whole seconds. -/

namespace VskLabs

/-- Seconds since 0001-01-01T00:00:00Z, the zero value of Go's `time.Time`. All
modelled times are UTC and truncated to the second, and within four-digit years
their RFC 3339 texts sort as these numbers do. -/
abbrev Time := Int

namespace Time

def isZero (time : Time) : Bool := time == 0

/-- The contracts' `dddd-dd-ddTdd:dd:ddZ` pattern: years 0 to 9999. -/
def fourDigitYear (time : Time) : Bool := decide (-31622400 ≤ time) && decide (time < 315537897600)

end Time

inductive ErrorCode where
  | approvalRequired | authenticationRequired | authorizationDenied | dependencyUnavailable
  | evidenceExpired | evidenceInvalid | executionFailed | executionPartial | inputInvalid
  | integrityFailure | interrupted | planStale | prerequisiteBlocked | recoveryEpochMismatch
  | recoveryRequired | resourceNotFound | stateConflict
  deriving DecidableEq

/-- A stable error code with its target, one of the two context errors, or an
error of an outside component that carries no code. -/
inductive Failure where
  | coded (code : ErrorCode) (target : String)
  | canceled
  | deadlineExceeded
  | unclassified
  deriving DecidableEq

def Failure.code : Failure → Option ErrorCode
  | .coded code _ => some code
  | _ => none

/-- A violated table constraint, as `classifySQLiteError` reports it. -/
def constraintViolated : Failure := .coded .stateConflict "database"

inductive Status where
  | queued | running | succeeded | failed | partialOutcome | interrupted | cancelled
  deriving DecidableEq

inductive EffectState where
  | notStarted | intentRecorded | receiptRecorded | verified | effectUnknown
  deriving DecidableEq

inductive ExecutorMode where
  | central | external
  deriving DecidableEq

inductive RollbackStatus where
  | notRequested | required | separatePlan
  deriving DecidableEq

inductive VerificationStatus where
  | pending | verified | failed | incomplete
  deriving DecidableEq

inductive LeaseStatus where
  | active | released | expired | revoked
  deriving DecidableEq

inductive PlanStatus where
  | planned | approved | awaitingAcknowledgement | cancelled | expired
  deriving DecidableEq

inductive AuthorizationBranch where
  | human | preauthorized
  deriving DecidableEq

structure ContractExtension where
  (name valueDigest : String)
  deriving DecidableEq

structure PlanOperation where
  sequence : Int
  (operationID operationType adapterID executorID targetID inputDigest artifactDigest : String)
  idempotent : Bool
  deriving DecidableEq

structure PlanBinding where
  (recoveryEpoch stateRevision : Int)
  policyVersion : String
  deriving DecidableEq

structure PlanRequests where
  hostingLifecycle : Bool := false
  serviceRecovery : Bool := false
  serviceDeployment : Bool := false
  ciJob : Bool := false
  ciEnrollment : Bool := false
  serviceImport : Bool := false
  hostRoleScope : Bool := false
  hostAccessSequence : Bool := false
  hostAction : Bool := false
  deriving DecidableEq

structure Plan where
  (planID planDigest : String)
  binding : PlanBinding
  operations : List PlanOperation
  status : PlanStatus
  authorizationBranch : AuthorizationBranch
  executorMode : ExecutorMode
  executorID : Option String
  expiresAt : Time
  requests : PlanRequests
  extensions : List ContractExtension
  deriving DecidableEq

structure RunStep where
  sequence : Int
  (operationID operationType adapterID executorID targetID inputDigest artifactDigest : String)
  idempotent : Bool
  stepID : String
  status : Status
  effectState : EffectState
  deriving DecidableEq

structure Run where
  (runID planID planDigest authorizationDecisionID : String)
  acknowledgementID : Option String
  policyVersion : String
  executorMode : ExecutorMode
  (executorID executorBindingDigest : String)
  status : Status
  steps : List RunStep
  cancellationRequested : Bool
  rollbackStatus : RollbackStatus
  verificationStatus : VerificationStatus
  verificationDigest : Option String
  changed : Bool
  (stateRevision recoveryEpoch : Int)
  (createdAt updatedAt : Time)
  extensions : List ContractExtension
  deriving DecidableEq

structure ExecutorLease where
  (leaseID planID planDigest runID stepID operationID executorID adapterID targetID : String)
  (artifactDigest bindingDigest nonceDigest : String)
  recoveryEpoch : Int
  (claimedAt renewAfter leaseExpiresAt maximumExpiresAt : Time)
  status : LeaseStatus
  extensions : List ContractExtension
  deriving DecidableEq

structure ExecutionReceipt where
  (leaseID planID planDigest runID stepID operationID executorID adapterID targetID : String)
  (artifactDigest bindingDigest nonceDigest : String)
  recoveryEpoch : Int
  receiptID : String
  status : Status
  resultDigest : String
  pendingPointID : Option String
  recordedAt : Time
  extensions : List ContractExtension
  deriving DecidableEq

structure ExecutorClaimRequest where
  (executorID principalID adapterID : String)
  recoveryEpoch : Int
  nonceDigest : String
  extensions : List ContractExtension

structure ExecutorRenewRequest where
  (leaseID bindingDigest nonceDigest : String)
  recoveryEpoch : Int
  extensions : List ContractExtension

structure ExecutionReceiptRequest where
  receipt : ExecutionReceipt
  expectedBindingDigest : String
  extensions : List ContractExtension

structure PlanReferenceRequest where
  (planID planDigest : String)
  recoveryEpoch : Int
  idempotencyKey : String
  extensions : List ContractExtension
  deriving DecidableEq

structure RunReferenceRequest where
  (runID idempotencyKey : String)
  recoveryEpoch : Int
  extensions : List ContractExtension
  deriving DecidableEq

structure AuthorizationDecision where
  (decisionID principalID action targetID : String)
  allowed : Bool
  branch : Option AuthorizationBranch
  (grantRevision recoveryEpoch : Int)
  planDigest : String
  deriving DecidableEq

inductive PrincipalKind where
  | human | agent | policy
  deriving DecidableEq

inductive AuthenticationMethod where
  | localOSPeer | cloudflareAccess | slackSocketMode | managedCIController
  | other (name : String)
  deriving DecidableEq

/-- `identity.Principal`; interactive identities may leave their kind empty. -/
structure Principal where
  id : String
  method : AuthenticationMethod
  kind : Option PrincipalKind
  deviceID : String
  deriving DecidableEq

/-- `findStep` and `findRunStep`: the first step with the given id. -/
def findStep (run : Run) (stepID : String) : Option RunStep :=
  run.steps.find? fun step => step.stepID == stepID

theorem findStep_stepID {run : Run} {stepID : String} {step : RunStep} (found : findStep run stepID = some step) :
    step.stepID = stepID := by
  simpa [findStep] using List.find?_some found

/-- Write through the pointer `findStep` returns. Step ids are distinct in every
document the store decodes, so there is one step to write. -/
def Run.writeStep (run : Run) (stepID : String) (status : Status) (effectState : EffectState) : Run :=
  { run with steps := run.steps.map fun step =>
      if step.stepID == stepID then { step with status := status, effectState := effectState } else step }

end VskLabs

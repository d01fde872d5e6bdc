import VskLabs.Library.Concurrent
import VskLabs.Library.Transaction
import VskLabs.Store.ExecutorLeaseRepository
import VskLabs.Store.Retention

/-! Everything the run engine and the external executor ask for: transactions of
the store, the clock, adapters and the other outside components. -/

namespace VskLabs
open Library

/-- `adapter.Operation`; secret references are attached inside one effect call. -/
structure Operation where
  (operationID operationType adapterID executorID targetID inputDigest artifactDigest : String)
  idempotent : Bool

/-- `adapter.Effect`. -/
structure Effect where
  status : Status
  resultDigest : String
  pendingPointID : Option String
  (changed effectObserved : Bool)

/-- `adapter.Verification`. -/
structure Verification where
  verified : Bool
  digest : String

/-- `adapter.ReceiptVerification`. -/
structure ReceiptVerification where
  verified : Bool
  digest : String
  changed : Bool

structure AdapterHandle where
  (credentialExecutor boundCredentialExecutor receiptVerifier : Bool)

/-- Whose `Execute` the engine calls. -/
inductive Effector where
  | core | retentionCore | credentialCore | adapter | credentialAdapter | boundCredentialAdapter

structure ExecutionBinding where
  effector : Effector
  (planID runID stepID leaseID : String)
  operation : Operation

def Effector.recovers : Effector → Bool
  | .credentialAdapter | .boundCredentialAdapter => true
  | _ => false

/-- What the engine asks outside its store. A plan here leaves out the requests it carries, and
they decide its first execution target. -/
inductive Question where
  | validateCurrent (plan : Plan)
  | validateManagedDeploymentPlan (plan : Plan)
  | firstExecutionTarget (plan : Plan) (targetID : String)
  | verifyAdmission (plan : Plan) (decision : AuthorizationDecision) (acknowledgementID : Option String)
  | activateAdmission (plan : Plan) (decision : AuthorizationDecision) (run : Run) (acknowledgementID : Option String)
  | verifyRun (plan : Plan) (run : Run)
  | validateScheduledPlan (plan : Plan) (time : Time)
  | verifySecretStep (plan : Plan) (operationID : String)
  | resolveCredentials (plan : Plan) (operationID : String) (lease : ExecutorLease)
  | exactCredentialBindings (plan : Plan) (operation : Operation)
  | verifyDeploymentJob (principal : Principal) (plan : Plan) (step : RunStep)
  | recordAuthorizationDenial (reason target : String)

/-- The run mutations, one per repository method built on `mutateRun`. -/
inductive Mutation where
  | transitionRun (request : RunTransitionRequest)
  | requestCancellation (runID : String) (time : Time)
  | beginStep (request : StepBeginRequest)
  | recordReceipt (request : ReceiptRecordRequest)
  | finishStep (request : StepFinishRequest)
  | markStepUnknown (runID stepID : String) (time : Time)
  | failStepBeforeEffect (runID stepID : String) (time : Time)
  | interruptStepBeforeEffect (runID stepID : String) (time : Time)

def Mutation.runID : Mutation → String
  | .transitionRun request => request.runID
  | .requestCancellation runID _ => runID
  | .beginStep request => request.runID
  | .recordReceipt request => request.runID
  | .finishStep request => request.runID
  | .markStepUnknown runID _ _ => runID
  | .failStepBeforeEffect runID _ _ => runID
  | .interruptStepBeforeEffect runID _ _ => runID

def Mutation.apply (mutation : Mutation) (store : Store) : Except Failure (Option Run × Store) :=
  match mutation with
  | .transitionRun request => RunRepository.transitionRun store request
  | .requestCancellation runID time => RunRepository.requestCancellation store runID time
  | .beginStep request => RunRepository.beginStep store request
  | .recordReceipt request => RunRepository.recordReceipt store request
  | .finishStep request => RunRepository.finishStep store request
  | .markStepUnknown runID stepID time => RunRepository.markStepUnknown store runID stepID time
  | .failStepBeforeEffect runID stepID time => RunRepository.failStepBeforeEffect store runID stepID time
  | .interruptStepBeforeEffect runID stepID time => RunRepository.interruptStepBeforeEffect store runID stepID time

inductive Call where
  | clock
  | contextCancelled
  | ask (question : Question)
  | isSecretOperation (plan : Plan) (operationID : String)
  | resolveAdapter (adapterID : String)
  | verifyManagedDeploymentJob (plan : Plan) (step : RunStep)
  | drawLease (step : RunStep)
  | execute (binding : ExecutionBinding)
  | executed (binding : ExecutionBinding)
  | verifyEffect (binding : ExecutionBinding) (effect : Effect)
  | verifyReceipt (operation : Operation) (status : Status) (resultDigest : String)
  | getPlan (planID : String)
  | existingRun (submitKey : String) (request : SubmitDigest)
  | createRun (request : RunCreateRequest)
  | getRun (runID : String)
  | activeRuns
  | mutate (mutation : Mutation)
  | acquireTargetLease (lease : ExecutorLease)
  | releaseTargetLease (leaseID : String) (time : Time)
  | releaseRunLeases (runID : String) (time : Time)
  | pruneRunHistory (now : Time)
  | claimRunOperation (operation : RunOperation) (reference : RunReferenceRequest) (time : Time)
  | completeRunOperation (operation : RunOperation) (reference : RunReferenceRequest) (run : Run)
      (errorCode : Option ErrorCode) (time : Time)
  | runOperation (operation : RunOperation) (reference : RunReferenceRequest)
  | claimLease (request : ExecutorLeaseClaimRequest)
  | renewLease (request : ExecutorLeaseRenewalRequest)
  | expireLeases (time : Time)
  | discoverExpiredRecovery (time : Time)
  | recordExternalReceipt (request : ExecutorReceiptPersistenceRequest)
  | getLease (leaseID : String)
  | advanceState
  | insertReference (row : ReferenceRow)

/-- What a call replies with. A panic that the credential boundary recovered
has no effect value. -/
@[reducible] def Reply : Call → Type
  | .clock => Time
  | .contextCancelled => Bool
  | .ask _ => Except Failure Unit
  | .isSecretOperation _ _ => Except Failure Bool
  | .resolveAdapter _ => Except Failure AdapterHandle
  | .verifyManagedDeploymentJob _ _ => Except Failure Principal
  | .drawLease _ => Except Failure (String × String)
  | .execute _ => Unit
  | .executed _ => Option (Effect × Option Failure)
  | .verifyEffect _ _ => Verification × Option Failure
  | .verifyReceipt _ _ _ => ReceiptVerification × Option Failure
  | .getPlan _ => Except Failure Plan
  | .existingRun _ _ => Except Failure (Option Run)
  | .createRun _ => Except Failure (Option Run)
  | .getRun _ => Except Failure Run
  | .activeRuns => Except Failure (List Run)
  | .mutate _ => Except Failure (Option Run)
  | .acquireTargetLease _ => Except Failure Unit
  | .releaseTargetLease _ _ => Except Failure Unit
  | .releaseRunLeases _ _ => Except Failure Unit
  | .pruneRunHistory _ => Except Failure RunPruneResult
  | .claimRunOperation _ _ _ => Except Failure Unit
  | .completeRunOperation _ _ _ _ _ => Except Failure Unit
  | .runOperation _ _ => Except Failure (Option (Run × Option ErrorCode))
  | .claimLease _ => Except Failure ExecutorLease
  | .renewLease _ => Except Failure ExecutorLease
  | .expireLeases _ => Except Failure (Option (List ExecutorLease))
  | .discoverExpiredRecovery _ => Except Failure (List ExecutorLease)
  | .recordExternalReceipt _ => Except Failure ExecutionReceipt
  | .getLease _ => Except Failure ExecutorLease
  | .advanceState => Except Failure Unit
  | .insertReference _ => Except Failure Unit

abbrev Job (α : Type) := Program Call Reply α

def issue (query : Call) : Job (Reply query) := Program.call query

inductive Answer where
  | store (fault : Fault Failure)
  | clock (time : Time)
  | flag (value : Bool)
  | check (outcome : Except Failure Unit)
  | decision (outcome : Except Failure Bool)
  | adapter (outcome : Except Failure AdapterHandle)
  | principal (outcome : Except Failure Principal)
  | lease (outcome : Except Failure (String × String))
  | done
  | effect (outcome : Option (Effect × Option Failure))
  | verification (outcome : Verification × Option Failure)
  | receipt (outcome : ReceiptVerification × Option Failure)

/-- `PlanRepository.Get`. -/
def getPlan (store : Store) (planID : String) : Except Failure Plan :=
  require (store.plans.find? planID) (.coded .resourceNotFound "plan")

def advanceState (store : Store) : Except Failure (Unit × Store) :=
  return ((), { store with stateRevision := store.stateRevision + 1 })

def storeCall (query : Call) (fault : Fault Failure) (store : Store) : Option (Reply query × Store) :=
  match query with
  | .getPlan planID => some (readState fault (getPlan · planID) store)
  | .existingRun submitKey request => some (readState fault (RunRepository.existing · submitKey request) store)
  | .createRun request => some (commit fault (RunRepository.create · request) store)
  | .getRun runID => some (readState fault (RunRepository.getRun · runID) store)
  | .activeRuns => some (readState fault RunRepository.activeRuns store)
  | .mutate mutation => some (commit fault mutation.apply store)
  | .acquireTargetLease lease => some (commit fault (RunRepository.acquireTargetLease · lease) store)
  | .releaseTargetLease leaseID time => some (commit fault (RunRepository.releaseTargetLease · leaseID time) store)
  | .releaseRunLeases runID time => some (commit fault (RunRepository.releaseRunLeases · runID time) store)
  | .pruneRunHistory now => some (commit fault (Retention.pruneRunHistory · now) store)
  | .claimRunOperation operation reference time =>
    some (commit fault (RunRepository.claimRunOperation · operation reference time) store)
  | .completeRunOperation operation reference run errorCode time =>
    some (commit fault (RunRepository.completeRunOperation · operation reference run errorCode time) store)
  | .runOperation operation reference => some (readState fault (RunRepository.runOperation · operation reference) store)
  | .claimLease request => some (commit fault (ExecutorLeaseRepository.claim · request) store)
  | .renewLease request => some (commit fault (ExecutorLeaseRepository.renew · request) store)
  | .expireLeases time => some (commit fault (ExecutorLeaseRepository.expire · time) store)
  | .discoverExpiredRecovery time =>
    some (readState fault (ExecutorLeaseRepository.discoverExpiredRecovery · time) store)
  | .recordExternalReceipt request => some (commit fault (ExecutorLeaseRepository.recordReceipt · request) store)
  | .getLease leaseID => some (readState fault (ExecutorLeaseRepository.get · leaseID) store)
  | .advanceState => some (commit fault advanceState store)
  | .insertReference row => some (commit fault (Retention.insertReference · row) store)
  | _ => none

def respond (query : Call) (answer : Answer) (store : Store) : Option (Reply query × Store) :=
  match query, answer with
  | .clock, .clock time => some (time, store)
  | .contextCancelled, .flag value => some (value, store)
  | .ask _, .check outcome => some (outcome, store)
  | .isSecretOperation _ _, .decision outcome => some (outcome, store)
  | .resolveAdapter _, .adapter outcome => some (outcome, store)
  | .verifyManagedDeploymentJob _ _, .principal outcome => some (outcome, store)
  | .drawLease _, .lease outcome => some (outcome, store)
  | .execute _, .done => some ((), store)
  | .executed binding, .effect outcome =>
    if outcome.isSome || binding.effector.recovers then some (outcome, store) else none
  | .verifyEffect _ _, .verification outcome => some (outcome, store)
  | .verifyReceipt _ _ _, .receipt outcome => some (outcome, store)
  | query, .store fault => storeCall query fault store
  | _, _ => none

abbrev world : Service Call Reply where
  State := Store
  Answer := Answer
  respond := respond

end VskLabs

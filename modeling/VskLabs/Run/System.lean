import VskLabs.Run.ExternalExecutor

/-! The running system: any number of calls of the entry points over one store,
interleaved at every call, with crashes at any moment. -/

namespace VskLabs
open Library

/-- The entry points of the engine and the external executor, and the writes of
other components that the run tables notice. -/
inductive EntryPoint where
  | submit (request : SubmitRequest)
  | submitControllerSetup (request : SubmitRequest)
  | resumeAs (runID : String)
  | cancelAs (runID : String)
  | mutateAs (operation : RunOperation) (reference : RunReferenceRequest)
  | reconcile
  | startup
  | claim (principal : Principal) (request : ExecutorClaimRequest)
  | renew (principal : Principal) (request : ExecutorRenewRequest)
  | submitReceipt (principal : Principal) (request : ExecutionReceiptRequest)
  | claimManaged (planID : String) (request : ExecutorClaimRequest)
  | renewManaged (request : ExecutorRenewRequest)
  | submitManagedReceipt (request : ExecutionReceiptRequest)
  | reconcileLeases
  | advanceState
  | insertReference (row : ReferenceRow)

def EntryPoint.program (config : EngineConfig) : EntryPoint → Job Unit
  | .submit request => do let _ ← Engine.submit config false request
  | .submitControllerSetup request => do let _ ← Engine.submit config true request
  | .resumeAs runID => do let _ ← Engine.resumeAs config runID
  | .cancelAs runID => do let _ ← Engine.cancelAs runID
  | .mutateAs operation reference => do let _ ← Engine.mutateAs config operation reference
  | .reconcile => do let _ ← Engine.reconcile config
  | .startup => do let _ ← Engine.startup config
  -- no transport can put a managed proof into the context of a request
  | .claim principal request => do let _ ← ExternalExecutor.claim config ⟨principal, none⟩ request
  | .renew principal request => do let _ ← ExternalExecutor.renew config ⟨principal, none⟩ request
  | .submitReceipt principal request => do let _ ← ExternalExecutor.submitReceipt config ⟨principal, none⟩ request
  | .claimManaged planID request => do let _ ← ExternalExecutor.claimManaged config planID request
  | .renewManaged request => do let _ ← ExternalExecutor.renewManaged config request
  | .submitManagedReceipt request => do let _ ← ExternalExecutor.submitManagedReceipt config request
  | .reconcileLeases => do let _ ← ExternalExecutor.reconcile
  | .advanceState => do let _ ← issue .advanceState
  | .insertReference row => do let _ ← issue (.insertReference row)

abbrev Deed := Action world EntryPoint

abbrev Record := Entry world

def execute (config : EngineConfig) (initial : Store) (deeds : List Deed) : Option (System world) :=
  (System.boot initial : System world).run (EntryPoint.program config) deeds

/-- Random lease ids do not repeat, and distinct submit keys do not hash to one
run id. -/
def collisionFree (earlier : List Record) (record : Record) : Prop :=
  match record.event with
  | ⟨.drawLease _, .ok (leaseID, _)⟩ =>
    ∀ old ∈ earlier, ∀ step nonce, old.event ≠ ⟨.drawLease step, .ok (leaseID, nonce)⟩
  | ⟨.createRun request, _⟩ =>
    ∀ old ∈ earlier, ∀ other, old.event.call = .createRun other → other.run.runID = request.run.runID →
      other.submitKey = request.submitKey
  | _ => True

end VskLabs

import VskLabs.Store.RunRepository

/-! Run history retention. Deleting a run cascades through its steps, leases and
receipts and is refused while a row outside that family references any of them. -/

namespace VskLabs
open Library

structure RunPruneResult where
  (detailedEventsDeleted summariesDeleted : Nat)

namespace Retention

def runDetailRetention : Int := 30 * 24 * 60 * 60

def runSummaryRetention : Int := 180 * 24 * 60 * 60

def expiredSummary (now : Time) (row : RunRow) : Bool :=
  decide (row.updatedAt < now - runSummaryRetention) &&
    [Status.succeeded, .failed, .partialOutcome, .interrupted, .cancelled].contains row.status

section Cascade

variable (store : Store) (now : Time)

def deletesRun (runID : String) : Bool := (store.runs.find? runID).any (expiredSummary now)

def deletesStep (stepID : String) : Bool := (store.steps.find? stepID).any fun row => deletesRun store now row.runID

def deletesLease (leaseID : String) : Bool :=
  (store.leases.find? leaseID).any fun row => deletesRun store now row.runID || deletesStep store now row.stepID

def deletesReceiptRow (row : ReceiptRow) : Bool :=
  deletesLease store now row.leaseID || deletesRun store now row.runID || deletesStep store now row.stepID

/-- The parent row of a foreign key is about to be deleted. -/
def deletesTarget : ReferenceTarget → Bool
  | .run runID => deletesRun store now runID
  | .step stepID => deletesStep store now stepID
  | .lease leaseID => deletesLease store now leaseID
  | .receipt receiptID => (store.receipts.find? receiptID).any (deletesReceiptRow store now)

/-- `DELETE FROM plan_runs` together with its `ON DELETE CASCADE` children. -/
def deleteSummaries : Store :=
  { store with
    runs := store.runs.delete (expiredSummary now)
    steps := store.steps.delete fun row => deletesRun store now row.runID
    leases := store.leases.delete fun row => deletesRun store now row.runID || deletesStep store now row.stepID
    receipts := store.receipts.delete (deletesReceiptRow store now)
    observations := store.observations.delete (deletesReceiptRow store now)
    nonces := store.nonces.delete fun row => deletesLease store now row.leaseID
    details := store.details.filter fun row => !deletesRun store now row.runID
    operationKeys := store.operationKeys.delete fun row => deletesRun store now row.runID }

end Cascade

/-- `PruneRunHistory`, one transaction. -/
def pruneRunHistory (store : Store) (now : Time) : Except Failure (RunPruneResult × Store) := do
  ensure (!now.isZero) (.coded .inputInvalid "run-retention")
  let kept := store.details.filter fun row => !decide (row.occurredAt < now - runDetailRetention)
  let detailed := store.details.length - kept.length
  let store := { store with details := kept }
  ensure (store.references.all fun row => !deletesTarget store now row.target) constraintViolated
  return (⟨detailed, (store.runs.rows.filter (expiredSummary now)).length⟩, deleteSummaries store now)

/-- A row of another component that references the run family. Its foreign key
has to name an existing row. -/
def targetExists (store : Store) : ReferenceTarget → Bool
  | .run runID => (store.runs.find? runID).isSome
  | .step stepID => (store.steps.find? stepID).isSome
  | .lease leaseID => (store.leases.find? leaseID).isSome
  | .receipt receiptID => (store.receipts.find? receiptID).isSome

def insertReference (store : Store) (row : ReferenceRow) : Except Failure (Unit × Store) := do
  ensure (targetExists store row.target) constraintViolated
  return ((), { store with references := store.references ++ [row] })

end Retention

end VskLabs

import VskLabs.Store.Laws

/-! What pruning is for, and when it does that. Terminal runs are kept for 180
days; a deleted run takes the rows that hang on it along and nothing else. -/

namespace VskLabs.Retention
open Library

section Family

variable (store : Store) (now : Time)

def Expired (row : RunRow) : Prop :=
  terminalRunStatus row.status = true ∧ row.updatedAt < now - runSummaryRetention

def GoneRun (runID : String) : Prop := ∃ row ∈ store.runs.rows, row.runID = runID ∧ Expired now row

def GoneStep (stepID : String) : Prop := ∃ row ∈ store.steps.rows, row.stepID = stepID ∧ GoneRun store now row.runID

def GoneLease (leaseID : String) : Prop :=
  ∃ row ∈ store.leases.rows, row.leaseID = leaseID ∧ (GoneRun store now row.runID ∨ GoneStep store now row.stepID)

def GoneReceipt (row : ReceiptRow) : Prop :=
  GoneLease store now row.leaseID ∨ GoneRun store now row.runID ∨ GoneStep store now row.stepID

def GoneTarget : ReferenceTarget → Prop
  | .run runID => GoneRun store now runID
  | .step stepID => GoneStep store now stepID
  | .lease leaseID => GoneLease store now leaseID
  | .receipt receiptID => ∃ row ∈ store.receipts.rows, row.receiptID = receiptID ∧ GoneReceipt store now row

structure Prunes (after : Store) : Prop where
  runs : ∀ row, row ∈ after.runs.rows ↔ row ∈ store.runs.rows ∧ ¬ Expired now row
  steps : ∀ row, row ∈ after.steps.rows ↔ row ∈ store.steps.rows ∧ ¬ GoneRun store now row.runID
  leases : ∀ row, row ∈ after.leases.rows ↔
    row ∈ store.leases.rows ∧ ¬ (GoneRun store now row.runID ∨ GoneStep store now row.stepID)
  receipts : ∀ row, row ∈ after.receipts.rows ↔ row ∈ store.receipts.rows ∧ ¬ GoneReceipt store now row
  observations : ∀ row, row ∈ after.observations.rows ↔ row ∈ store.observations.rows ∧ ¬ GoneReceipt store now row
  nonces : ∀ row, row ∈ after.nonces.rows ↔ row ∈ store.nonces.rows ∧ ¬ GoneLease store now row.leaseID
  details : ∀ row, row ∈ after.details ↔
    row ∈ store.details ∧ ¬ row.occurredAt < now - runDetailRetention ∧ ¬ GoneRun store now row.runID
  operationKeys : ∀ row, row ∈ after.operationKeys.rows ↔
    row ∈ store.operationKeys.rows ∧ ¬ GoneRun store now row.runID
  references : after.references = store.references
  plans : after.plans = store.plans
  intents : after.intents = store.intents

def NoneInterrupted : Prop :=
  ∀ row ∈ store.runs.rows, row.status = .interrupted → ¬ row.updatedAt < now - runSummaryRetention

end Family

variable {store : Store} {now : Time}

theorem expiredSummary_iff (settled : NoneInterrupted store now) {row : RunRow} (member : row ∈ store.runs.rows) :
    expiredSummary now row = true ↔ Expired now row := by
  have young := settled row member
  unfold expiredSummary Expired
  cases status : row.status <;> simp_all [terminalRunStatus]

theorem deletesRun_iff (settled : NoneInterrupted store now) {runID : String} :
    deletesRun store now runID = true ↔ GoneRun store now runID := by
  rw [deletesRun, Table.any_find?]
  constructor
  · rintro ⟨row, member, same, old⟩
    exact ⟨row, member, same, (expiredSummary_iff settled member).mp old⟩
  · rintro ⟨row, member, same, old⟩
    exact ⟨row, member, same, (expiredSummary_iff settled member).mpr old⟩

theorem deletesStep_iff (settled : NoneInterrupted store now) {stepID : String} :
    deletesStep store now stepID = true ↔ GoneStep store now stepID := by
  simp only [deletesStep, Table.any_find?, deletesRun_iff settled, GoneStep]

theorem deletesLease_iff (settled : NoneInterrupted store now) {leaseID : String} :
    deletesLease store now leaseID = true ↔ GoneLease store now leaseID := by
  simp only [deletesLease, Table.any_find?, checks, deletesRun_iff settled, deletesStep_iff settled, GoneLease]

theorem deletesReceiptRow_iff (settled : NoneInterrupted store now) {row : ReceiptRow} :
    deletesReceiptRow store now row = true ↔ GoneReceipt store now row := by
  simp only [deletesReceiptRow, checks, deletesLease_iff settled, deletesRun_iff settled, deletesStep_iff settled, GoneReceipt, or_assoc]

theorem deletesTarget_iff (settled : NoneInterrupted store now) {target : ReferenceTarget} :
    deletesTarget store now target = true ↔ GoneTarget store now target := by
  cases target with
  | run runID => exact deletesRun_iff settled
  | step stepID => exact deletesStep_iff settled
  | lease leaseID => exact deletesLease_iff settled
  | receipt receiptID => simp only [deletesTarget, Table.any_find?, deletesReceiptRow_iff settled, GoneTarget]

def pruned (store : Store) (now : Time) : Store :=
  deleteSummaries
    { store with details := store.details.filter fun row => !decide (row.occurredAt < now - runDetailRetention) } now

theorem pruneRunHistory_eq_ok {result : RunPruneResult} {after : Store}
    (done : pruneRunHistory store now = .ok (result, after)) :
    now.isZero = false ∧ (∀ row ∈ store.references, deletesTarget store now row.target = false) ∧
      after = pruned store now := by
  simp only [pruneRunHistory, peel, Prod.mk.injEq, Bool.not_eq_true'] at done
  obtain ⟨_, nonzero, _, free, _, rfl⟩ := done
  refine ⟨nonzero, ?_, rfl⟩
  intro row member
  have kept := List.all_eq_true.mp free row member
  simp only [Bool.not_eq_true'] at kept
  cases target : row.target <;> simp only [target] at kept <;> exact kept

theorem not_deletes_iff {deletes : Bool} {gone : Prop} (same : deletes = true ↔ gone) : deletes = false ↔ ¬ gone := by
  rw [← same, Bool.not_eq_true]

theorem pruned_prunes (settled : NoneInterrupted store now) : Prunes store now (pruned store now) := by
  refine ⟨?_, ?_, ?_, ?_, ?_, ?_, ?_, ?_, rfl, rfl, rfl⟩
  · intro row
    refine Table.mem_delete.trans (and_congr_right fun member => ?_)
    exact not_deletes_iff (expiredSummary_iff settled member)
  · intro row
    exact Table.mem_delete.trans (and_congr_right fun _ => not_deletes_iff (deletesRun_iff settled))
  · intro row
    refine Table.mem_delete.trans (and_congr_right fun _ => not_deletes_iff ?_)
    rw [Bool.or_eq_true]
    exact or_congr (deletesRun_iff settled) (deletesStep_iff settled)
  · intro row
    exact Table.mem_delete.trans (and_congr_right fun _ => not_deletes_iff (deletesReceiptRow_iff settled))
  · intro row
    exact Table.mem_delete.trans (and_congr_right fun _ => not_deletes_iff (deletesReceiptRow_iff settled))
  · intro row
    exact Table.mem_delete.trans (and_congr_right fun _ => not_deletes_iff (deletesLease_iff settled))
  · intro row
    simp only [pruned, deleteSummaries, List.mem_filter, checks, decide_eq_false_iff_not, and_assoc]
    refine and_congr_right fun _ => and_congr_right fun _ => not_deletes_iff (deletesRun_iff settled)
  · intro row
    exact Table.mem_delete.trans (and_congr_right fun _ => not_deletes_iff (deletesRun_iff settled))

theorem pruneRunHistory_succeeds (nonzero : now.isZero = false)
    (free : ∀ row ∈ store.references, deletesTarget store now row.target = false) :
    ∃ result, pruneRunHistory store now = .ok (result, pruned store now) := by
  have unreferenced : (store.references.all fun row => !deletesTarget
      { store with details := store.details.filter fun row => !decide (row.occurredAt < now - runDetailRetention) }
      now row.target) = true := by
    rw [List.all_eq_true]
    intro row member
    have kept := free row member
    cases target : row.target <;> simp only [target] at kept ⊢ <;> exact Bool.not_eq_true' _ |>.mpr kept
  simp only [pruneRunHistory, nonzero, unreferenced, ensure, Bool.not_false, ↓reduceIte]
  exact ⟨_, rfl⟩

theorem prunes_iff :
    (∃ result after, pruneRunHistory store now = .ok (result, after) ∧ Prunes store now after) ↔
      now.isZero = false ∧ NoneInterrupted store now ∧
        ∀ row ∈ store.references, ¬ GoneTarget store now row.target := by
  constructor
  · rintro ⟨result, after, done, prunes⟩
    obtain ⟨nonzero, free, rfl⟩ := pruneRunHistory_eq_ok done
    have settled : NoneInterrupted store now := by
      intro row member interrupted old
      have kept := (prunes.runs row).mpr ⟨member, fun expired => by simp [Expired, terminalRunStatus, interrupted] at expired⟩
      have selected := (Table.mem_delete.mp kept).2
      simp [expiredSummary, interrupted, old] at selected
    refine ⟨nonzero, settled, fun row member => ?_⟩
    exact (not_deletes_iff (deletesTarget_iff settled)).mp (free row member)
  · rintro ⟨nonzero, settled, free⟩
    obtain ⟨result, done⟩ := pruneRunHistory_succeeds nonzero fun row member =>
      (not_deletes_iff (deletesTarget_iff settled)).mpr (free row member)
    exact ⟨result, pruned store now, done, pruned_prunes settled⟩

end VskLabs.Retention

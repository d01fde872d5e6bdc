import VskLabs.Run.History
import VskLabs.Acknowledgement.Service

/-! Which run holds an acknowledgement. The column is written once, with the run,
and its index admits one holder; only retention takes a holder away. -/

namespace VskLabs
open Library RunRepository ExecutorLeaseRepository

variable {run : Run} {store after : Store} {query : Call}

def Store.holds (store : Store) (runID : String) : Option (Option String) :=
  (store.document runID).map Run.acknowledgementID

/-- What an answered call does to the holders: nothing, one new run whose
acknowledgement no other run holds, or retention. -/
inductive Holders (query : Call) (store after : Store) : Prop where
  | kept (same : ∀ runID, after.holds runID = store.holds runID)
  | created (runID : String) (acknowledgementID : Option String) (absent : store.holds runID = none)
      (unheld : ∀ other id, store.holds other = some (some id) → acknowledgementID ≠ some id)
      (holds : ∀ wanted, after.holds wanted = if wanted = runID then some acknowledgementID else store.holds wanted)
  | pruned (now : Time) (asked : query = .pruneRunHistory now)
      (holds : ∀ wanted, after.holds wanted = store.holds wanted ∨ after.holds wanted = none)

theorem Committed.holders (committed : Committed query store after)
    (agreed : store.Agreed) : Holders query store after := by
  cases committed.documents agreed with
  | kept same => exact .kept fun runID => by rw [Store.holds, Store.holds, same]
  | created request asked law absent documents =>
    refine .created request.run.runID request.run.acknowledgementID (by rw [Store.holds, absent]; rfl) ?_ ?_
    · intro other id held named
      simp only [Store.holds, Store.document, Option.map_map, Option.map_eq_some_iff, Function.comp] at held
      obtain ⟨row, found, holds⟩ := held
      rcases law.unheld row (Table.mem_of_find? found) with none | different
      · cases none.symm.trans named
      · exact different (holds.trans named.symm)
    · intro wanted
      rw [Store.holds, documents]
      split <;> rfl
  | edited old new found law documents =>
    apply Holders.kept
    intro wanted
    rw [Store.holds, documents]
    split
    next here =>
      rw [Store.holds, here, found]
      exact congrArg some law.acknowledgementID
    next => rfl
  | pruned now asked documents =>
    refine .pruned now asked fun wanted => ?_
    rcases documents wanted with same | gone
    · exact .inl (by rw [Store.holds, Store.holds, same])
    · exact .inr (by rw [Store.holds, gone]; rfl)

def Store.SingleHolder (store : Store) : Prop :=
  ∀ first second id, store.holds first = some (some id) → store.holds second = some (some id) → first = second

theorem Holders.single (holders : Holders query store after)
    (single : store.SingleHolder) : after.SingleHolder := by
  intro first second id held again
  cases holders with
  | kept same =>
    rw [same] at held again
    exact single first second id held again
  | created runID acknowledgementID absent unheld holds =>
    rw [holds] at held again
    split at held
    next here =>
      cases held
      split at again
      next there => rw [here, there]
      next => exact absurd rfl (unheld second id again)
    next =>
      split at again
      next =>
        cases again
        exact absurd rfl (unheld first id held)
      next => exact single first second id held again
  | pruned now asked holds =>
    rcases holds first with same | gone
    · rcases holds second with other | lost
      · rw [same] at held
        rw [other] at again
        exact single first second id held again
      · rw [lost] at again
        cases again
    · rw [gone] at held
      cases held

end VskLabs

import Mathlib.Logic.Basic

/-! Transactions whose caller may be refused or may lose the reply. -/

namespace Library

/-- How a transaction can go wrong besides its own checks: refused before it
changes anything, or committed with its reply lost. -/
inductive Fault (ε : Type) where
  | none
  | refused (failure : ε)
  | lost (failure : ε)

variable {ε σ α : Type}

/-- A transaction under a fault. A failed transaction is rolled back. -/
def commit (fault : Fault ε) (transaction : σ → Except ε (α × σ)) (state : σ) : Except ε α × σ :=
  match fault with
  | .refused failure => (.error failure, state)
  | .none =>
    match transaction state with
    | .ok (value, after) => (.ok value, after)
    | .error failure => (.error failure, state)
  | .lost failure =>
    match transaction state with
    | .ok (_, after) => (.error failure, after)
    | .error failure => (.error failure, state)

/-- A read under a fault. -/
def readState (fault : Fault ε) (query : σ → Except ε α) (state : σ) : Except ε α × σ :=
  match fault with
  | .none => (query state, state)
  | .refused failure => (.error failure, state)
  | .lost failure => (.error failure, state)

variable {fault : Fault ε} {transaction : σ → Except ε (α × σ)} {state after : σ}

/-- A transaction under a fault either left the state or committed. -/
theorem commit_cases {outcome : Except ε α × σ} (done : commit fault transaction state = outcome) :
    outcome.2 = state ∨ ∃ value, transaction state = .ok (value, outcome.2) := by
  subst done
  unfold commit
  cases fault with
  | refused failure => exact .inl rfl
  | none =>
    cases ran : transaction state with
    | error failure => exact .inl rfl
    | ok pair => exact .inr ⟨pair.1, rfl⟩
  | lost failure =>
    cases ran : transaction state with
    | error failure => exact .inl rfl
    | ok pair => exact .inr ⟨pair.1, rfl⟩

theorem readState_keeps (fault : Fault ε) (query : σ → Except ε α) (state : σ) :
    (readState fault query state).2 = state := by
  cases fault <;> rfl

theorem readState_ok {value : α} {query : σ → Except ε α} (done : readState fault query state = (.ok value, after)) :
    query state = .ok value := by
  cases fault with
  | none => exact (Prod.mk.inj done).1
  | refused failure => cases done
  | lost failure => cases done

/-- A reply without fault is the transaction's own. -/
theorem commit_ok {value : α} (done : commit fault transaction state = (.ok value, after)) :
    transaction state = .ok (value, after) := by
  unfold commit at done
  cases fault with
  | refused failure => cases done
  | none =>
    cases ran : transaction state with
    | error failure => simp [ran] at done
    | ok pair =>
      rw [ran] at done
      simp only [Prod.mk.injEq, Except.ok.injEq] at done
      rw [← done.1, ← done.2]
  | lost failure => cases ran : transaction state <;> simp [ran] at done

end Library

import Mathlib.Logic.Basic

/-! Sequential machines: a state and the actions taken on it one after another. -/

namespace Library

variable {σ α : Type} {step : σ → α → σ} {condition : σ → α → Prop}

/-- The state after the actions. -/
def execute (step : σ → α → σ) (start : σ) (actions : List α) : σ := actions.foldl step start

/-- Every action meets the condition in the state it is taken in. -/
def Throughout (step : σ → α → σ) (condition : σ → α → Prop) : σ → List α → Prop
  | _, [] => True
  | state, action :: rest => condition state action ∧ Throughout step condition (step state action) rest

instance instDecidableThroughout [∀ state action, Decidable (condition state action)] :
    (start : σ) → (actions : List α) → Decidable (Throughout step condition start actions)
  | _, [] => instDecidableTrue
  | state, action :: rest => @instDecidableAnd _ _ inferInstance (instDecidableThroughout (step state action) rest)

@[simp] theorem execute_nil (start : σ) : execute step start [] = start := rfl

@[simp] theorem execute_cons (start : σ) (action : α) (rest : List α) :
    execute step start (action :: rest) = execute step (step start action) rest := rfl

theorem execute_append (start : σ) (first second : List α) :
    execute step start (first ++ second) = execute step (execute step start first) second := by
  simp [execute]

variable {start : σ} {actions : List α} {property : σ → Prop}

/-- What every action keeps holds in every state. -/
theorem execute_invariant (holds : property start)
    (keeps : ∀ state action, property state → property (step state action)) :
    property (execute step start actions) := by
  induction actions generalizing start with
  | nil => exact holds
  | cons action rest ih => exact ih (keeps start action holds)

/-- What every action keeps holds at the end. -/
theorem Throughout.invariant (along : Throughout step condition start actions) (holds : property start)
    (keeps : ∀ state action, property state → condition state action → property (step state action)) :
    property (execute step start actions) := by
  induction actions generalizing start with
  | nil => exact holds
  | cons action rest ih => exact ih along.2 (keeps start action holds along.1)

/-- A relation that every action satisfies links the first state to the last. -/
theorem Throughout.related (along : Throughout step condition start actions) {relation : σ → σ → Prop} (holds : property start)
    (keeps : ∀ state action, property state → condition state action → property (step state action))
    (refl : ∀ state, relation state state)
    (trans : ∀ first second third, relation first second → relation second third → relation first third)
    (moves : ∀ state action, property state → condition state action → relation state (step state action)) :
    relation start (execute step start actions) := by
  induction actions generalizing start with
  | nil => exact refl start
  | cons action rest ih =>
    exact trans _ _ _ (moves start action holds along.1) (ih along.2 (keeps start action holds along.1))

end Library

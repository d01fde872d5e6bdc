import Mathlib.Logic.Basic

/-! Guards of fallible steps and what a successful outcome says about them. -/

namespace Library

variable {ε α β : Type}

def ensure (condition : Bool) (failure : ε) : Except ε Unit :=
  if condition then .ok () else .error failure

def require (value : Option α) (failure : ε) : Except ε α :=
  match value with
  | some found => .ok found
  | none => .error failure

@[simp] theorem ensure_eq_ok {condition : Bool} {failure : ε} {done : Unit} :
    ensure condition failure = .ok done ↔ condition = true := by
  unfold ensure
  split <;> simp_all

@[simp] theorem require_eq_ok {value : Option α} {failure : ε} {found : α} :
    require value failure = .ok found ↔ value = some found := by
  cases value <;> simp [require]

/-- Peel the first step off a successful computation. -/
theorem bind_eq_ok {first : Except ε α} {next : α → Except ε β} {result : β} :
    (first >>= next) = .ok result ↔ ∃ value, first = .ok value ∧ next value = .ok result := by
  cases first with
  | error failure => simp [bind, Except.bind]
  | ok value => simp [bind, Except.bind]

/-- Pass a guard of a successful computation. -/
theorem ensure_bind {condition : Bool} {failure : ε} {next : Unit → Except ε β} {result : β} :
    (ensure condition failure >>= next) = .ok result ↔ condition = true ∧ next () = .ok result := by
  cases condition <;> simp [ensure, bind, Except.bind]

theorem ok_bind (value : α) (next : α → Except ε β) : (Except.ok value >>= next) = next value := rfl

theorem error_bind (failure : ε) (next : α → Except ε β) : (Except.error failure >>= next) = .error failure := rfl

@[simp] theorem pure_eq_ok {value result : α} :
    (pure value : Except ε α) = .ok result ↔ value = result := by
  simp [pure, Except.pure]

@[simp] theorem throw_ne_ok {failure : ε} {result : α} :
    (throw failure : Except ε α) = .ok result ↔ False := by
  simp [throw, throwThe, MonadExceptOf.throw]

/-- What a successful computation says about its steps, as one set of rewriting rules. -/
theorem peel : (∀ {ε α β : Type} {first : Except ε α} {next : α → Except ε β} {result : β},
      (first >>= next) = .ok result ↔ ∃ value, first = .ok value ∧ next value = .ok result) ∧
    (∀ {ε α : Type} {value result : α}, (pure value : Except ε α) = .ok result ↔ value = result) ∧
    (∀ {ε : Type} {condition : Bool} {failure : ε} {done : Unit}, ensure condition failure = .ok done ↔ condition = true) ∧
    ∀ {ε α : Type} {value : Option α} {failure : ε} {found : α}, require value failure = .ok found ↔ value = some found :=
  ⟨bind_eq_ok, pure_eq_ok, ensure_eq_ok, require_eq_ok⟩

/-- What a passed check says about its parts. -/
theorem checks : (∀ first second : Bool, (first && second) = true ↔ first = true ∧ second = true) ∧
    (∀ {α : Type} [BEq α] [LawfulBEq α] {first second : α}, (first == second) = true ↔ first = second) ∧
    (∀ {statement : Prop} [Decidable statement], decide statement = true ↔ statement) ∧
    (∀ {α : Type} [BEq α] [LawfulBEq α] {first second : α}, (first != second) = true ↔ first ≠ second) ∧
    (∀ first second : Bool, (first || second) = true ↔ first = true ∨ second = true) ∧
    (∀ condition : Bool, (!condition) = true ↔ condition = false) ∧
    ∀ {α : Type} {test : α → Bool} {list : List α}, list.all test = true ↔ ∀ element ∈ list, test element = true :=
  ⟨fun _ _ => Bool.and_eq_true_iff, beq_iff_eq, decide_eq_true_iff, bne_iff_ne, fun _ _ => Bool.or_eq_true_iff,
    by simp, List.all_eq_true⟩

/-- What a search that succeeded has found. -/
theorem finds : (∀ {α : Type} {found : Option α} {test : α → Bool},
      found.any test = true ↔ ∃ value, found = some value ∧ test value = true) ∧
    (∀ {α : Type} {list : List α} {test : α → Bool}, list.any test = true ↔ ∃ element ∈ list, test element = true) ∧
    (∀ {ε α : Type} {result : Except ε α} {value : α}, result.toOption = some value ↔ result = .ok value) ∧
    ∀ {ε α : Type} {result : Except ε α}, result.isOk = true ↔ ∃ value, result = .ok value :=
  ⟨Option.any_eq_true _ _, List.any_eq_true, by rintro _ _ (_ | _) _ <;> simp [Except.toOption],
    by rintro _ _ (_ | _) <;> simp [Except.isOk, Except.toBool]⟩

theorem forall_except {holds : Except ε α → Prop} :
    (∀ result, holds result) ↔ (∀ failure, holds (.error failure)) ∧ ∀ value, holds (.ok value) :=
  ⟨fun all => ⟨fun _ => all _, fun _ => all _⟩, fun both result => Except.rec both.1 both.2 result⟩

theorem map_eq_ok {change : α → β} {result : Except ε α} {value : β} :
    result.map change = .ok value ↔ ∃ given, result = .ok given ∧ change given = value := by
  cases result <;> simp [Except.map]

theorem mapError_eq_ok {δ : Type} {change : ε → δ} {result : Except ε α} {value : α} :
    result.mapError change = .ok value ↔ result = .ok value := by
  cases result <;> constructor <;> rintro ⟨⟩ <;> rfl

/-- A fallible loop that only changes its state at marked elements ends as it
began, or as its last marked element left it. -/
theorem foldlM_last {σ : Type} {step : σ → α → Except ε σ} {elements : List α} {start final : σ} (marked : α → Bool)
    (left : σ → Prop) (skips : ∀ state element, marked element = false → step state element = .ok state)
    (sets : ∀ state, ∀ element ∈ elements, ∀ next, marked element = true → step state element = .ok next → left next)
    (done : elements.foldlM step start = .ok final) :
    (elements.any marked = false ∧ final = start) ∨ (elements.any marked = true ∧ left final) := by
  induction elements generalizing start with
  | nil =>
    cases done
    exact .inl ⟨rfl, rfl⟩
  | cons head rest ih =>
    rw [List.foldlM_cons, bind_eq_ok] at done
    obtain ⟨next, first, done⟩ := done
    have later := ih (fun state element member => sets state element (.tail _ member)) done
    rw [List.any_cons]
    by_cases chosen : marked head = true
    · refine .inr ⟨by simp [chosen], ?_⟩
      rcases later with ⟨_, rfl⟩ | ⟨_, done⟩
      · exact sets _ head (.head _) _ chosen first
      · exact done
    · rw [Bool.not_eq_true] at chosen
      rw [skips _ _ chosen] at first
      cases first
      rw [chosen, Bool.false_or]
      exact later

end Library

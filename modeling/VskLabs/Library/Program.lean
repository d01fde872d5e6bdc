import Mathlib.Data.List.Basic

/-! Programs as trees of requests. A program names the calls it issues and how
it continues after each reply; what a call does is left to its handler. -/

namespace Library

inductive Program (Q : Type) (R : Q → Type) (α : Type) : Type where
  | pure : α → Program Q R α
  | request : (call : Q) → (R call → Program Q R α) → Program Q R α

/-- One issued call together with the reply its caller observed. -/
structure Event (Q : Type) (R : Q → Type) where
  call : Q
  reply : R call

variable {Q : Type} {R : Q → Type} {α β σ : Type}

namespace Program

def bind (program : Program Q R α) (next : α → Program Q R β) : Program Q R β :=
  match program with
  | .pure value => next value
  | .request call rest => .request call fun reply => (rest reply).bind next

instance : Monad (Program Q R) where
  pure := Program.pure
  bind := Program.bind

/-- Issue one call and return its reply. -/
def call (query : Q) : Program Q R (R query) := .request query .pure

/-- Run a program alone against a state. A handler that does not answer stops
the program without a result. -/
def eval (handle : (query : Q) → σ → Option (R query × σ)) : Program Q R α → σ → Option (α × σ)
  | .pure value, state => some (value, state)
  | .request query next, state =>
    (handle query state).bind fun outcome => (next outcome.1).eval handle outcome.2

variable {handle : (query : Q) → σ → Option (R query × σ)}

@[simp] theorem eval_pure (value : α) (state : σ) :
    (Pure.pure value : Program Q R α).eval handle state = some (value, state) := rfl

theorem eval_call_bind (query : Q) (next : R query → Program Q R β) (state : σ) :
    (call query >>= next).eval handle state =
      (handle query state).bind fun outcome => (next outcome.1).eval handle outcome.2 := rfl

theorem eval_bind (program : Program Q R α) (next : α → Program Q R β) (state : σ) :
    (program >>= next).eval handle state =
      (program.eval handle state).bind fun outcome => (next outcome.1).eval handle outcome.2 := by
  change (program.bind next).eval handle state = _
  induction program generalizing state with
  | pure value => rfl
  | request query rest ih =>
    simp only [bind, eval, Option.bind_assoc]
    congr 1
    funext outcome
    exact ih outcome.1 outcome.2

@[simp] theorem return_bind (value : α) (next : α → Program Q R β) :
    ((Pure.pure value : Program Q R α) >>= next) = next value := rfl

@[simp] theorem bind_bind {γ : Type} (program : Program Q R α) (next : α → Program Q R β) (last : β → Program Q R γ) :
    (program >>= next >>= last) = program >>= fun value => next value >>= last := by
  change (program.bind next).bind last = program.bind fun value => (next value).bind last
  induction program with
  | pure _ => rfl
  | request query rest ih => exact congrArg (request query) (funext ih)

theorem ite_bind (condition : Prop) [Decidable condition] (program other : Program Q R α) (next : α → Program Q R β) :
    (if condition then program else other) >>= next = if condition then program >>= next else other >>= next := by
  split <;> rfl

/-- Every call the program can issue is allowed by the calls and replies it
has already seen, newest first, whatever the replies are as long as they are
credible. -/
def Obeys (credible : (query : Q) → R query → Prop) (allowed : List (Event Q R) → Q → Prop)
    (post : α → List (Event Q R) → Prop) : Program Q R α → List (Event Q R) → Prop
  | .pure value, past => post value past
  | .request query next, past =>
    allowed past query ∧ ∀ reply, credible query reply →
      (next reply).Obeys credible allowed post (⟨query, reply⟩ :: past)

variable {credible : (query : Q) → R query → Prop} {allowed : List (Event Q R) → Q → Prop} {past : List (Event Q R)}

variable {post : α → List (Event Q R) → Prop} {program : Program Q R α}

variable {condition : Prop} [Decidable condition] {query : Q} {other : Program Q R α}

@[simp] theorem obeys_pure (value : α) :
    (Pure.pure value : Program Q R α).Obeys credible allowed post past ↔ post value past := Iff.rfl

-- a program is elaborated with the type of the reply computed, so that type stays out of the index
@[simp] theorem obeys_call_bind {next : R query → Program Q R α} :
    (@Bind.bind (Program Q R) _ (no_index (R query)) α (call query) next).Obeys credible allowed post past ↔
      allowed past query ∧ ∀ reply, credible query reply →
        (next reply).Obeys credible allowed post (⟨query, reply⟩ :: past) := Iff.rfl

@[simp] theorem obeys_ite : (if condition then program else other).Obeys credible allowed post past ↔
    (condition → program.Obeys credible allowed post past) ∧ (¬ condition → other.Obeys credible allowed post past) := by
  split <;> simp_all

theorem Obeys.weaken {other : α → List (Event Q R) → Prop}
    (obeys : program.Obeys credible allowed post past)
    (implies : ∀ value later, post value later → other value later) :
    program.Obeys credible allowed other past := by
  induction program generalizing past with
  | pure value => exact implies value past obeys
  | request query rest ih => exact ⟨obeys.1, fun reply believed => ih reply (obeys.2 reply believed)⟩

theorem Obeys.bind {next : α → Program Q R β} {mid : α → List (Event Q R) → Prop}
    {post : β → List (Event Q R) → Prop} (first : program.Obeys credible allowed mid past)
    (second : ∀ value later, mid value later → (next value).Obeys credible allowed post later) :
    (program >>= next).Obeys credible allowed post past := by
  change (program.bind next).Obeys credible allowed post past
  induction program generalizing past with
  | pure value => exact second value past first
  | request query rest ih => exact ⟨first.1, fun reply believed => ih reply (first.2 reply believed)⟩

/-- A program only ever adds to what it has seen. -/
theorem Obeys.grows (obeys : program.Obeys credible allowed post past) :
    program.Obeys credible allowed (fun value later => post value later ∧ past ⊆ later) past := by
  induction program generalizing past with
  | pure value => exact ⟨obeys, List.Subset.refl past⟩
  | request query rest ih =>
    refine ⟨obeys.1, fun reply believed => (ih reply (obeys.2 reply believed)).weaken ?_⟩
    rintro value later ⟨holds, inside⟩
    exact ⟨holds, fun event member => inside (.tail _ member)⟩

theorem obeys_of_all (permits : ∀ past query, allowed past query) (program : Program Q R Unit) :
    program.Obeys credible allowed (fun _ _ => True) past := by
  induction program generalizing past with
  | pure value => trivial
  | request query rest ih => exact ⟨permits past query, fun reply _ => ih reply⟩

/-- Every call the program can issue is of the given kind. -/
def Issues (kind : Q → Prop) : Program Q R α → Prop
  | .pure _ => True
  | .request query next => kind query ∧ ∀ reply, (next reply).Issues kind

variable {kind : Q → Prop}

@[simp] theorem issues_pure (value : α) : (Pure.pure value : Program Q R α).Issues kind := trivial

@[simp] theorem issues_call : @Issues Q R (no_index (R query)) kind (call query) ↔ kind query :=
  and_iff_left fun _ => trivial

@[simp] theorem issues_call_bind {next : R query → Program Q R α} :
    (@Bind.bind (Program Q R) _ (no_index (R query)) α (call query) next).Issues kind ↔
      kind query ∧ ∀ reply, (next reply).Issues kind := Iff.rfl

@[simp] theorem issues_ite : (if condition then program else other).Issues kind ↔
    (condition → program.Issues kind) ∧ (¬ condition → other.Issues kind) := by
  split <;> simp_all

theorem Issues.bind {next : α → Program Q R β}
    (first : program.Issues kind) (second : ∀ value, (next value).Issues kind) : (program >>= next).Issues kind := by
  change (program.bind next).Issues kind
  induction program with
  | pure value => exact second value
  | request query rest ih => exact ⟨first.1, fun reply => ih reply (first.2 reply)⟩

/-- What a program of permitted calls of a kind adds to its past is of that kind. -/
theorem Obeys.tracked (obeys : program.Obeys credible (fun past query => allowed past query ∧ kind query) post past) :
    program.Obeys credible allowed (fun value later => post value later ∧
      ∃ new, later = new ++ past ∧ ∀ event ∈ new, kind event.call) past := by
  induction program generalizing past with
  | pure value => exact ⟨obeys, [], rfl, by simp⟩
  | request query rest ih =>
    obtain ⟨⟨permitted, mine⟩, next⟩ := obeys
    refine ⟨permitted, fun reply believed => (ih reply (next reply believed)).weaken ?_⟩
    rintro value later ⟨holds, new, rfl, kinds⟩
    exact ⟨holds, new ++ [⟨query, reply⟩], by simp, List.forall_mem_append.mpr ⟨kinds, by simpa using mine⟩⟩

/-- A program whose calls need no permission adds calls of its kind only. -/
theorem Issues.obeys (issues : program.Issues kind)
    (free : ∀ past query, kind query → allowed past query) :
    program.Obeys credible allowed (fun _ later => ∃ new, later = new ++ past ∧ ∀ event ∈ new, kind event.call) past := by
  have obeys : program.Obeys credible (fun past query => allowed past query ∧ kind query) (fun _ _ => True) past := by
    induction program generalizing past with
    | pure value => trivial
    | request query rest ih => exact ⟨⟨free past query issues.1, issues.1⟩, fun reply _ => ih reply (issues.2 reply)⟩
  exact obeys.tracked.weaken fun _ _ both => both.2

end Program

end Library

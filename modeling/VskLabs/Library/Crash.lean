import VskLabs.Library.Outcome

/-! Procedures on durable state. A procedure is a sequence of atomic writes; a crash
stops it between two of them and leaves what the last one wrote. -/

namespace Library

variable {ε σ α β : Type}

/-- The states a procedure writes, in order, its answer, and the state it ends in. -/
structure Passage (ε σ α : Type) where
  written : List σ
  answer : Except ε α
  final : σ

def Procedure (ε σ α : Type) := σ → Passage ε σ α

namespace Procedure

def bind (first : Procedure ε σ α) (next : α → Procedure ε σ β) : Procedure ε σ β := fun state =>
  match (first state).answer with
  | .error failure => ⟨(first state).written, .error failure, (first state).final⟩
  | .ok value =>
    let after := next value (first state).final
    ⟨(first state).written ++ after.written, after.answer, after.final⟩

instance : Monad (Procedure ε σ) where
  pure value state := ⟨[], .ok value, state⟩
  bind := bind

/-- Read the state, or stop. -/
def look (reading : σ → Except ε α) : Procedure ε σ α := fun state => ⟨[], reading state, state⟩

/-- One atomic write, or stop without it. -/
def write (change : σ → Except ε σ) : Procedure ε σ Unit := fun state =>
  match change state with
  | .ok after => ⟨[after], .ok (), after⟩
  | .error failure => ⟨[], .error failure, state⟩

/-- Where a crash can leave the state. -/
def left (procedure : Procedure ε σ α) (state : σ) : List σ := state :: (procedure state).written

/-- The state after a call that a crash may have cut off after some of its writes. -/
def cutOff (procedure : Procedure ε σ α) (state : σ) (crash : Option Nat) : σ :=
  (crash.bind fun writes => (procedure.left state)[writes]?).getD (procedure state).final

variable {first : Procedure ε σ α} {next : α → Procedure ε σ β} {state : σ} {property : σ → Prop}

theorem pure_apply (value : α) : (pure value : Procedure ε σ α) state = ⟨[], .ok value, state⟩ := rfl

theorem bind_ok {value : α} (answered : (first state).answer = .ok value) :
    (first >>= next) state = ⟨(first state).written ++ (next value (first state).final).written,
      (next value (first state).final).answer, (next value (first state).final).final⟩ := by
  change bind first next state = _
  simp only [bind, answered]

theorem bind_error {failure : ε} (answered : (first state).answer = .error failure) :
    (first >>= next) state = ⟨(first state).written, .error failure, (first state).final⟩ := by
  change bind first next state = _
  simp only [bind, answered]

theorem bind_answered {result : β} (answered : ((first >>= next) state).answer = .ok result) :
    ∃ value, (first state).answer = .ok value ∧ (next value (first state).final).answer = .ok result ∧
      ((first >>= next) state).final = (next value (first state).final).final := by
  cases before : (first state).answer with
  | error failure =>
    rw [bind_error before] at answered
    cases answered
  | ok value =>
    rw [bind_ok before] at answered ⊢
    exact ⟨value, rfl, answered, rfl⟩

theorem bind_assoc {γ : Type} (last : β → Procedure ε σ γ) :
    (first >>= next) >>= last = first >>= fun value => next value >>= last := by
  funext state
  cases before : (first state).answer with
  | error failure =>
    rw [bind_error before, bind_error]
    · rw [bind_error before]
    · rw [bind_error before]
  | ok value =>
    rw [bind_ok before]
    cases after : (next value (first state).final).answer with
    | error failure =>
      rw [bind_error after, bind_error]
      · rw [bind_ok before]
      · rw [bind_ok before, after]
    | ok result =>
      rw [bind_ok after, bind_ok (by rw [bind_ok before]; exact after), bind_ok before]
      simp

theorem look_bind (reading : σ → Except ε α) : (look reading >>= next) state =
    match reading state with
    | .ok value => next value state
    | .error failure => ⟨[], .error failure, state⟩ := by
  cases answered : reading state with
  | ok value => rw [bind_ok (show (look reading state).answer = .ok value from answered)]; rfl
  | error failure => exact bind_error answered

theorem write_bind (change : σ → Except ε σ) (next : Unit → Procedure ε σ β) : (write change >>= next) state =
    match change state with
    | .ok after => ⟨after :: (next () after).written, (next () after).answer, (next () after).final⟩
    | .error failure => ⟨[], .error failure, state⟩ := by
  change bind (write change) next state = _
  cases changed : change state <;> simp [bind, write, changed]

theorem write_answered {change : σ → Except ε σ} {done : Unit} (answered : (write change state).answer = .ok done) :
    ∃ after, change state = .ok after ∧ write change state = ⟨[after], .ok (), after⟩ := by
  cases changed : change state with
  | error failure => simp [write, changed] at answered
  | ok after => exact ⟨after, rfl, by simp only [write, changed]⟩

theorem write_refused {change : σ → Except ε σ} {failure : ε} (answered : (write change state).answer = .error failure) :
    (write change state).written = [] := by
  cases changed : change state with
  | error failure => simp only [write, changed]
  | ok after => simp [write, changed] at answered

/-- Every write keeps the property. -/
def Keeps (property : σ → Prop) (procedure : Procedure ε σ α) : Prop :=
  ∀ state, property state →
    (∀ after ∈ (procedure state).written, property after) ∧ property (procedure state).final

theorem keeps_pure (value : α) : Keeps property (pure value : Procedure ε σ α) :=
  fun _ holds => ⟨by simp [pure], holds⟩

theorem keeps_look (reading : σ → Except ε α) : Keeps property (look reading) :=
  fun _ holds => ⟨by simp [look], holds⟩

theorem keeps_write {change : σ → Except ε σ}
    (keeps : ∀ state after, property state → change state = .ok after → property after) : Keeps property (write change) := by
  intro state holds
  simp only [write]
  split
  next after changed =>
    have held := keeps state after holds changed
    exact ⟨by simpa using held, held⟩
  next => exact ⟨by simp, holds⟩

theorem Keeps.bind (before : Keeps property first)
    (after : ∀ state value, (first state).answer = .ok value → Keeps property (next value)) :
    Keeps property (first >>= next) := by
  intro state holds
  obtain ⟨written, final⟩ := before state holds
  cases answered : (first state).answer with
  | error failure =>
    rw [bind_error answered]
    exact ⟨written, final⟩
  | ok value =>
    rw [bind_ok answered]
    obtain ⟨later, last⟩ := after state value answered _ final
    refine ⟨fun reached member => ?_, last⟩
    rcases List.mem_append.mp member with early | late
    · exact written reached early
    · exact later reached late

theorem Keeps.cutOff {procedure : Procedure ε σ α} (keeps : Keeps property procedure) (holds : property state)
    (crash : Option Nat) : property (procedure.cutOff state crash) := by
  unfold Procedure.cutOff
  cases found : crash.bind fun writes => (procedure.left state)[writes]? with
  | none => exact (keeps state holds).2
  | some after =>
    obtain ⟨writes, _, reached⟩ := Option.bind_eq_some_iff.mp found
    rcases List.mem_cons.mp (List.mem_of_getElem? reached) with rfl | written
    · exact holds
    · exact (keeps state holds).1 after written

end Procedure

end Library

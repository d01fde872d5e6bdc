import VskLabs.Library.Concurrent

/-! Threads that take turns: each of them calls without interference until it
ends or is lost in a crash. -/

namespace Library.System

variable {Q : Type} {R : Q → Type} {service : Service Q R}

/-- The call of the thread that called last, or of one that never called. -/
def inTurn (earlier : List (Entry service)) (entry : Entry service) : Prop :=
  (∀ last ∈ earlier.head?, last.thread = entry.thread) ∨ ∀ old ∈ earlier, old.thread ≠ entry.thread

instance (earlier : List (Entry service)) (entry : Entry service) : Decidable (inTurn earlier entry) :=
  inferInstanceAs (Decidable (_ ∨ _))

instance decidableAlong {ε : Type} {admits : List ε → ε → Prop} [∀ earlier entry, Decidable (admits earlier entry)] :
    (history : List ε) → Decidable (Along admits history)
  | [] => isTrue trivial
  | last :: earlier =>
    have : Decidable (Along admits earlier) := decidableAlong earlier
    inferInstanceAs (Decidable (admits earlier last ∧ Along admits earlier))

variable {inv : service.State → List (Entry service) → List (Event Q R) → Prop}
  {admits : List (Entry service) → Entry service → Prop} {initial final : service.State} {history : List (Entry service)}

/-- In turn, an invariant may speak of the past of the thread that calls: it has
to hold of a new thread whenever it holds of one that is left. -/
theorem Linked.inTurn (starts : inv initial [] []) (leaves : ∀ state history past, inv state history past → inv state history [])
    (keeps : ∀ earlier entry, inv entry.before earlier (eventsOf entry.thread earlier) → admits earlier entry →
      inv entry.after (entry :: earlier) (entry.event :: eventsOf entry.thread earlier))
    (linked : Linked initial history final) (along : Along admits history) (turns : Along inTurn history) :
    Along (fun earlier entry => inv entry.before earlier (eventsOf entry.thread earlier) ∧ admits earlier entry) history ∧
      ∀ next, System.inTurn history next → inv final history (eventsOf next.thread history) := by
  induction history generalizing final with
  | nil =>
    cases linked
    exact ⟨trivial, fun _ _ => starts⟩
  | cons last earlier ih =>
    obtain ⟨rfl, before⟩ := linked
    obtain ⟨held, here⟩ := ih before along.2 turns.2
    have kept := keeps earlier last (here last turns.1) along.1
    refine ⟨⟨⟨here last turns.1, along.1⟩, held⟩, fun next turn => ?_⟩
    rcases turn with same | new
    · simpa only [eventsOf, if_pos (same last rfl)] using same last rfl ▸ kept
    · rw [eventsOf_eq_nil new]
      exact leaves _ _ _ kept

end Library.System

import Mathlib.Logic.Basic

/-! Keyed transactions. A key is recorded with the digest of its request; asked
again it answers without running. -/

namespace Library

variable {σ κ δ τ : Type}

/-- What a keyed transaction reads of a state. -/
structure Register (σ κ δ τ : Type) where
  token : σ → τ
  digestOf : σ → κ → Option δ

/-- One transaction that succeeded. `created` tells a first run from a replay. -/
structure Keyed (register : Register σ κ δ τ) (expected : Option τ) (key : κ) (digest : δ) (body : σ → σ → Prop)
    (before : σ) (created : Bool) (after : σ) : Prop where
  current : ∀ token ∈ expected, token = register.token before
  replayed : created = false → register.digestOf before key = some digest ∧ after = before
  recorded : created = true → register.digestOf before key = none ∧ body before after ∧
    register.digestOf after key = some digest

variable {register : Register σ κ δ τ} {expected : Option τ} {key : κ} {digest : δ} {body : σ → σ → Prop}
  {before after : σ} {created : Bool}

/-- Afterwards the key is recorded, and under a recorded key nothing changes. -/
theorem Keyed.settled (keyed : Keyed register expected key digest body before created after) :
    (register.digestOf after key).isSome = true ∧ ((register.digestOf before key).isSome = true → after = before) := by
  cases created with
  | false =>
    obtain ⟨found, same⟩ := keyed.replayed rfl
    exact ⟨by simp [same, found], fun _ => same⟩
  | true =>
    obtain ⟨free, _, stored⟩ := keyed.recorded rfl
    exact ⟨by simp [stored], fun recorded => by simp [free] at recorded⟩

/-- One transaction that expects a revision and may raise it. -/
structure Revised (token : σ → Int × Int) (expected : Option (Int × Int)) (advances : Bool) (before after : σ) : Prop where
  current : ∀ given ∈ expected, given = token before
  moved : token after = ((token before).1 + if advances then 1 else 0, (token before).2)

end Library

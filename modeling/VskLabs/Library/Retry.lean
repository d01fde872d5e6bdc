import Mathlib.Data.Int.Init

/-! Numbered attempts at one task by a worker that may be lost at any time. It files
an attempt under a new number, starts it and submits a run; the task waits for
another attempt only when the run was seen without effect. -/

namespace Library

inductive TrialStage where
  | filed | started | submitted | untouched
  deriving DecidableEq

/-- How far the worker is with an attempt. -/
structure Trial (ρ : Type) where
  stage : TrialStage
  number : Int
  run : ρ

inductive TaskStatus (ρ : Type) where
  | closed
  | running (run : ρ)
  | waiting

/-- The numbers in use, the submitted ones, and the submissions whose run was
not yet seen without effect. -/
structure Ledger (ρ : Type) where
  status : TaskStatus ρ
  trial : Option (Trial ρ)
  used : Int → Prop
  submitted : Int → Prop
  pending : Int → ρ → Prop

variable {ρ : Type}

namespace Ledger

/-- Once an attempt is started, everything that was submitted before it is below
the limit and was seen without effect. -/
structure Sound (limit : Int) (ledger : Ledger ρ) : Prop where
  numbered : ∀ number, ledger.used number → 1 ≤ number ∧ (number = 1 ∨ ledger.used (number - 1))
  counted : ∀ number, ledger.submitted number → ledger.used number
  pending : ∀ number run, ledger.pending number run → ledger.submitted number
  last : ∀ trial, ledger.trial = some trial → ledger.used trial.number ∧ ∀ number, ledger.used number → number ≤ trial.number
  unsent : ∀ trial, ledger.trial = some trial → trial.stage = .filed ∨ trial.stage = .started → ¬ ledger.submitted trial.number
  active : ∀ trial, ledger.trial = some trial → trial.stage ≠ .filed → ledger.status ≠ .waiting ∧
    ∀ run, ledger.status = .running run → trial.run = run
  others : ∀ trial, ledger.trial = some trial → trial.stage ≠ .filed → ∀ number run, ledger.pending number run →
    number = trial.number ∧ run = trial.run ∧ trial.stage ≠ .untouched
  below : ∀ trial, ledger.trial = some trial → trial.stage ≠ .filed → ∀ number, ledger.submitted number →
    number ≠ trial.number → number < limit
  running : ∀ run, ledger.status = .running run → ∀ number other, ledger.pending number other → other = run
  waiting : ledger.status = .waiting → (∀ number run, ¬ ledger.pending number run) ∧
    ∀ number, ledger.submitted number → number < limit

theorem Sound.fresh {limit : Int} {used submitted : Int → Prop} {pending : Int → ρ → Prop} (unused : ∀ number, ¬ used number)
    (unsent : ∀ number, ¬ submitted number) (clear : ∀ number run, ¬ pending number run) :
    Sound limit ⟨.closed, none, used, submitted, pending⟩ := by
  constructor <;> grind

variable {limit : Int} {status : TaskStatus ρ} {before trial : Option (Trial ρ)} {used submitted : Int → Prop}
  {pending : Int → ρ → Prop} (sound : Sound limit ⟨status, before, used, submitted, pending⟩) {number : Int} {run : ρ}
include sound

theorem Sound.lower {smaller : Int} (inside : used number) (positive : 1 ≤ smaller) (le : smaller ≤ number) :
    used smaller := by
  induction number, le using Int.leInduction with
  | base => exact inside
  | succ number le ih =>
    refine ih ?_
    rcases (sound.numbered _ inside).2 with first | before
    · omega
    · simpa using before

/-- Numbers are used up in order, so a new one is above all others. -/
theorem Sound.above {other : Int} (positive : 1 ≤ number) (fresh : ¬ used number) (inside : used other) : other < number :=
  Int.not_le.mp fun le => fresh (sound.lower inside positive le)

/-! In each step a worker that is not told of its success gives its attempt up. -/

theorem Sound.rest {later : TaskStatus ρ} {left : Int → ρ → Prop} (kept : trial = none ∨ trial = before)
    (closed : later = status ∨ later = .closed) (seen : ∀ number run, left number run → pending number run) :
    Sound limit ⟨later, trial, used, submitted, left⟩ := by
  cases sound
  constructor <;> grind

theorem Sound.file {more : Int → Prop} (same : ∀ other, more other ↔ other = number ∨ used other) (positive : 1 ≤ number)
    (fresh : ¬ used number) (next : number = 1 ∨ used (number - 1)) (told : trial = none ∨ trial = some ⟨.filed, number, run⟩) :
    Sound limit ⟨status, trial, more, submitted, pending⟩ := by
  have above : ∀ other, used other → other < number := fun _ => sound.above positive fresh
  cases sound
  constructor <;> grind

theorem Sound.start (mine : before = some ⟨.filed, number, run⟩) (ready : status = .waiting ∨ number = 1)
    (told : trial = none ∨ trial = some ⟨.started, number, run⟩) :
    Sound limit ⟨.running run, trial, used, submitted, pending⟩ := by
  cases sound
  constructor <;> grind

theorem Sound.submit {stage : TrialStage} {sent : Int → Prop} {left : Int → ρ → Prop}
    (started : before = some ⟨.started, number, run⟩) (same : ∀ other, sent other ↔ other = number ∨ submitted other)
    (seen : ∀ other also, left other also → other = number ∧ also = run ∨ pending other also)
    (told : stage = .submitted ∨ stage = .untouched ∧ ∀ other, ¬ left other run) :
    Sound limit ⟨status, some ⟨stage, number, run⟩, used, sent, left⟩ := by
  cases sound
  constructor <;> grind

theorem Sound.retry (untouched : before = some ⟨.untouched, number, run⟩) (small : number < limit) :
    Sound limit ⟨.waiting, none, used, submitted, pending⟩ := by
  cases sound
  constructor <;> grind

theorem Sound.recover (running : status = .running run) (seen : ∀ number, ¬ pending number run)
    (below : ∀ number, used number → number < limit) : Sound limit ⟨.waiting, none, used, submitted, pending⟩ := by
  cases sound
  constructor <;> grind

end Ledger

end Library

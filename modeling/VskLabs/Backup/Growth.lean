import VskLabs.Backup.Effects

/-! Points, verifications, intents, outcomes, generations and lock catalogs are
only added to, and a retirement lease keeps what it was claimed for. -/

namespace VskLabs.Backup
open Library

variable {backups next : Backups} {now : Instant}

structure Grows (backups next : Backups) : Prop where
  points : backups.points.Extends next.points
  verifications : backups.verifications.Extends next.verifications
  intents : backups.intents.Extends next.intents
  outcomes : backups.outcomes.Extends next.outcomes
  generations : backups.generations.Extends next.generations
  activations : backups.activations <+: next.activations

theorem Grows.refl (backups : Backups) : Grows backups backups :=
  ⟨.refl _, .refl _, .refl _, .refl _, .refl _, List.prefix_refl _⟩

variable {call : Call} {lease : RetirementLease}

theorem Call.transact_grows (done : call.transact backups now = .ok next) : Grows backups next := by
  have same := Grows.refl backups
  cases Call.transact_effect done with
  | appendPoint lease points found opened added => exact { same with points := Table.extends_of_insert? added }
  | appendVerification status verifications observations added =>
    exact { same with verifications := Table.extends_of_insert? added }
  | activateLocks => exact { same with activations := List.prefix_append _ _ }
  | stage selection intents canonical current added => exact { same with intents := Table.extends_of_insert? added }
  | beginMutation attempts outcomes extended => exact { same with outcomes := extended }
  | finishMutation outcomes extended => exact { same with outcomes := extended }
  | commit intent generations committed =>
    obtain ⟨_, added, equal⟩ := committed.appended
    cases equal
    exact { same with generations := Table.extends_of_insert? added }
  | _ => exact { same with }

/-- The row of a retirement lease up to its release. -/
def RetirementLease.Continues (old lease : RetirementLease) : Prop :=
  ∃ releasedAt, lease = { old with releasedAt } ∧ (releasedAt = none → old.releasedAt = none)

theorem RetirementLease.Continues.refl (lease : RetirementLease) : lease.Continues lease := ⟨lease.releasedAt, rfl, id⟩

theorem Call.transact_retirements (done : call.transact backups now = .ok next) :
    next.retirements = backups.retirements ∨
      (∃ request intent, call = .claim request ∧ Claimed backups (second now) request intent next) ∨
      ∃ leaseID stamp, next.retirements = releasedRetirements backups leaseID stamp := by
  cases Call.transact_effect done with
  | claim intent retirements claimed => exact .inr (.inl ⟨_, intent, rfl, claimed⟩)
  | commit intent generations committed => exact .inr (.inr ⟨_, _, rfl⟩)
  | _ => exact .inl rfl

theorem mem_releasedRetirements {leaseID : String} {stamp : Time}
    (member : lease ∈ (releasedRetirements backups leaseID stamp).rows) :
    ∃ old ∈ backups.retirements.rows, old.Continues lease := by
  obtain ⟨old, present, rfl⟩ := Table.mem_modify.mp member
  refine ⟨old, present, ?_⟩
  split
  · exact ⟨some stamp, rfl, nofun⟩
  · exact .refl old

theorem Call.retirement_origin (done : call.transact backups now = .ok next)
    (member : lease ∈ next.retirements.rows) :
    (∃ old ∈ backups.retirements.rows, old.Continues lease) ∨
      ∃ request intent, call = .claim request ∧ Claimed backups (second now) request intent next ∧
        lease = request.lease intent.selection (second now) := by
  rcases Call.transact_retirements done with same | ⟨request, intent, rfl, claimed⟩ | ⟨leaseID, stamp, released⟩
  · exact .inl ⟨lease, same ▸ member, .refl lease⟩
  · obtain ⟨retirements, added, equal⟩ := claimed.appended
    rw [equal] at member
    rcases (Table.mem_insert? added).mp member with old | new
    · exact .inl ⟨lease, old, .refl lease⟩
    · exact .inr ⟨request, intent, rfl, claimed, new⟩
  · rw [released] at member
    exact .inl (mem_releasedRetirements member)

theorem Call.retirement_continues (done : call.transact backups now = .ok next) {leaseID : String}
    (found : backups.retirements.find? leaseID = some lease) :
    ∃ after, next.retirements.find? leaseID = some after ∧ lease.Continues after := by
  rcases Call.transact_retirements done with same | ⟨request, intent, rfl, claimed⟩ | ⟨other, stamp, released⟩
  · exact ⟨lease, same ▸ found, .refl lease⟩
  · obtain ⟨retirements, added, rfl⟩ := claimed.appended
    exact ⟨lease, (Table.extends_of_insert? added).find? found, .refl lease⟩
  · rw [released, releasedRetirements, Table.find?_modify, found]
    refine ⟨_, rfl, ?_⟩
    dsimp only
    split
    · exact ⟨some stamp, rfl, by simp⟩
    · exact .refl lease

theorem Call.lastGood_eq (done : call.transact backups now = .ok next)
    (other : ∀ request, call ≠ .advanceLastGood request) : next.lastGood = backups.lastGood := by
  cases Call.transact_effect done with
  | advanceLastGood => exact absurd rfl (other _)
  | _ => rfl

theorem Call.attempts_eq (done : call.transact backups now = .ok next)
    (other : ∀ request, call ≠ .beginMutation request) : next.attempts = backups.attempts := by
  cases Call.transact_effect done with
  | beginMutation => exact absurd rfl (other _)
  | _ => rfl

end VskLabs.Backup

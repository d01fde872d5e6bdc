import VskLabs.Acknowledgement.Queries
import VskLabs.Audit.IntentLaws
import VskLabs.Recovery.Authority

/-! One `executeAuditIntent` serves every repository. The run store and the
acknowledgement store keep its keys among their own tables and leave its events out,
the recovered authority keeps the revision only. Each of them does with a key, or with
the revision, what the engine does. -/

namespace VskLabs
open Library

section Engine

variable {φ β : Type} {call : Audit.Call φ β} {result : Audit.IntentResult}

def Audit.register (φ β : Type) [DecidableEq φ] : Register (Audit.Database φ β) (String × φ) φ (Int × Int) :=
  ⟨fun database => (database.stateRevision, database.recoveryEpoch),
    fun database key => (database.intents.find? key).map Audit.IntentRow.requestDigest⟩

def Audit.Call.expected (call : Audit.Call φ β) : Option (Int × Int) :=
  call.request.expected.map fun token => (token.stateRevision, token.recoveryEpoch)

variable [DecidableEq φ] {hash : Audit.Hash φ}

theorem Audit.appendAuditInTx_keyed {before after : Audit.Database φ β}
    (done : Audit.appendAuditInTx hash call before = .ok (result, after)) :
    Keyed (Audit.register φ β) call.expected call.request.idempotency.key call.request.idempotency.requestDigest
      (fun before after => call.effect before = .ok after.business) before result.created after := by
  constructor
  · intro token expected
    obtain ⟨given, asked, rfl⟩ := Option.mem_map.mp expected
    rw [Audit.appendAuditInTx_expected done given asked]
    rfl
  all_goals
    intro answer
    obtain ⟨event, link, made, rfl⟩ | ⟨rfl, row, found, same, rfl⟩ := Audit.appendAuditInTx_ok done
  · cases answer
  · exact ⟨by simp [Audit.register, found, same], rfl⟩
  · refine ⟨by simp [Audit.register, made.free], made.business, ?_⟩
    have stored : after.intents.find? call.request.idempotency.key = some (call.intentRow event) :=
      Table.find?_eq_some_iff.mpr ⟨by simp [made.intents], rfl⟩
    simp [Audit.register, stored, Audit.Call.intentRow]
  · cases answer

/-! ### The revision -/

theorem Audit.appendAuditInTx_revised {before after : Audit.Database φ β}
    (done : Audit.appendAuditInTx hash call before = .ok (result, after)) :
    Revised (Audit.register φ β).token call.expected result.changed before after := by
  refine ⟨(Audit.appendAuditInTx_keyed done).current, ?_⟩
  obtain ⟨event, link, made, rfl⟩ | ⟨rfl, row, found, same, rfl⟩ := Audit.appendAuditInTx_ok done
  · have epoch : after.recoveryEpoch = before.recoveryEpoch := congrArg Prod.fst made.place
    have revision := made.revision
    cases advances : call.advanceState <;> simp [Audit.register, revision, advances, epoch]
  · simp

theorem Recovery.Authority.mutate_revised {authority next : Recovery.Authority} {expected : Option (Int × Int)} {advances : Bool}
    (done : authority.mutate expected advances = .ok next) :
    Revised (fun authority => (authority.system.stateRevision, authority.system.recoveryEpoch)) expected advances authority next := by
  simp only [Recovery.Authority.mutate, Recovery.Authority.enabled, peel, Option.all_eq_true, checks] at done
  obtain ⟨_, _, _, _, _, epoch, _, revision, done⟩ := done
  refine ⟨fun given asked => Prod.ext (revision given asked) (epoch given asked), ?_⟩
  cases advances <;> cases done <;> simp

end Engine

namespace Acknowledge

def Authority.register : Register Authority Key Digest (Int × Int) :=
  ⟨fun authority => (authority.store.stateRevision, authority.store.recoveryEpoch),
    fun authority key => (authority.keys.find? key).map KeyRow.digest⟩

theorem executeIntent_registered {authority after : Authority} {expected : Option Binding} {key : Key} {digest : Digest}
    {business : Authority → Except Failure Authority} {created : Bool}
    (done : executeIntent authority expected key digest business = .ok (created, after)) :
    Keyed Authority.register (expected.map fun binding => (binding.stateRevision, binding.recoveryEpoch)) key digest
      (fun authority after => ∃ middle keys, business authority = .ok middle ∧ after = { middle with keys := keys })
      authority created after := by
  unfold executeIntent at done
  simp only [↓ensure_bind, Option.all_eq_true, beq_iff_eq] at done
  obtain ⟨epoch, revision, done⟩ := done
  have current : ∀ token ∈ expected.map (fun binding => (binding.stateRevision, binding.recoveryEpoch)),
      token = Authority.register.token authority := by
    intro token asked
    obtain ⟨binding, given, rfl⟩ := Option.mem_map.mp asked
    exact Prod.ext (revision binding given) (epoch binding given)
  cases found : authority.keys.find? key with
  | some row =>
    simp only [found, peel, beq_iff_eq, Prod.mk.injEq] at done
    obtain ⟨_, same, rfl, rfl⟩ := done
    exact ⟨current, fun _ => ⟨by simp [Authority.register, found, same], rfl⟩, fun impossible => by cases impossible⟩
  | none =>
    simp only [found, peel, Prod.mk.injEq] at done
    obtain ⟨middle, ran, keys, added, rfl, rfl⟩ := done
    refine ⟨current, ?_, fun _ => ⟨by simp [Authority.register, found], ⟨middle, keys, ran, rfl⟩, ?_⟩⟩
    · intro impossible
      cases impossible
    · simp [Authority.register, Table.find?_insert? added]

end Acknowledge

end VskLabs

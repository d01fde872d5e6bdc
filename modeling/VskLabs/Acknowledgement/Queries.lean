import VskLabs.Acknowledgement.Holders

/-! What an answered query can have done to the acknowledgement rows, the proofs
and the keys of the decisions. -/

namespace VskLabs.Acknowledge
open Library

def RequestRow.settled (row : RequestRow) (status : Standing) (time : Time) : RequestRow :=
  { row with status := status, decidedAt := some time }

structure SameProofs (before after : Authority) : Prop where
  proofs : after.proofs = before.proofs
  keys : ∀ digest, after.keys.find? (.decision digest) = before.keys.find? (.decision digest)

inductive Changes (query : Query) (before after : Authority) : Prop where
  | kept (same : after.requests = before.requests) (proofs : SameProofs before after)
  | requested (row : RequestRow) (pending : row.status = .pending) (undecided : row.decidedAt = none)
      (unused : row.consumedAt = none) (named : row.pending.acknowledgementID = row.acknowledgementID)
      (fresh : before.requests.find? row.acknowledgementID = none)
      (unplanned : ∀ old ∈ before.requests.rows, old.request.planID ≠ row.request.planID)
      (rows : ∀ id, after.requests.find? id = if row.acknowledgementID = id then some row else before.requests.find? id)
      (proofs : SameProofs before after)
  | decided (record : DecisionRecord) (row : RequestRow) (asked : query = .decide record)
      (found : before.requests.find? row.acknowledgementID = some row) (expected : row.request = record.expected)
      (pending : row.status = .pending) (ends : record.outcome.status ≠ .pending) (unused : row.consumedAt = none)
      (rows : ∀ id, after.requests.find? id = if row.acknowledgementID = id then
        some (row.settled record.outcome.status record.decidedAt) else before.requests.find? id)
      (proofs : ∀ id, after.proofs.find? id = if row.acknowledgementID = id then
        some ⟨row.acknowledgementID, record.outcome⟩ else before.proofs.find? id)
      (keys : ∀ digest, record.outcome.proofDigest ≠ digest →
        after.keys.find? (.decision digest) = before.keys.find? (.decision digest))
  | consumed (time : Time) (selected : RequestRow → Bool)
      (approved : ∀ row, selected row = true → row.status = .approved)
      (rows : ∀ id, after.requests.find? id = (before.requests.find? id).map fun row =>
        if selected row then { row with consumedAt := some time } else row)
      (proofs : SameProofs before after)

variable {authority after : Authority} {created : Bool}

theorem executeIntent_cases {expected : Option Binding} {key : Key} {digest : Digest}
    {business : Authority → Except Failure Authority}
    (done : executeIntent authority expected key digest business = .ok (created, after)) :
    after = authority ∨ ∃ middle keys, business authority = .ok middle ∧ middle.keys.insert? ⟨key, digest⟩ = some keys ∧
      after = { middle with keys := keys } := by
  simp only [executeIntent, peel] at done
  obtain ⟨_, _, _, _, done⟩ := done
  split at done
  · simp only [peel, Prod.mk.injEq] at done
    obtain ⟨_, _, _, rfl⟩ := done
    exact .inl rfl
  · simp only [peel, Prod.mk.injEq] at done
    obtain ⟨middle, ran, keys, added, _, rfl⟩ := done
    exact .inr ⟨middle, keys, ran, added, rfl⟩

theorem SameProofs.refl (authority : Authority) : SameProofs authority authority := ⟨rfl, fun _ => rfl⟩

theorem SameProofs.keyed {row : KeyRow} (proofs : after.proofs = authority.proofs)
    (added : authority.keys.insert? row = some after.keys) (other : ∀ digest, row.key ≠ .decision digest) :
    SameProofs authority after :=
  ⟨proofs, fun digest => by rw [Table.find?_insert? added, if_neg (other digest)]⟩

theorem updateRequests_law {guard : RequestRow → Bool} {change : RequestRow → RequestRow}
    {keeps : ∀ row, (change row).acknowledgementID = row.acknowledgementID}
    (done : updateRequests authority guard change keeps = .ok after) :
    (∀ row ∈ authority.requests.rows, guard row = true → validTransition row (change row) = true) ∧
      after = { authority with requests := authority.requests.modify guard change keeps } := by
  simp only [updateRequests, peel, checks] at done
  obtain ⟨_, allowed, rfl⟩ := done
  refine ⟨fun row member selected => ?_, rfl⟩
  rcases allowed row member with unselected | valid
  · rw [selected] at unselected
    cases unselected
  · exact valid

theorem create_changes {record : CreateRecord}
    (done : Repository.create authority record = .ok (created, after)) :
    Changes (.create record) authority after ∧ after.store = authority.store := by
  simp only [Repository.create] at done
  rcases executeIntent_cases done with rfl | ⟨middle, keys, ran, keyed, rfl⟩
  · exact ⟨.kept rfl (.refl _), rfl⟩
  · simp only [peel, checks] at ran
    obtain ⟨_, _, _, _, _, _, _, unique, requests, added, rfl⟩ := ran
    exact ⟨.requested _ rfl rfl rfl rfl (Table.insert?_eq_some added).1 (fun old member => (unique old member).1)
      (Table.find?_insert? added) (.keyed rfl keyed (by simp)), rfl⟩

theorem decide_changes {record : DecisionRecord} {changed : Bool}
    (done : Repository.decide authority record = .ok (changed, after)) :
    Changes (.decide record) authority after ∧ after.store = authority.store := by
  simp only [Repository.decide] at done
  rcases executeIntent_cases done with rfl | ⟨middle, keys, ran, keyed, rfl⟩
  · exact ⟨.kept rfl (.refl _), rfl⟩
  · simp only [peel, checks] at ran
    obtain ⟨row, found, _, ⟨expected, pending⟩, updated, ran, _, _, proofs, proven, rfl⟩ := ran
    obtain ⟨allowed, rfl⟩ := updateRequests_law ran
    have key := Table.find?_key found
    -- the trigger is what keeps a decision from writing `pending` again
    have valid := allowed row (Table.mem_of_find? found) (by simp [key, pending])
    simp only [validTransition, pending, checks] at valid
    have ends : record.outcome.status ≠ .pending ∧ row.consumedAt = none := by
      rcases valid.2 with ⟨⟨⟨⟨⟨_, ends⟩, _⟩, _⟩, unused⟩, _⟩ | ⟨⟨⟨⟨impossible, _⟩, _⟩, _⟩, _⟩
      · exact ⟨ends, unused⟩
      · cases impossible
    rw [← key] at proven
    refine ⟨.decided record row rfl ?_ expected pending ends.1 ends.2 ?_ (Table.find?_insert? proven) ?_, rfl⟩
    · rw [key]
      exact found
    · intro id
      simp only [Table.find?_modify]
      by_cases here : row.acknowledgementID = id
      · subst here
        rw [key, found]
        simp [key, pending, RequestRow.settled]
      · cases other : authority.requests.find? id with
        | none => simp [here]
        | some stranger =>
          have apart : stranger.acknowledgementID ≠ record.outcome.acknowledgementID := by
            rw [Table.find?_key other, ← key]
            exact Ne.symm here
          simp [here, apart]
    · intro digest other
      rw [Table.find?_insert? keyed, if_neg (by simpa using other)]

theorem consume_changes {stored : Stored} {planID : String} {time : Time} {changed : Bool}
    (done : Repository.consume authority stored planID time = .ok (changed, after)) :
    Changes (.consume stored planID time) authority after ∧ after.store = authority.store := by
  simp only [Repository.consume] at done
  rcases executeIntent_cases done with rfl | ⟨middle, keys, ran, keyed, rfl⟩
  · exact ⟨.kept rfl (.refl _), rfl⟩
  · simp only [peel] at ran
    obtain ⟨updated, ran, _, _, rfl⟩ := ran
    obtain ⟨_, rfl⟩ := updateRequests_law ran
    refine ⟨.consumed time _ ?_ (fun id => by rw [Table.find?_modify]) (.keyed rfl keyed (by simp)), rfl⟩
    intro row selected
    simp only [checks] at selected
    exact selected.1.2

theorem recordDenial_keeps {record : DenialRecord}
    (done : Repository.recordDenial authority record = .ok (created, after)) :
    after.requests = authority.requests ∧ SameProofs authority after ∧ after.store = authority.store := by
  simp only [Repository.recordDenial, peel] at done
  obtain ⟨_, _, done⟩ := done
  rcases executeIntent_cases done with rfl | ⟨middle, keys, ran, keyed, rfl⟩
  · exact ⟨rfl, .refl _, rfl⟩
  · cases ran
    exact ⟨rfl, .keyed rfl keyed (by simp), rfl⟩

theorem commit_changes {α : Type} {query : Query} {fault : Fault Failure}
    {transaction : Authority → Except Failure (α × Authority)} {reply : Except Failure α}
    (law : ∀ value later, transaction authority = .ok (value, later) →
      Changes query authority later ∧ later.store = authority.store)
    (done : commit fault transaction authority = (reply, after)) :
    Changes query authority after ∧ after.store = authority.store := by
  rcases commit_cases done with same | ⟨value, ran⟩
  · cases same
    exact ⟨.kept rfl (.refl _), rfl⟩
  · exact law value after ran

theorem answer_changes {query : Query} {reaction : Reaction} {reply : query.Reply}
    (answered : answer query reaction authority = some (reply, after)) :
    Changes query authority after ∧
      (after.store = authority.store ∨ ∃ call choice, ∃ outcome : Reply call, query = .run call ∧
        respond call choice authority.store = some (outcome, after.store)) := by
  suffices decisive : (Changes query authority after ∧ after.store = authority.store) ∨
      (after.requests = authority.requests ∧ SameProofs authority after) ∧
        ∃ call choice, ∃ outcome : Reply call, query = .run call ∧
          respond call choice authority.store = some (outcome, after.store) by
    rcases decisive with ⟨changes, same⟩ | ⟨⟨kept, proofs⟩, call⟩
    · exact ⟨changes, .inl same⟩
    · exact ⟨.kept kept proofs, .inr call⟩
  have untouched : after = authority → Changes query authority after ∧ after.store = authority.store := by
    rintro rfl
    exact ⟨.kept rfl (.refl _), rfl⟩
  cases query with
  | clock | validateCurrent _ | authorize _ _ _ | admissionActivated _ =>
    exact .inl (untouched (by cases reaction <;> simp_all [answer]))
  | get _ | verifyRunClaim _ _ _ =>
    cases reaction with
    | store fault =>
      simp only [answer, Option.some.injEq] at answered
      have same := congrArg Prod.snd answered
      simp only [readState_keeps] at same
      exact .inl (untouched same.symm)
    | _ => simp [answer] at answered
  | create _ | decide _ | consume _ _ _ | recordDenial _ =>
    cases reaction with
    | store fault =>
      simp only [answer, Option.some.injEq] at answered
      refine .inl (commit_changes (fun _ _ ran => ?_) answered)
      first
        | exact create_changes ran
        | exact decide_changes ran
        | exact consume_changes ran
        | exact ⟨.kept (recordDenial_keeps ran).1 (recordDenial_keeps ran).2.1, (recordDenial_keeps ran).2.2⟩
    | _ => simp [answer] at answered
  | run call =>
    cases reaction with
    | run choice =>
      simp only [answer, Option.map_eq_some_iff, Prod.mk.injEq] at answered
      obtain ⟨⟨outcome, store⟩, responded, rfl, rfl⟩ := answered
      exact .inr ⟨⟨rfl, rfl, fun _ => rfl⟩, call, choice, outcome, rfl, responded⟩
    | _ => simp [answer] at answered

end VskLabs.Acknowledge

import VskLabs.Audit.IntentLaws

/-! Audit intents happen once and as a whole: over any sequence of calls, with
any callbacks and faults, every layer of an intent is committed or none is. -/

namespace VskLabs.Audit
open Library

variable {φ β : Type} [DecidableEq φ] {hash : Hash φ} {call : Call φ β} {store : Store φ β}

def Store.token (store : Store φ β) : RevisionToken := ⟨store.database.stateRevision, store.database.recoveryEpoch⟩

def Call.Current (call : Call φ β) (store : Store φ β) : Prop :=
  ∀ token ∈ call.request.expected, token = store.token

/-- How a call can end. Either the database is as it was, and a positive answer
repeats the recorded one, or one event was created, and the caller may only not
hear of it when the reply is lost after the commit. -/
inductive Ended (hash : Hash φ) (call : Call φ β) (store : Store φ β) :
    Except Failure IntentResult × Store φ β → Prop where
  | failed {failure health} (tracks : health.revision = store.health.revision) :
      Ended hash call store (.error failure, ⟨store.database, health⟩)
  | replayed {row health} (current : call.Current store) (tracks : health.revision = store.health.revision)
      (found : store.database.intents.find? call.request.idempotency.key = some row)
      (same : row.requestDigest = call.request.idempotency.requestDigest) :
      Ended hash call store
        (.ok ⟨false, row.stateRevision, row.recoveryEpoch, row.eventID, false⟩, ⟨store.database, health⟩)
  | created {event link after health answer} (current : call.Current store)
      (made : Created hash call event link store.database after)
      (tracks : health.revision = if call.advanceState then ⟨after.stateRevision, store.database.recoveryEpoch⟩
        else store.health.revision)
      (reply : answer = .ok ⟨call.advanceState, after.stateRevision, store.database.recoveryEpoch,
          after.auditSequence, true⟩ ∨
        ∃ failure, call.faults .afterCommit = some failure ∧ answer = .error failure) :
      Ended hash call store (answer, ⟨after, health⟩)

theorem Ended.suspect {failure answered : Failure} {reason : String} :
    Ended hash call store (.error answered, store.suspect failure reason) := by
  unfold Store.suspect
  split
  · exact .failed rfl
  · exact .failed rfl

theorem commitIntent_ended {result : IntentResult} {database : Database φ β}
    (done : appendAuditInTx hash call store.database = .ok (result, database)) :
    Ended hash call store (commitIntent call result database store) := by
  unfold commitIntent
  split
  · exact .failed rfl
  split
  · exact .failed rfl
  split
  · exact .failed rfl
  split
  · next failure _ =>
    unfold Store.suspect
    split
    · exact .failed rfl
    · exact .failed rfl
  have current : call.Current store := appendAuditInTx_expected done
  obtain ⟨event, link, made, rfl⟩ | ⟨rfl, row, found, same, rfl⟩ := appendAuditInTx_ok done
  · split
    · next failure lost => exact .created current made (by cases call.advanceState <;> rfl) (.inr ⟨failure, lost, rfl⟩)
    · exact .created current made (by cases call.advanceState <;> rfl) (.inl rfl)
  · split
    · exact .failed rfl
    · exact .replayed current rfl found same

theorem executeAuditIntent_ended (hash : Hash φ) (call : Call φ β) (store : Store φ β) :
    Ended hash call store (executeAuditIntent hash call store) := by
  unfold executeAuditIntent
  split
  · exact .failed rfl
  split
  · exact .failed rfl
  split
  · exact .suspect
  split
  · exact .failed rfl
  split
  · exact .suspect
  split
  · split
    · exact .failed rfl
    · exact .suspect
  · next result database done => exact commitIntent_ended done

theorem Invocation.ended (hash : Hash φ) (invocation : Invocation φ β) (store : Store φ β) :
    Ended hash invocation.call store (invocation.run hash store) := by
  cases invocation with
  | execute call => exact executeAuditIntent_ended hash call store
  | write call =>
    simp only [Invocation.run, writeIntent]
    split
    · exact .failed rfl
    · exact executeAuditIntent_ended hash _ store

def numbering (count : Nat) : List Int := (List.range count).map fun index : Nat => (index : Int) + 1

theorem numbering_succ (count : Nat) : numbering (count + 1) = numbering count ++ [(count : Int) + 1] := by
  rw [numbering, List.range_succ, List.map_append]
  rfl

/-- A store as `Open` hands it out and every call leaves it: the events are
numbered without a gap, and the process knows the current revision. -/
structure Opened (store : Store φ β) : Prop where
  numbered : ∃ count : Nat, store.database.auditSequence = count ∧
    store.database.events.rows.map EventRow.eventID = numbering count
  tracked : store.health.revision = store.token

theorem Created.numbered {event : Event φ} {link : ChainLink φ} {before after : Database φ β}
    (made : Created hash call event link before after) : event.eventID = after.auditSequence :=
  (eventFromDraft_eq_some hash made.drafted).1

theorem Opened.step {invocation : Invocation φ β} (opened : Opened store) : Opened (invocation.run hash store).2 := by
  have ended := invocation.ended hash store
  generalize invocation.run hash store = outcome at ended
  cases ended with
  | failed tracks => exact ⟨opened.numbered, tracks.trans opened.tracked⟩
  | replayed current tracks found same => exact ⟨opened.numbered, tracks.trans opened.tracked⟩
  | created current made tracks reply =>
    obtain ⟨count, sequence, ids⟩ := opened.numbered
    have next := made.sequence
    have placed := made.place
    simp only [Prod.mk.injEq] at placed
    refine ⟨⟨count + 1, by rw [next, sequence]; rfl, ?_⟩, ?_⟩
    · rw [made.events, List.map_append, ids, numbering_succ, ← sequence, ← next, ← made.numbered]
      rfl
    · have revision := made.revision
      dsimp only
      cases advancing : invocation.call.advanceState with
      | true =>
        rw [tracks, advancing]
        simp [Store.token, placed.1]
      | false =>
        rw [tracks, advancing, if_neg (by simp), opened.tracked]
        rw [advancing] at revision
        simp [Store.token, placed.1, revision]

def perform (hash : Hash φ) (store : Store φ β) (invocations : List (Invocation φ β)) : Store φ β :=
  invocations.foldl (fun current invocation => (invocation.run hash current).2) store

structure Commit (φ β : Type) where
  call : Call φ β
  eventID : Int

def Commit.key (commit : Commit φ β) : String × φ := commit.call.request.idempotency.key

def Commit.requestDigest (commit : Commit φ β) : φ := commit.call.request.idempotency.requestDigest

def commits (hash : Hash φ) : Store φ β → List (Invocation φ β) → List (Commit φ β)
  | _, [] => []
  | store, invocation :: rest =>
    let after := (invocation.run hash store).2
    if after.database.auditSequence = store.database.auditSequence then commits hash after rest
    else ⟨invocation.call, after.database.auditSequence⟩ :: commits hash after rest

def IntentRow.binding (row : IntentRow φ) : (String × φ) × φ × Int := (row.key, row.requestDigest, row.eventID)

def Commit.binding (commit : Commit φ β) : (String × φ) × φ × Int :=
  (commit.key, commit.requestDigest, commit.eventID)

def advances (commits : List (Commit φ β)) : Nat := commits.countP fun commit => commit.call.advanceState

theorem perform_records (hash : Hash φ) (store : Store φ β) (invocations : List (Invocation φ β)) :
    (perform hash store invocations).database.intents.rows.map IntentRow.binding =
        store.database.intents.rows.map IntentRow.binding ++ (commits hash store invocations).map Commit.binding ∧
      (perform hash store invocations).database.stateRevision =
        store.database.stateRevision + advances (commits hash store invocations) := by
  induction invocations generalizing store with
  | nil => simp [perform, commits, advances]
  | cons invocation rest ih =>
    obtain ⟨rows, revision⟩ := ih (invocation.run hash store).2
    have unfolded : perform hash store (invocation :: rest) = perform hash (invocation.run hash store).2 rest := rfl
    rw [unfolded, rows, revision]
    have ended := invocation.ended hash store
    simp only [commits]
    generalize invocation.run hash store = outcome at ended
    cases ended with
    | failed tracks => simp
    | replayed current tracks found same => simp
    | created current made tracks reply =>
      have next := made.sequence
      have moved := made.revision
      rw [if_neg (by dsimp only; omega)]
      dsimp only
      rw [made.intents, moved]
      constructor
      · simp [IntentRow.binding, Commit.binding, Commit.key, Commit.requestDigest, Call.intentRow, IntentRow.key,
          IntentKey.key, made.numbered]
      · simp only [advances, List.countP_cons]
        split
        · simp
          omega
        · simp

theorem perform_opened (opened : Opened store) (invocations : List (Invocation φ β)) :
    Opened (perform hash store invocations) := by
  induction invocations generalizing store with
  | nil => exact opened
  | cons invocation rest ih => exact ih opened.step

theorem commit_recorded {start : Store φ β} {invocations : List (Invocation φ β)} {first : Commit φ β}
    (member : first ∈ commits hash start invocations) :
    ∃ row, (perform hash start invocations).database.intents.find? first.key = some row ∧
      row.requestDigest = first.requestDigest ∧ row.eventID = first.eventID := by
  have bound : first.binding ∈ (perform hash start invocations).database.intents.rows.map IntentRow.binding := by
    rw [(perform_records hash start invocations).1]
    exact List.mem_append_right _ (List.mem_map_of_mem member)
  obtain ⟨row, stored, same⟩ := List.mem_map.mp bound
  simp only [IntentRow.binding, Commit.binding, Prod.mk.injEq] at same
  exact ⟨row, Table.find?_eq_some_iff.mpr ⟨stored, same.1⟩, same.2.1, same.2.2⟩

theorem commits_distinct (hash : Hash φ) (start : Store φ β) (invocations : List (Invocation φ β)) :
    ((commits hash start invocations).map Commit.key).Nodup := by
  have distinct := (perform hash start invocations).database.intents.distinct
  have keys : ∀ rows : List (IntentRow φ), rows.map IntentRow.key = (rows.map IntentRow.binding).map Prod.fst := by
    intro rows
    rw [List.map_map]
    rfl
  rw [keys, (perform_records hash start invocations).1, List.map_append] at distinct
  have later := (List.nodup_append.mp distinct).2.1
  rw [List.map_map] at later
  exact later

structure Undisturbed (hash : Hash φ) (invocation : Invocation φ β) (store : Store φ β) : Prop where
  valid : invocation.call.request.valid hash = true
  callback : ∀ call, invocation = .write call → call.business.isSome = true
  quiet : ∀ stage, invocation.call.faults stage = none
  admitted : store.mutable invocation.call = true

theorem Undisturbed.run_eq {invocation : Invocation φ β} (free : Undisturbed hash invocation store) :
    invocation.run hash store = executeAuditIntent hash invocation.call store := by
  cases invocation with
  | execute call => rfl
  | write call =>
    have present := free.callback call rfl
    simp only [Invocation.run, writeIntent, Option.isNone_eq_false_iff.mpr present]
    rfl

theorem Undisturbed.replays {invocation : Invocation φ β} {row : IntentRow φ} (free : Undisturbed hash invocation store)
    (opened : Opened store) (current : invocation.call.Current store)
    (found : store.database.intents.find? invocation.call.request.idempotency.key = some row)
    (same : row.requestDigest = invocation.call.request.idempotency.requestDigest) :
    (invocation.run hash store).1 = .ok ⟨false, row.stateRevision, row.recoveryEpoch, row.eventID, false⟩ := by
  rw [free.run_eq]
  obtain ⟨valid, -, quiet, admitted⟩ := free
  generalize invocation.call = call at current found same valid quiet admitted
  have pass : ∀ stage, call.faults.pass stage = .ok () := fun stage => Faults.pass_eq_ok.mpr (quiet stage)
  have epochs : (call.request.expected.any fun token => token.recoveryEpoch != store.health.revision.recoveryEpoch) =
      false := by
    rw [Option.any_eq_false]
    intro token expected
    simp [current token expected, opened.tracked]
  have atEpoch : (call.request.expected.all fun token => token.recoveryEpoch == store.database.recoveryEpoch) = true := by
    rw [Option.all_eq_true]
    intro token expected
    simp [current token expected, Store.token]
  have atRevision : (call.request.expected.all fun token => token.stateRevision == store.database.stateRevision) =
      true := by
    rw [Option.all_eq_true]
    intro token expected
    simp [current token expected, Store.token]
  have answered : appendAuditInTx hash call store.database =
      .ok (⟨false, row.stateRevision, row.recoveryEpoch, row.eventID, false⟩, store.database) := by
    simp [appendAuditInTx, pass, atEpoch, atRevision, found, same, ensure, bind, Except.bind, pure, Except.pure]
  simp [executeAuditIntent, valid, epochs, quiet, admitted, answered, commitIntent]

/-- Over any sequence of invocations with any callbacks and faults: a call
commits every layer of its intent or changes nothing, and what fails before the
commit changes nothing; each scope and key commits once; a repetition changes
nothing, fails under another digest, and otherwise repeats the first event
exactly when it expects no revision or the current one; the committed events are
numbered without a gap; the revision counts the state-advancing commits. -/
theorem audit_intents_commit_once (hash : Hash φ) (start : Store φ β) (opened : Opened start)
    (invocations : List (Invocation φ β)) (invocation : Invocation φ β) :
    let store := perform hash start invocations
    let outcome := invocation.run hash store
    let intent := invocation.call.request.idempotency
    (outcome.2.database = store.database ∨
      ∃ event link, Created hash invocation.call event link store.database outcome.2.database) ∧
    (invocation.call.faults .afterCommit = none → ∀ failure, outcome.1 = .error failure →
      outcome.2.database = store.database) ∧
    ((commits hash start invocations).map Commit.key).Nodup ∧
    (∀ first ∈ commits hash start invocations, first.key = intent.key →
      outcome.2.database = store.database ∧
      (first.requestDigest ≠ intent.requestDigest → ∃ failure, outcome.1 = .error failure) ∧
      (first.requestDigest = intent.requestDigest → Undisturbed hash invocation store →
        ((∃ result, outcome.1 = .ok result ∧ result.eventID = first.eventID ∧ result.created = false) ↔
          invocation.call.Current store))) ∧
    (∃ count : Nat, store.database.auditSequence = count ∧
      store.database.events.rows.map EventRow.eventID = numbering count) ∧
    store.database.stateRevision = start.database.stateRevision + advances (commits hash start invocations) ∧
    store.health.revision = store.token := by
  intro store outcome intent
  have reached : Opened store := perform_opened opened invocations
  have ended : Ended hash invocation.call store outcome := invocation.ended hash store
  refine ⟨?_, ?_, commits_distinct hash start invocations, ?_, reached.numbered,
    (perform_records hash start invocations).2, reached.tracked⟩
  · generalize outcome = reply at ended
    cases ended with
    | failed tracks => exact .inl rfl
    | replayed current tracks found same => exact .inl rfl
    | created current made tracks reply => exact .inr ⟨_, _, made⟩
  · intro quiet failure answered
    generalize outcome = reply at ended answered
    cases ended with
    | failed tracks => rfl
    | replayed current tracks found same => rfl
    | created current made tracks reply =>
      obtain sent | ⟨lost, fault, -⟩ := reply
      · cases sent.symm.trans answered
      · cases quiet.symm.trans fault
  · intro first member repeated
    obtain ⟨row, found, digest, id⟩ := commit_recorded member
    rw [repeated] at found
    -- The key is taken, so nothing can be created any more.
    have settled : outcome.2.database = store.database ∧ (first.requestDigest ≠ intent.requestDigest →
        ∃ failure, outcome.1 = .error failure) ∧ (∀ result, outcome.1 = .ok result →
          invocation.call.Current store) := by
      generalize outcome = reply at ended
      cases ended with
      | failed tracks => exact ⟨rfl, fun _ => ⟨_, rfl⟩, fun _ impossible => by cases impossible⟩
      | replayed current tracks other same =>
        cases found.symm.trans other
        exact ⟨rfl, fun differs => absurd (digest.symm.trans same) differs, fun _ _ => current⟩
      | created current made tracks reply => cases found.symm.trans made.free
    refine ⟨settled.1, settled.2.1, ?_⟩
    intro same free
    constructor
    · rintro ⟨result, answered, -⟩
      exact settled.2.2 result answered
    · intro current
      exact ⟨_, free.replays reached current found (digest.trans same), id, rfl⟩

def Database.initial (φ : Type) (instanceID : String) (business : β) : Database φ β where
  stateRevision := 0
  recoveryEpoch := 0
  auditSequence := 0
  instanceID := instanceID
  instances := [instanceID]
  events := .empty
  links := .empty
  geneses := .empty
  intents := .empty
  outbox := .empty
  business := business

/-- The store `Open` makes of a new database. -/
def Store.initial (φ : Type) (instanceID : String) (business : β) : Store φ β where
  database := .initial φ instanceID business
  health := ⟨⟨0, 0⟩, none, true, false⟩

omit [DecidableEq φ] in
theorem Store.initial_opened (instanceID : String) (business : β) : Opened (Store.initial φ instanceID business) :=
  ⟨⟨0, rfl, rfl⟩, rfl⟩

def numberHash : Hash Nat where
  valid _ := true
  sum document :=
    match document with
    | .nothing => 0
    | .event event => 10 * event.eventID.toNat + 1
    | .context _ => 2
    | .link body => 10 * body.eventID.toNat + 3
    | .genesis _ epoch _ _ => 10 * epoch.toNat + 4
    | .range first last _ => 10 * (first + last).toNat + 5
    | .outbox eventID _ _ => 10 * eventID.toNat + 6
    | .suffix first last _ _ => 10 * (first + last).toNat + 7
  sum_valid _ := rfl

def importDraft (expected : Option RevisionToken) : Invocation Nat Nat :=
  .write {
    request := {
      expected := expected
      idempotency := ⟨"inventory-draft", 8, 9⟩
      event := {
        type := "inventory.draft.persisted"
        correlationID := "request-1"
        causationID := none
        correctionOf := none
        attribution := ⟨"principal-1", "local-os-peer", none, none⟩
        target := ⟨"inventory-draft", "draft-1"⟩
        before := none
        after := none }
      destinations := [⟨"audit-primary", true⟩] }
    advanceState := true
    business := some fun database => .ok (database.business + 1)
    clock := 0
    faults := fun _ => none
    cancelled := false
    canary := none }

/-- An import that names the revision it was prepared at commits once, and its
exact repetition is refused: the revision it names is gone because of itself. -/
theorem exact_replay_conflicts :
    let start := Store.initial Nat "instance-1" 0
    let draft := importDraft (some ⟨0, 0⟩)
    (draft.run numberHash start).1 = .ok ⟨true, 1, 0, 1, true⟩ ∧
      (draft.run numberHash (draft.run numberHash start).2).1 = .error (.coded .stateConflict "database-revision") := by
  decide +kernel

/-- Without a revision the repetition answers with the first event. -/
theorem replay_without_revision_returns_first_event :
    let draft := importDraft none
    let store := perform numberHash (Store.initial Nat "instance-1" 0) [draft]
    ∃ result, (draft.run numberHash store).1 = .ok result ∧ result.eventID = 1 ∧ result.created = false := by
  intro draft store
  have moved : (draft.run numberHash (Store.initial Nat "instance-1" 0)).2.database.auditSequence = 1 := by
    decide +kernel
  have committed : commits numberHash (Store.initial Nat "instance-1" 0) [draft] = [⟨draft.call, 1⟩] := by
    have still : (Store.initial Nat "instance-1" 0).database.auditSequence = 0 := rfl
    simp [commits, moved, still]
  have free : Undisturbed numberHash draft store :=
    ⟨by decide +kernel, fun _ same => Invocation.write.inj same ▸ rfl, fun _ => rfl, by decide +kernel⟩
  obtain ⟨-, -, -, repeated, -⟩ := audit_intents_commit_once numberHash (Store.initial Nat "instance-1" 0)
    (Store.initial_opened "instance-1" 0) [draft] draft
  obtain ⟨-, -, replays⟩ := repeated ⟨draft.call, 1⟩ (by rw [committed]; exact List.mem_singleton_self _) rfl
  exact (replays rfl free).mpr fun token expected => by cases expected

end VskLabs.Audit

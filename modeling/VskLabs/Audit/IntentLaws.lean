import VskLabs.Audit.Intent

/-! What a transaction of the audit engine does: nothing, or one event with
everything that belongs to it. -/

namespace VskLabs.Audit
open Library

variable {φ β : Type} [DecidableEq φ] {hash : Hash φ} {faults : Faults} {before after : Database φ β}

theorem Database.insertGenesis_ok {genesis : Genesis φ} (done : before.insertGenesis genesis = .ok after) :
    ∃ geneses, after = { before with geneses := geneses } ∧ before.geneses.insert? genesis = some geneses := by
  simp only [Database.insertGenesis, peel] at done
  obtain ⟨_, _, geneses, added, rfl⟩ := done
  exact ⟨geneses, rfl, added⟩

variable {link : ChainLink φ} {event : Event φ} {ids : ContextIDs} {preAnchor : Bool} {call : Call φ β}

theorem Database.insertLink_ok (done : before.insertLink link = .ok after) :
    ∃ links, after = { before with links := links } ∧ before.links.insert? link = some links := by
  simp only [Database.insertLink, peel] at done
  obtain ⟨_, _, _, _, links, added, rfl⟩ := done
  exact ⟨links, rfl, added⟩

structure Rooted (hash : Hash φ) (epoch : Int) (legacy : Bool) (genesis : φ) (before after : Database φ β) : Prop where
  frame : after = { before with geneses := after.geneses }
  kept : ∀ row ∈ before.geneses.rows, row ∈ after.geneses.rows
  root : ∃ row, after.geneses.find? epoch = some row ∧ row.linkDigest = genesis
  fresh : before.geneses.find? epoch = none → epoch ≤ 0 ∨ legacy = true

theorem ensureAuditGenesis_ok {epoch : Int} {legacy : Bool} {genesis : φ}
    (done : ensureAuditGenesis hash faults before before.instanceID epoch legacy = .ok (genesis, after)) :
    Rooted hash epoch legacy genesis before after := by
  unfold ensureAuditGenesis at done
  obtain ⟨_, -, done⟩ := bind_eq_ok.mp done
  cases found : before.geneses.find? epoch with
  | some row =>
    rw [found] at done
    cases pure_eq_ok.mp done
    exact ⟨rfl, fun _ member => member, ⟨row, found, rfl⟩, fun missing => by cases found.symm.trans missing⟩
  | none =>
    simp only [found, peel, Prod.mk.injEq] at done
    obtain ⟨_, allowed, row, made, _, _, _, inserted, rfl, rfl⟩ := done
    obtain ⟨geneses, rfl, added⟩ := Database.insertGenesis_ok inserted
    have epoch_eq : row.recoveryEpoch = epoch := by
      unfold genesisLink at made
      split at made
      · cases made
        rfl
      · cases made
    refine ⟨rfl, ?_, ⟨row, ?_, rfl⟩, fun _ => by simpa using allowed⟩
    · intro other member
      exact Table.extends_of_insert? added _ member
    · rw [Table.find?_insert? added, if_pos epoch_eq]

def Database.nextSequence (database : Database φ β) (epoch : Int) : Int :=
  ((database.lastLink epoch).map fun link => link.segmentSequence + 1).getD 1

def Database.nextPrevious (database : Database φ β) (epoch : Int) (genesis : φ) : φ :=
  ((database.lastLink epoch).map ChainLink.linkDigest).getD genesis

structure Chained (hash : Hash φ) (event : Event φ) (ids : ContextIDs) (preAnchor : Bool) (link : ChainLink φ)
    (before after : Database φ β) : Prop where
  kept : ∀ row ∈ before.geneses.rows, row ∈ after.geneses.rows
  fresh : before.geneses.find? event.recoveryEpoch = none → event.recoveryEpoch ≤ 0 ∨ preAnchor = true
  added : before.links.insert? link = some after.links
  makes : ∃ row, after.geneses.find? event.recoveryEpoch = some row ∧
    Makes hash event ids before.instanceID (before.nextSequence event.recoveryEpoch)
      (before.nextPrevious event.recoveryEpoch row.linkDigest) preAnchor link

omit [DecidableEq φ] in
theorem Chained.rows (chained : Chained hash event ids preAnchor link before after) :
    after.links.rows = before.links.rows ++ [link] :=
  (Table.insert?_eq_some chained.added).2

theorem chainEvent_ok {refused : Failure}
    (done : chainEvent hash faults before event ids preAnchor refused = .ok after) :
    after = { before with geneses := after.geneses, links := after.links } ∧
      ∃ link, Chained hash event ids preAnchor link before after := by
  simp only [chainEvent, peel] at done
  obtain ⟨⟨genesis, rooted⟩, root, _, _, link, made, _, _, _, _, inserted⟩ := done
  obtain ⟨frame, kept, ⟨row, found, rfl⟩, fresh⟩ := ensureAuditGenesis_ok root
  obtain ⟨links, rfl, added⟩ := Database.insertLink_ok inserted
  rw [frame] at made added
  exact ⟨by rw [frame], link, kept, fresh, added, row, found, makeChainLink_eq_some.mp made⟩

theorem insertOutbox_ok {payloadDigest : φ} {index : Nat} {destinations : List OutboxRequirement}
    (done : insertOutbox hash faults event payloadDigest index destinations before = .ok after) :
    after = { before with outbox := after.outbox } ∧
      after.outbox.rows = before.outbox.rows ++ destinations.map (outboxRow hash event payloadDigest) := by
  induction destinations generalizing index before with
  | nil =>
    cases done
    exact ⟨rfl, (List.append_nil _).symm⟩
  | cons requirement rest ih =>
    simp only [insertOutbox, peel] at done
    obtain ⟨_, _, _, _, outbox, added, _, _, done⟩ := done
    obtain ⟨frame, rows⟩ := ih done
    rw [(Table.insert?_eq_some added).2, List.append_assoc] at rows
    exact ⟨frame, rows⟩

def Call.intentRow (call : Call φ β) (event : Event φ) : IntentRow φ :=
  ⟨call.request.idempotency.scope, call.request.idempotency.keyDigest, call.request.idempotency.requestDigest,
    event.eventID, event.stateRevision, event.recoveryEpoch, event.occurredAt⟩

structure Created (hash : Hash φ) (call : Call φ β) (event : Event φ) (link : ChainLink φ)
    (before after : Database φ β) : Prop where
  free : before.intents.find? call.request.idempotency.key = none
  business : call.effect before = .ok after.business
  revision : after.stateRevision = before.stateRevision + if call.advanceState then 1 else 0
  sequence : after.auditSequence = before.auditSequence + 1
  place : (after.recoveryEpoch, after.instanceID, after.instances) =
    (before.recoveryEpoch, before.instanceID, before.instances)
  drafted : eventFromDraft hash call.request.event after.auditSequence (call.request.eventTime.getD call.clock)
    after.recoveryEpoch after.stateRevision = some event
  events : after.events.rows = before.events.rows ++ [⟨event, hash.sum (.event event)⟩]
  chained : Chained hash event call.request.context false link before after
  intents : after.intents.rows = before.intents.rows ++ [call.intentRow event]
  outbox : after.outbox.rows = before.outbox.rows ++
    call.request.destinations.map (outboxRow hash event (hash.sum (.event event)))

theorem recordIntent_ok {eventID : Int} (done : recordIntent hash call eventID before = .ok after) :
    ∃ event link,
      after = { before with events := after.events, geneses := after.geneses, links := after.links,
                            intents := after.intents, outbox := after.outbox } ∧
      eventFromDraft hash call.request.event eventID (call.request.eventTime.getD call.clock) before.recoveryEpoch
        before.stateRevision = some event ∧
      after.events.rows = before.events.rows ++ [⟨event, hash.sum (.event event)⟩] ∧
      Chained hash event call.request.context false link before after ∧
      before.intents.find? call.request.idempotency.key = none ∧
      after.intents.rows = before.intents.rows ++ [call.intentRow event] ∧
      after.outbox.rows = before.outbox.rows ++
        call.request.destinations.map (outboxRow hash event (hash.sum (.event event))) := by
  simp only [recordIntent, appendAuditLink, peel] at done
  obtain ⟨_, _, event, drafted, payloadDigest, payload, _, _, events, eventAdded, _, _, linked, ⟨_, _, chain⟩, _, _, intents,
    bound, _, _, inserted⟩ := done
  obtain ⟨_, rfl⟩ := (canonicalEvent_eq_some hash).mp payload
  obtain ⟨linkFrame, link, chained⟩ := chainEvent_ok chain
  obtain ⟨outboxFrame, outbox⟩ := insertOutbox_ok inserted
  obtain ⟨id, epoch, revision, -, -⟩ := eventFromDraft_eq_some hash drafted
  rw [linkFrame] at bound outbox outboxFrame
  obtain ⟨free, intentRows⟩ := Table.insert?_eq_some bound
  refine ⟨event, link, ?_, drafted, ?_, ?_, free, ?_, outbox⟩
  · rw [outboxFrame]
  · rw [outboxFrame]
    exact (Table.insert?_eq_some eventAdded).2
  · rw [outboxFrame]
    exact { chained with }
  · rw [outboxFrame]
    simpa only [Call.intentRow, id, epoch, revision] using intentRows

theorem createIntent_ok {result : IntentResult}
    (done : createIntent hash call before = .ok (result, after)) :
    ∃ event link, Created hash call event link before after ∧
      result = ⟨call.advanceState, after.stateRevision, before.recoveryEpoch, after.auditSequence, true⟩ := by
  simp only [createIntent, peel, Prod.mk.injEq] at done
  obtain ⟨business, effect, _, _, _, _, _, _, _, _, _, _, _, _, after, record, rfl, rfl⟩ := done
  obtain ⟨event, link, frame, drafted, events, chained, free, intents, outbox⟩ := recordIntent_ok record
  have revision : after.stateRevision = if call.advanceState then before.stateRevision + 1 else before.stateRevision := by
    rw [frame]
  have sequence : after.auditSequence = before.auditSequence + 1 := by rw [frame]
  refine ⟨event, link, ⟨free, ?_, ?_, sequence, ?_, ?_, events, ?_, intents, outbox⟩, ?_⟩
  · rw [frame]
    exact effect
  · rw [revision]
    split <;> omega
  · rw [frame]
  · rw [revision, sequence, frame]
    exact drafted
  · exact { chained with }
  · rw [revision, sequence]

theorem appendAuditInTx_ok {result : IntentResult}
    (done : appendAuditInTx hash call before = .ok (result, after)) :
    (∃ event link, Created hash call event link before after ∧
      result = ⟨call.advanceState, after.stateRevision, before.recoveryEpoch, after.auditSequence, true⟩) ∨
    (after = before ∧ ∃ row, before.intents.find? call.request.idempotency.key = some row ∧
      row.requestDigest = call.request.idempotency.requestDigest ∧
      result = ⟨false, row.stateRevision, row.recoveryEpoch, row.eventID, false⟩) := by
  unfold appendAuditInTx at done
  iterate 4 obtain ⟨_, -, done⟩ := bind_eq_ok.mp done
  cases found : before.intents.find? call.request.idempotency.key with
  | none =>
    rw [found] at done
    exact .inl (createIntent_ok done)
  | some row =>
    simp only [found, peel, checks, Prod.mk.injEq] at done
    obtain ⟨_, same, rfl, rfl⟩ := done
    exact .inr ⟨rfl, row, rfl, same, rfl⟩

theorem appendAuditInTx_expected {outcome : IntentResult × Database φ β}
    (done : appendAuditInTx hash call before = .ok outcome) :
    ∀ token ∈ call.request.expected, token = ⟨before.stateRevision, before.recoveryEpoch⟩ := by
  simp only [appendAuditInTx, peel] at done
  obtain ⟨_, _, _, epoch, _, revision, _⟩ := done
  intro token expected
  rw [Option.mem_def] at expected
  rw [expected, Option.all_some, beq_iff_eq] at epoch revision
  rw [← epoch, ← revision]

end VskLabs.Audit

import VskLabs.Audit.Verify
import Mathlib.Data.List.Chain

/-! What the digest of an accepted history commits to. It is the digest of the
last link, so it determines the last segment; it says nothing about where a
history starts or about the epochs before the last one. -/

namespace VskLabs.Audit
open Library

abbrev Record (φ : Type) := ChainLink φ × Event φ

section Backward

variable {φ : Type} {hash : Hash φ} {record other : Record φ} {records others : List (Record φ)}

theorem Sealed.unique (injective : Function.Injective hash.sum) (first : Sealed hash record.1 record.2)
    (second : Sealed hash other.1 other.2) (same : record.1.linkDigest = other.1.linkDigest) : record = other := by
  obtain ⟨⟨body, context, digest⟩, event⟩ := record
  obtain ⟨⟨body', context', digest'⟩, event'⟩ := other
  have bodies : body = body' := by
    have sealed := first.makes.sealed.symm.trans (same.trans second.makes.sealed)
    simpa using injective sealed
  have contents := first.makes.body.symm.trans (bodies.trans second.makes.body)
  simp only [LinkBody.mk.injEq] at contents
  obtain ⟨-, -, -, -, -, payload, bound, -⟩ := contents
  have events : event = event' := by simpa using injective payload
  have contexts : context = context' := by simpa using injective bound
  dsimp only at same
  rw [bodies, events, contexts, same]

structure Backward (hash : Hash φ) (records : List (Record φ)) : Prop where
  sealed : ∀ record ∈ records, Sealed hash record.1 record.2
  chain : records.IsChain fun record older => Adjacent older.1 record.1

theorem Backward.tail (history : Backward hash (record :: records)) : Backward hash records :=
  ⟨fun _ member => history.sealed _ (.tail _ member), history.chain.tail⟩

theorem Backward.older (history : Backward hash (record :: other :: records)) : Adjacent other.1 record.1 :=
  (List.isChain_cons_cons.mp history.chain).1

theorem Backward.epoch_le (history : Backward hash (record :: other :: records)) :
    other.1.recoveryEpoch ≤ record.1.recoveryEpoch := by
  by_cases same : record.1.recoveryEpoch = other.1.recoveryEpoch
  · omega
  · have turned := (history.older.turn same).1
    omega

theorem Backward.epochs_le (history : Backward hash (record :: records)) :
    ∀ older ∈ records, older.1.recoveryEpoch ≤ record.1.recoveryEpoch := by
  induction records generalizing record with
  | nil => simp
  | cons next rest ih =>
    intro older member
    obtain rfl | deeper := List.mem_cons.mp member
    · exact history.epoch_le
    · exact le_trans (ih history.tail older deeper) history.epoch_le

theorem Backward.continues_iff (history : Backward hash (record :: other :: records)) :
    other.1.recoveryEpoch = record.1.recoveryEpoch ↔ record.1.segmentSequence ≠ 1 := by
  constructor
  · intro same
    have placed := (history.older.same same.symm).2.1
    have positive := (history.sealed other (by simp)).makes.positive
    omega
  · intro later
    by_contra turned
    exact later (history.older.turn fun same => turned same.symm).2

theorem Backward.oldest (history : Backward hash (record :: records)) {first : Record φ}
    (last : (record :: records).getLast? = some first) : first.1.eventID = record.1.eventID - records.length := by
  induction records generalizing record with
  | nil =>
    cases last
    simp
  | cons next rest ih =>
    rw [List.getLast?_cons_cons] at last
    have deeper := ih history.tail last
    have step := history.older.next
    rw [List.length_cons]
    omega

theorem Backward.unique (injective : Function.Injective hash.sum) (first : Backward hash (record :: records))
    (second : Backward hash (other :: others)) (same : record.1.linkDigest = other.1.linkDigest)
    (length : records.length = others.length)
    (outside : records.filter (fun older => older.1.recoveryEpoch ≠ record.1.recoveryEpoch) =
      others.filter fun older => older.1.recoveryEpoch ≠ record.1.recoveryEpoch) :
    record :: records = other :: others := by
  induction records generalizing record other others with
  | nil =>
    cases List.length_eq_zero_iff.mp length.symm
    rw [Sealed.unique injective (first.sealed record (by simp)) (second.sealed other (by simp)) same]
  | cons next rest ih =>
    obtain ⟨next', rest', rfl⟩ : ∃ next' rest', others = next' :: rest' :=
      List.exists_cons_of_length_pos (by simp [← length])
    obtain rfl := Sealed.unique injective (first.sealed record (by simp)) (second.sealed other (by simp)) same
    by_cases inside : next.1.recoveryEpoch = record.1.recoveryEpoch
    · -- Both continue the segment, so both predecessors carry the digest the link names.
      have inside' : next'.1.recoveryEpoch = record.1.recoveryEpoch :=
        second.continues_iff.mpr (first.continues_iff.mp inside)
      have digests : next.1.linkDigest = next'.1.linkDigest :=
        (first.older.same inside.symm).2.2.symm.trans (second.older.same inside'.symm).2.2
      rw [List.filter_cons_of_neg (by simpa using inside), List.filter_cons_of_neg (by simpa using inside'),
        ← inside] at outside
      rw [ih first.tail second.tail digests (by simpa using length) outside]
    · -- Both have left the epoch, and what lies further back lies outside of it.
      have inside' : next'.1.recoveryEpoch ≠ record.1.recoveryEpoch := fun back =>
        inside (first.continues_iff.mpr (second.continues_iff.mp back))
      have all : ∀ {older : Record φ} {rest : List (Record φ)}, Backward hash (record :: older :: rest) →
          older.1.recoveryEpoch ≠ record.1.recoveryEpoch →
          (older :: rest).filter (fun older => older.1.recoveryEpoch ≠ record.1.recoveryEpoch) = older :: rest := by
        intro older rest history left
        rw [List.filter_eq_self]
        intro entry member
        have bound := history.epoch_le
        obtain rfl | deeper := List.mem_cons.mp member
        · simpa using left
        · have further := history.tail.epochs_le entry deeper
          simp only [ne_eq, decide_not, Bool.not_eq_eq_eq_not, Bool.not_true, decide_eq_false_iff_not]
          omega
      rw [all first inside, all second inside'] at outside
      rw [outside]

end Backward

variable {φ : Type} [DecidableEq φ] {hash : Hash φ} {links : List (ChainLink φ)} {events : List (Event φ)}
  {checkpoints : List (Checkpoint φ)} {result : LocalResult φ}

theorem checkCheckpoints_digest {start : LocalResult φ}
    (accepted : checkCheckpoints hash links checkpoints start = .ok result) : result.localDigest = start.localDigest := by
  induction checkpoints generalizing start with
  | nil =>
    cases accepted
    rfl
  | cons checkpoint rest ih =>
    unfold checkCheckpoints at accepted
    split at accepted
    · exact ih accepted
    · obtain ⟨range, -, accepted⟩ := bind_eq_ok.mp accepted
      have kept := ih accepted
      split at kept
      · exact kept
      · exact kept

theorem verifyLocal_ok (accepted : verifyLocal hash links events checkpoints = .ok result) :
    (links = [] ∧ events = [] ∧ result.localDigest = hash.sum .nothing) ∨
    ∃ last, links.getLast? = some last ∧ links.length = events.length ∧
      checkHistory hash none (links.zip events) = .ok () ∧ result.localDigest = last.linkDigest := by
  unfold verifyLocal at accepted
  split at accepted
  · next empty =>
    split at accepted
    · next none =>
      cases accepted
      exact .inl ⟨List.getLast?_eq_none_iff.mp empty, List.isEmpty_iff.mp none, rfl⟩
    · cases accepted
  · next last found =>
    obtain ⟨_, lengths, accepted⟩ := bind_eq_ok.mp accepted
    obtain ⟨_, walked, accepted⟩ := bind_eq_ok.mp accepted
    exact .inr ⟨last, found, by simpa using lengths, walked, checkCheckpoints_digest accepted⟩

theorem verifyLocal_accepts {last : ChainLink φ} (found : links.getLast? = some last)
    (lengths : links.length = events.length) (walked : checkHistory hash none (links.zip events) = .ok ()) :
    ∃ result, verifyLocal hash links events [] = .ok result ∧ result.localDigest = last.linkDigest := by
  simp [verifyLocal, found, lengths, walked, checkCheckpoints, ensure, bind, Except.bind]

def earlierEpochs (links : List (ChainLink φ)) (events : List (Event φ)) : List (Record φ) :=
  (links.zip events).filter fun record =>
    links.getLast?.all fun last => record.1.recoveryEpoch ≠ last.recoveryEpoch

theorem walked_backward {last : ChainLink φ} (found : links.getLast? = some last) (lengths : links.length = events.length)
    (walked : checkHistory hash none (links.zip events) = .ok ()) :
    ∃ record records, Backward hash (record :: records) ∧ record.1 = last ∧
      links = ((record :: records).map Prod.fst).reverse ∧ events = ((record :: records).map Prod.snd).reverse ∧
      earlierEpochs links events =
        (records.filter fun older => older.1.recoveryEpoch ≠ record.1.recoveryEpoch).reverse := by
  have fsts : (links.zip events).map Prod.fst = links := List.map_fst_zip (le_of_eq lengths)
  have snds : (links.zip events).map Prod.snd = events := List.map_snd_zip (ge_of_eq lengths)
  obtain ⟨sealed, chain⟩ := checkHistory_eq_ok.mp walked
  rw [Option.toList_none, List.nil_append, List.isChain_map] at chain
  obtain empty | ⟨records, record, split⟩ := List.eq_nil_or_concat' (links.zip events)
  · rw [empty] at fsts
    rw [← fsts] at found
    cases found
  · have newest : record.1 = last := by
      rw [← fsts, split, List.map_append, List.map_singleton, List.getLast?_concat] at found
      exact Option.some.inj found
    refine ⟨record, records.reverse, ⟨?_, ?_⟩, newest, ?_, ?_, ?_⟩
    · intro entry member
      exact sealed entry (by rw [split]; simpa [or_comm] using member)
    · have reversed : record :: records.reverse = (links.zip events).reverse := by simp [split]
      rw [reversed, List.isChain_reverse]
      exact chain
    · rw [← fsts, split]
      simp
    · rw [← snds, split]
      simp
    · simp [earlierEpochs, found, newest, split, List.filter_append, List.filter_reverse]

theorem history_of_digest (injective : Function.Injective hash.sum) {links' : List (ChainLink φ)}
    {events' : List (Event φ)} {checkpoints' : List (Checkpoint φ)} {result' : LocalResult φ}
    (accepted : verifyLocal hash links events checkpoints = .ok result)
    (accepted' : verifyLocal hash links' events' checkpoints' = .ok result')
    (same : result.localDigest = result'.localDigest)
    (starts : links.head?.map (fun link => link.eventID) = links'.head?.map (fun link => link.eventID))
    (earlier : earlierEpochs links events = earlierEpochs links' events') : links = links' ∧ events = events' := by
  obtain ⟨rfl, rfl, digest⟩ | ⟨last, found, lengths, walked, digest⟩ := verifyLocal_ok accepted
  · obtain ⟨rfl, rfl, -⟩ | ⟨last', found', -⟩ := verifyLocal_ok accepted'
    · exact ⟨rfl, rfl⟩
    · cases links' with
      | nil => cases found'
      | cons link rest => cases starts
  · obtain ⟨rfl, rfl, -⟩ | ⟨last', found', lengths', walked', digest'⟩ := verifyLocal_ok accepted'
    · cases links with
      | nil => cases found
      | cons link rest => cases starts
    · obtain ⟨record, records, history, rfl, rfl, rfl, outside⟩ := walked_backward found lengths walked
      obtain ⟨other, others, history', rfl, rfl, rfl, outside'⟩ := walked_backward found' lengths' walked'
      have digests : record.1.linkDigest = other.1.linkDigest := digest.symm.trans (same.trans digest')
      have newest := Sealed.unique injective (history.sealed record (by simp)) (history'.sealed other (by simp)) digests
      have length : records.length = others.length := by
        obtain ⟨first, oldest⟩ : ∃ first, (record :: records).getLast? = some first :=
          ⟨_, List.getLast?_eq_some_getLast (List.cons_ne_nil record records)⟩
        obtain ⟨first', oldest'⟩ : ∃ first, (other :: others).getLast? = some first :=
          ⟨_, List.getLast?_eq_some_getLast (List.cons_ne_nil other others)⟩
        have here := history.oldest oldest
        have there := history'.oldest oldest'
        simp only [List.head?_reverse, List.getLast?_map, oldest, oldest', Option.map_some, Option.some.injEq] at starts
        rw [newest] at here
        omega
      rw [outside, outside', List.reverse_inj, newest] at earlier
      have whole := Backward.unique injective history history' digests length (by rw [newest]; exact earlier)
      rw [whole]
      exact ⟨rfl, rfl⟩

/-- Two accepted histories with one digest are the same exactly when they start
at the same event and agree on the epochs before the last one. -/
theorem same_digest_same_history (injective : Function.Injective hash.sum) {links' : List (ChainLink φ)}
    {events' : List (Event φ)} {checkpoints' : List (Checkpoint φ)} {result' : LocalResult φ}
    (accepted : verifyLocal hash links events checkpoints = .ok result)
    (accepted' : verifyLocal hash links' events' checkpoints' = .ok result')
    (same : result.localDigest = result'.localDigest) :
    (links = links' ∧ events = events') ↔
      (links.head?.map (fun link => link.eventID) = links'.head?.map (fun link => link.eventID) ∧
        earlierEpochs links events = earlierEpochs links' events') := by
  constructor
  · rintro ⟨rfl, rfl⟩
    exact ⟨rfl, rfl⟩
  · rintro ⟨starts, earlier⟩
    exact history_of_digest injective accepted accepted' same starts earlier

omit [DecidableEq φ] in
theorem earlierEpochs_single {epoch : Int} (single : ∀ link ∈ links, link.recoveryEpoch = epoch) :
    earlierEpochs links events = [] := by
  refine List.filter_eq_nil_iff.mpr fun record member => ?_
  have inside := (List.of_mem_zip member).1
  have found := List.getLast?_eq_some_getLast (List.ne_nil_of_mem inside)
  simp [found, single record.1 inside, single _ (List.getLast_mem _)]

/-- Within one recovery epoch the digest and the first event determine the history. -/
theorem single_epoch_same_history (injective : Function.Injective hash.sum) {links' : List (ChainLink φ)}
    {events' : List (Event φ)} {checkpoints' : List (Checkpoint φ)} {result' : LocalResult φ} {epoch epoch' : Int}
    (accepted : verifyLocal hash links events checkpoints = .ok result)
    (accepted' : verifyLocal hash links' events' checkpoints' = .ok result')
    (single : ∀ link ∈ links, link.recoveryEpoch = epoch) (single' : ∀ link ∈ links', link.recoveryEpoch = epoch')
    (same : result.localDigest = result'.localDigest)
    (starts : links.head?.map (fun link => link.eventID) = links'.head?.map (fun link => link.eventID)) :
    links = links' ∧ events = events' :=
  history_of_digest injective accepted accepted' same starts
    ((earlierEpochs_single single).trans (earlierEpochs_single single').symm)

inductive Print where
  | of (document : Document Print)

noncomputable instance : DecidableEq Print := Classical.decEq Print

def printHash : Hash Print where
  valid _ := true
  sum := Print.of
  sum_valid _ := rfl

theorem printHash_injective : Function.Injective printHash.sum := fun _ _ same => Print.of.inj same

def printedEvent (eventID recoveryEpoch : Int) (target : String) : Event Print where
  schema := eventSchema
  schemaVersion := eventSchemaVersion
  eventID := eventID
  occurredAt := 0
  recoveryEpoch := recoveryEpoch
  stateRevision := 0
  type := "inventory.draft.persisted"
  correlationID := "request-1"
  causationID := none
  correctionOf := none
  principalID := "principal-1"
  principalMethod := "local-os-peer"
  humanID := none
  agentName := none
  agentSessionID := none
  agentSource := none
  target := ⟨"inventory-draft", target⟩
  before := none
  after := none

def printedLink (event : Event Print) (segmentSequence : Int) (previous : Print) : ChainLink Print :=
  let body : LinkBody Print := {
    instanceID := "instance-1"
    recoveryEpoch := event.recoveryEpoch
    eventID := event.eventID
    segmentSequence := segmentSequence
    previousDigest := previous
    payloadDigest := .of (.event event)
    contextDigest := .of (.context {})
    preAnchor := false }
  { toLinkBody := body, context := {}, linkDigest := .of (.link body) }

theorem printedLink_sealed {event : Event Print} {segmentSequence : Int} {previous : Print}
    (positive : 0 < event.eventID) (place : 0 < segmentSequence) (canonical : event.canonical printHash = true) :
    Sealed printHash (printedLink event segmentSequence previous) event := by
  have token : validToken 128 "instance-1" = true := by decide +kernel
  have bounded : ContextIDs.bounded {} = true := by decide +kernel
  exact ⟨positive, rfl, token, place, rfl, canonical, bounded, rfl, rfl, rfl⟩

def genesisPrint (epoch : Int) : Print := .of (.genesis "instance-1" epoch (.of .nothing) (.of .nothing))

def opening : Record Print := let event := printedEvent 1 0 "draft-1"; (printedLink event 1 (genesisPrint 0), event)

def forged : Record Print := let event := printedEvent 1 0 "draft-2"; (printedLink event 1 (genesisPrint 0), event)

def following : Record Print := let event := printedEvent 2 0 "draft-3"; (printedLink event 2 opening.1.linkDigest, event)

def reopened : Record Print := let event := printedEvent 2 1 "draft-3"; (printedLink event 1 (genesisPrint 1), event)

theorem opening_sealed : Sealed printHash opening.1 opening.2 :=
  printedLink_sealed (by decide) (by decide) (by decide +kernel)

theorem forged_sealed : Sealed printHash forged.1 forged.2 :=
  printedLink_sealed (by decide) (by decide) (by decide +kernel)

theorem following_sealed : Sealed printHash following.1 following.2 :=
  printedLink_sealed (by decide) (by decide) (by decide +kernel)

theorem reopened_sealed : Sealed printHash reopened.1 reopened.2 :=
  printedLink_sealed (by decide) (by decide) (by decide +kernel)

theorem opening_following : Adjacent opening.1 following.1 :=
  ⟨rfl, fun _ => ⟨rfl, rfl, rfl⟩, fun differs => absurd rfl differs⟩

theorem opening_reopened : Adjacent opening.1 reopened.1 :=
  ⟨rfl, fun same => absurd same (by decide), fun _ => ⟨rfl, rfl⟩⟩

theorem forged_reopened : Adjacent forged.1 reopened.1 :=
  ⟨rfl, fun same => absurd same (by decide), fun _ => ⟨rfl, rfl⟩⟩

theorem printed_accepted (older : List (Record Print)) (newest : Record Print)
    (sealed : ∀ record ∈ older ++ [newest], Sealed printHash record.1 record.2)
    (chain : ((older ++ [newest]).map Prod.fst).IsChain Adjacent) :
    ∃ result, verifyLocal printHash ((older ++ [newest]).map Prod.fst) ((older ++ [newest]).map Prod.snd) [] =
      .ok result ∧ result.localDigest = newest.1.linkDigest := by
  have whole : ((older ++ [newest]).map Prod.fst).zip ((older ++ [newest]).map Prod.snd) = older ++ [newest] :=
    (List.zip_of_prod rfl rfl).symm
  apply verifyLocal_accepts (by simp) (by simp)
  rw [whole]
  exact checkHistory_eq_ok.mpr ⟨sealed, chain⟩

theorem opening_lost : ∃ whole truncated,
    verifyLocal printHash [opening.1, following.1] [opening.2, following.2] [] = .ok whole ∧
    verifyLocal printHash [following.1] [following.2] [] = .ok truncated ∧ whole.localDigest = truncated.localDigest := by
  obtain ⟨whole, wholeAccepted, wholeDigest⟩ := printed_accepted [opening] following
    (by simp [opening_sealed, following_sealed]) (by simp [opening_following])
  obtain ⟨truncated, truncatedAccepted, truncatedDigest⟩ := printed_accepted [] following
    (by simp [following_sealed]) (by simp)
  exact ⟨whole, truncated, wholeAccepted, truncatedAccepted, wholeDigest.trans truncatedDigest.symm⟩

/-- With an ideal hash, one accepted history loses its first event, and another
has an event of an earlier epoch replaced, under an unchanged digest. -/
theorem front_and_earlier_epochs_unbound :
    Function.Injective printHash.sum ∧
    (∃ whole truncated,
      verifyLocal printHash [opening.1, following.1] [opening.2, following.2] [] = .ok whole ∧
      verifyLocal printHash [following.1] [following.2] [] = .ok truncated ∧
      whole.localDigest = truncated.localDigest) ∧
    (∃ genuine altered,
      verifyLocal printHash [opening.1, reopened.1] [opening.2, reopened.2] [] = .ok genuine ∧
      verifyLocal printHash [forged.1, reopened.1] [forged.2, reopened.2] [] = .ok altered ∧
      genuine.localDigest = altered.localDigest ∧ opening.2.target ≠ forged.2.target) := by
  obtain ⟨genuine, genuineAccepted, genuineDigest⟩ := printed_accepted [opening] reopened
    (by simp [opening_sealed, reopened_sealed]) (by simp [opening_reopened])
  obtain ⟨altered, alteredAccepted, alteredDigest⟩ := printed_accepted [forged] reopened
    (by simp [forged_sealed, reopened_sealed]) (by simp [forged_reopened])
  exact ⟨printHash_injective, opening_lost, genuine, altered, genuineAccepted, alteredAccepted,
    genuineDigest.trans alteredDigest.symm, by decide⟩

/-- The shortened history is told apart by the event it starts at. -/
theorem truncation_shows_in_the_first_event :
    ¬([opening.1, following.1].head?.map (fun link => link.eventID) = [following.1].head?.map (fun link => link.eventID) ∧
      earlierEpochs [opening.1, following.1] [opening.2, following.2] =
        earlierEpochs [following.1] [following.2]) := by
  obtain ⟨whole, truncated, wholeAccepted, truncatedAccepted, digest⟩ := opening_lost
  intro condition
  have same := (same_digest_same_history printHash_injective wholeAccepted truncatedAccepted digest).mpr condition
  cases same.1

end VskLabs.Audit

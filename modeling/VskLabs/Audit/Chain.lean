import VskLabs.Audit.Documents

/-! The audit chain: links around canonical events, one segment for each
recovery epoch, and the genesis a segment starts from. -/

namespace VskLabs.Audit

/-- A row of `audit_chain_links`. -/
structure ChainLink (φ : Type) extends LinkBody φ where
  context : ContextIDs
  linkDigest : φ
  deriving DecidableEq

/-- A row of `audit_epoch_genesis`. -/
structure Genesis (φ : Type) where
  instanceID : String
  recoveryEpoch : Int
  priorCheckpoint : φ
  recoveryDecision : φ
  linkDigest : φ

variable {φ : Type} (hash : Hash φ)

def emptyAuditBinding : φ := hash.sum .nothing

def ContextIDs.bounded (ids : ContextIDs) : Bool :=
  [ids.runID, ids.planID, ids.providerNativeID].all fun value => value == "" || validToken 128 value

def canonicalContext (ids : ContextIDs) : Option φ :=
  if ids.bounded then some (hash.sum (.context ids)) else none

def makeChainLink (event : Event φ) (ids : ContextIDs) (instanceID : String) (segmentSequence : Int) (previous : φ)
    (preAnchor : Bool) : Option (ChainLink φ) :=
  if validToken 128 instanceID && decide (0 < segmentSequence) && hash.valid previous then do
    let payloadDigest ← canonicalEvent hash event
    let contextDigest ← canonicalContext hash ids
    let body : LinkBody φ := {
      instanceID := instanceID
      recoveryEpoch := event.recoveryEpoch
      eventID := event.eventID
      segmentSequence := segmentSequence
      previousDigest := previous
      payloadDigest := payloadDigest
      contextDigest := contextDigest
      preAnchor := preAnchor }
    some { toLinkBody := body, context := ids, linkDigest := hash.sum (.link body) }
  else none

def digestChainRange (links : List (ChainLink φ)) : Option φ :=
  match links.head?, links.getLast? with
  | some first, some last =>
    if links.all (fun link => hash.valid link.linkDigest && decide (0 < link.eventID)) &&
        decide ((links.map fun link => link.eventID).IsChain (· < ·)) then
      some (hash.sum (.range first.eventID last.eventID (links.map ChainLink.linkDigest)))
    else none
  | _, _ => none

def genesisLink (instanceID : String) (epoch : Int) (priorCheckpoint recoveryDecision : φ) : Option (Genesis φ) :=
  if validToken 128 instanceID && decide (0 ≤ epoch) && hash.valid priorCheckpoint && hash.valid recoveryDecision then
    some ⟨instanceID, epoch, priorCheckpoint, recoveryDecision,
      hash.sum (.genesis instanceID epoch priorCheckpoint recoveryDecision)⟩
  else none

theorem canonicalContext_eq_some {ids : ContextIDs} {digest : φ} :
    canonicalContext hash ids = some digest ↔ ids.bounded = true ∧ hash.sum (.context ids) = digest := by
  unfold canonicalContext
  split <;> simp_all

/-- A link that was made: its inputs passed the checks, and its digest covers
the digests of its event and context. -/
structure Makes (event : Event φ) (ids : ContextIDs) (instanceID : String) (segmentSequence : Int) (previous : φ)
    (preAnchor : Bool) (link : ChainLink φ) : Prop where
  token : validToken 128 instanceID = true
  positive : 0 < segmentSequence
  follows : hash.valid previous = true
  canonical : event.canonical hash = true
  bounded : ids.bounded = true
  body : link.toLinkBody = {
    instanceID := instanceID
    recoveryEpoch := event.recoveryEpoch
    eventID := event.eventID
    segmentSequence := segmentSequence
    previousDigest := previous
    payloadDigest := hash.sum (.event event)
    contextDigest := hash.sum (.context ids)
    preAnchor := preAnchor }
  context : link.context = ids
  sealed : link.linkDigest = hash.sum (.link link.toLinkBody)

variable {hash} {event : Event φ} {ids : ContextIDs} {instanceID : String} {segmentSequence : Int} {previous : φ}
  {preAnchor : Bool} {link : ChainLink φ}

theorem makeChainLink_eq_some :
    makeChainLink hash event ids instanceID segmentSequence previous preAnchor = some link ↔
      Makes hash event ids instanceID segmentSequence previous preAnchor link := by
  unfold makeChainLink
  constructor
  · intro made
    split at made
    · next checks =>
      simp only [Bool.and_eq_true, decide_eq_true_eq] at checks
      obtain ⟨payloadDigest, payload, rest⟩ := Option.bind_eq_some_iff.mp made
      obtain ⟨contextDigest, context, last⟩ := Option.bind_eq_some_iff.mp rest
      obtain ⟨canonical, rfl⟩ := (canonicalEvent_eq_some hash).mp payload
      obtain ⟨bounded, rfl⟩ := (canonicalContext_eq_some hash).mp context
      cases last
      exact ⟨checks.1.1, checks.1.2, checks.2, canonical, bounded, rfl, rfl, rfl⟩
    · cases made
  · rintro ⟨token, positive, follows, canonical, bounded, body, context, sealed⟩
    obtain ⟨linkBody, linkContext, linkDigest⟩ := link
    dsimp only at body context sealed
    subst sealed body context
    simp [token, positive, follows, canonicalEvent, canonicalContext, canonical, bounded]

end VskLabs.Audit

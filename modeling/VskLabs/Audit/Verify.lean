import VskLabs.Audit.Chain
import VskLabs.Library.Outcome
import Mathlib.Data.List.Basic

/-! The local verifier. It walks links and events side by side, then checks the
range of every anchored checkpoint against the links. -/

namespace VskLabs.Audit
open Library

inductive CheckpointStatus where
  | pending | signed | exportPending | anchored | degraded | incident
  deriving DecidableEq

structure Checkpoint (φ : Type) where
  checkpointID : String
  (firstEventID lastEventID firstSegmentSequence lastSegmentSequence : Int)
  chainDigest : φ
  instanceID : String
  recoveryEpoch : Int
  signatureDigest : Option φ
  exportReceiptDigest : Option φ
  independentReadDigest : Option φ
  status : CheckpointStatus
  preAnchor : Bool
  deriving DecidableEq

structure ChainRange (φ : Type) where
  (firstEventID lastEventID : Int)
  links : List (ChainLink φ)
  rangeDigest : φ
  deriving DecidableEq

inductive LocalStatus where
  | degraded | anchored
  deriving DecidableEq

structure LocalResult (φ : Type) where
  status : LocalStatus
  reasonCode : String
  instanceID : String := ""
  recoveryEpoch : Int := 0
  localDigest : φ
  lastSequence : Int := 0
  preAnchor : Bool := false
  lastAnchored : Option (Checkpoint φ) := none
  anchoredRange : Option (ChainRange φ) := none
  deriving DecidableEq

variable {φ : Type} [DecidableEq φ] (hash : Hash φ)

/-- A link continues the one before it: the next event, and the next place of
the same segment or the first place of the next epoch's. -/
def checkPredecessor (prior link : ChainLink φ) : Except String Unit :=
  if link.eventID ≠ prior.eventID + 1 then .error "audit-history-gap"
  else if link.recoveryEpoch = prior.recoveryEpoch then
    ensure (link.instanceID == prior.instanceID && link.segmentSequence == prior.segmentSequence + 1 &&
      link.previousDigest == prior.linkDigest) "audit-history-fork"
  else
    ensure (link.recoveryEpoch == prior.recoveryEpoch + 1 && link.segmentSequence == 1) "audit-history-epoch"

def checkLink (prior : Option (ChainLink φ)) (link : ChainLink φ) (event : Event φ) : Except String Unit := do
  ensure (link.eventID == event.eventID && link.recoveryEpoch == event.recoveryEpoch && decide (0 < link.eventID) &&
    hash.valid link.previousDigest && hash.valid link.linkDigest) "audit-history-binding"
  prior.elim (.ok ()) fun prior => checkPredecessor prior link
  ensure (canonicalEvent hash event == some link.payloadDigest) "audit-history-payload"
  ensure (canonicalContext hash link.context == some link.contextDigest) "audit-history-context"
  ensure ((makeChainLink hash event link.context link.instanceID link.segmentSequence link.previousDigest
    link.preAnchor).map ChainLink.linkDigest == some link.linkDigest) "audit-history-link"

def checkHistory (prior : Option (ChainLink φ)) : List (ChainLink φ × Event φ) → Except String Unit
  | [] => .ok ()
  | (link, event) :: rest => do
    checkLink hash prior link event
    checkHistory (some link) rest

def checkAnchored (links : List (ChainLink φ)) (checkpoint : Checkpoint φ) : Except String (ChainRange φ) := do
  ensure (decide (0 < checkpoint.firstEventID) && decide (checkpoint.firstEventID ≤ checkpoint.lastEventID) &&
    decide (checkpoint.lastEventID ≤ links.length) && checkpoint.signatureDigest.isSome &&
    checkpoint.exportReceiptDigest.isSome && checkpoint.independentReadDigest.isSome) "audit-checkpoint-invalid"
  let range := (links.take checkpoint.lastEventID.toNat).drop (checkpoint.firstEventID - 1).toNat
  let digest ← require (digestChainRange hash range) "audit-checkpoint-range"
  ensure (digest == checkpoint.chainDigest &&
    range.head?.any (fun first => first.segmentSequence == checkpoint.firstSegmentSequence &&
      first.instanceID == checkpoint.instanceID && first.recoveryEpoch == checkpoint.recoveryEpoch) &&
    range.getLast?.any fun last => last.segmentSequence == checkpoint.lastSegmentSequence) "audit-checkpoint-range"
  return ⟨checkpoint.firstEventID, checkpoint.lastEventID, range, digest⟩

def checkCheckpoints (links : List (ChainLink φ)) : List (Checkpoint φ) → LocalResult φ → Except String (LocalResult φ)
  | [], result => .ok result
  | checkpoint :: rest, result =>
    if checkpoint.status ≠ .anchored then checkCheckpoints links rest result
    else do
      let range ← checkAnchored hash links checkpoint
      let newer := result.lastAnchored.all fun anchored => decide (anchored.lastEventID < checkpoint.lastEventID)
      checkCheckpoints links rest (if newer then
        { result with
          status := .anchored
          reasonCode := "local-anchor-valid"
          preAnchor := checkpoint.preAnchor
          lastAnchored := some checkpoint
          anchoredRange := some range }
        else result)

/-- `VerifyLocal`; an incident is an error with its reason. -/
def verifyLocal (links : List (ChainLink φ)) (events : List (Event φ)) (checkpoints : List (Checkpoint φ)) :
    Except String (LocalResult φ) :=
  match links.getLast? with
  | none =>
    if events.isEmpty then
      .ok { status := .degraded, reasonCode := "audit-history-empty", localDigest := hash.sum .nothing }
    else .error "audit-history-gap"
  | some last => do
    ensure (links.length == events.length) "audit-history-gap"
    checkHistory hash none (links.zip events)
    checkCheckpoints hash links checkpoints {
      status := .degraded
      reasonCode := "no-independent-anchor"
      instanceID := last.instanceID
      recoveryEpoch := last.recoveryEpoch
      localDigest := last.linkDigest
      lastSequence := last.segmentSequence
      preAnchor := last.preAnchor }

/-- A link belongs to its event: it binds the event and its context, and its
digest is the one they give. -/
structure Sealed (link : ChainLink φ) (event : Event φ) : Prop where
  positive : 0 < link.eventID
  digest : hash.valid link.linkDigest = true
  makes : Makes hash event link.context link.instanceID link.segmentSequence link.previousDigest link.preAnchor link

structure Adjacent (prior link : ChainLink φ) : Prop where
  next : link.eventID = prior.eventID + 1
  same : link.recoveryEpoch = prior.recoveryEpoch → link.instanceID = prior.instanceID ∧
    link.segmentSequence = prior.segmentSequence + 1 ∧ link.previousDigest = prior.linkDigest
  turn : link.recoveryEpoch ≠ prior.recoveryEpoch →
    link.recoveryEpoch = prior.recoveryEpoch + 1 ∧ link.segmentSequence = 1

variable {hash} {prior link : ChainLink φ} {event : Event φ} {done : Unit}

theorem checkPredecessor_eq_ok : checkPredecessor prior link = .ok done ↔ Adjacent prior link := by
  unfold checkPredecessor
  constructor
  · intro passed
    split at passed
    · cases passed
    next next =>
      simp only [ne_eq, Decidable.not_not] at next
      split at passed
      · next epoch =>
        simp only [peel, checks] at passed
        exact ⟨next, fun _ => ⟨passed.1.1, passed.1.2, passed.2⟩, fun differs => absurd epoch differs⟩
      · next epoch =>
        simp only [peel, checks] at passed
        exact ⟨next, fun same => absurd same epoch, fun _ => passed⟩
  · rintro ⟨next, same, turn⟩
    rw [if_neg (by simpa using next)]
    split
    · next epoch => simp [same epoch]
    · next epoch => simp [turn epoch]

omit [DecidableEq φ] in
theorem rebuilt_iff (id : link.eventID = event.eventID) (epoch : link.recoveryEpoch = event.recoveryEpoch)
    (payload : canonicalEvent hash event = some link.payloadDigest)
    (context : canonicalContext hash link.context = some link.contextDigest) :
    (makeChainLink hash event link.context link.instanceID link.segmentSequence link.previousDigest
        link.preAnchor).map ChainLink.linkDigest = some link.linkDigest ↔
      Makes hash event link.context link.instanceID link.segmentSequence link.previousDigest link.preAnchor link := by
  obtain ⟨canonical, payload⟩ := (canonicalEvent_eq_some hash).mp payload
  obtain ⟨bounded, context⟩ := (canonicalContext_eq_some hash).mp context
  rw [Option.map_eq_some_iff]
  constructor
  · rintro ⟨rebuilt, made, same⟩
    obtain ⟨token, positive, follows, -, -, body, -, sealed⟩ := makeChainLink_eq_some.mp made
    have built : rebuilt.toLinkBody = link.toLinkBody := by
      rw [body, payload, context, ← id, ← epoch]
    exact ⟨token, positive, follows, canonical, bounded, built ▸ body, rfl, by rw [← same, sealed, built]⟩
  · intro makes
    exact ⟨link, makeChainLink_eq_some.mpr makes, rfl⟩

theorem checkLink_eq_ok {before : Option (ChainLink φ)} :
    checkLink hash before link event = .ok done ↔
      Sealed hash link event ∧ ∀ prior ∈ before, Adjacent prior link := by
  unfold checkLink
  simp only [peel, checks]
  constructor
  · rintro ⟨_, ⟨⟨⟨⟨id, epoch⟩, positive⟩, -⟩, digest⟩, _, adjacent, _, payload, _, context, rebuilt⟩
    refine ⟨⟨positive, digest, (rebuilt_iff id epoch payload context).mp rebuilt⟩, ?_⟩
    intro prior held
    rw [Option.mem_def] at held
    subst held
    exact checkPredecessor_eq_ok.mp adjacent
  · rintro ⟨⟨positive, digest, makes⟩, adjacent⟩
    have id : link.eventID = event.eventID := by rw [makes.body]
    have epoch : link.recoveryEpoch = event.recoveryEpoch := by rw [makes.body]
    have payload : canonicalEvent hash event = some link.payloadDigest :=
      (canonicalEvent_eq_some hash).mpr ⟨makes.canonical, by rw [makes.body]⟩
    have context : canonicalContext hash link.context = some link.contextDigest :=
      (canonicalContext_eq_some hash).mpr ⟨makes.bounded, by rw [makes.body]⟩
    refine ⟨(), ⟨⟨⟨⟨id, epoch⟩, positive⟩, makes.follows⟩, digest⟩, (), ?_, (), payload, (), context,
      (rebuilt_iff id epoch payload context).mpr makes⟩
    cases before with
    | none => rfl
    | some prior => exact checkPredecessor_eq_ok.mpr (adjacent prior rfl)

theorem checkHistory_eq_ok {before : Option (ChainLink φ)} {history : List (ChainLink φ × Event φ)} :
    checkHistory hash before history = .ok done ↔
      (∀ pair ∈ history, Sealed hash pair.1 pair.2) ∧
        (before.toList ++ history.map Prod.fst).IsChain Adjacent := by
  induction history generalizing before with
  | nil => cases before <;> simp [checkHistory]
  | cons pair rest ih =>
    obtain ⟨link, event⟩ := pair
    simp only [checkHistory, peel, checkLink_eq_ok, ih, List.forall_mem_cons, List.map_cons]
    cases before with
    | none => simp [and_assoc]
    | some prior =>
      simp only [Option.mem_def, Option.some.injEq, Option.toList_some, List.cons_append, List.nil_append,
        List.isChain_cons_cons, forall_eq', exists_const]
      tauto

end VskLabs.Audit

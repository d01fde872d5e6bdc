import VskLabs.Contracts.Validation

/-! Audit events and the documents the audit code hashes. A fingerprint is an
abstract value, since nothing but its validity and its equality is ever used. -/

namespace VskLabs.Audit

structure AgentMetadata where
  (name sessionID : String)

structure Attribution where
  (authenticatedPrincipalID authenticatedPrincipalMethod : String)
  responsibleHumanPrincipalID : Option String
  agent : Option AgentMetadata

structure Target where
  (kind id : String)
  deriving DecidableEq

structure EventDraft (φ : Type) where
  (type correlationID : String)
  (causationID correctionOf : Option Int)
  attribution : Attribution
  target : Target
  before : Option φ
  after : Option φ

structure OutboxRequirement where
  destination : String
  enabled : Bool

structure IntentKey (φ : Type) where
  scope : String
  keyDigest : φ
  requestDigest : φ

structure Event (φ : Type) where
  (schema schemaVersion : String)
  eventID : Int
  occurredAt : Time
  (recoveryEpoch stateRevision : Int)
  (type correlationID : String)
  (causationID correctionOf : Option Int)
  (principalID principalMethod : String)
  (humanID agentName agentSessionID agentSource : Option String)
  target : Target
  before : Option φ
  after : Option φ
  deriving DecidableEq

structure ContextIDs where
  runID : String := ""
  planID : String := ""
  providerNativeID : String := ""
  deriving DecidableEq

structure LinkBody (φ : Type) where
  instanceID : String
  (recoveryEpoch eventID segmentSequence : Int)
  previousDigest : φ
  payloadDigest : φ
  contextDigest : φ
  preAnchor : Bool
  deriving DecidableEq

/-- What is hashed. Each canonical encoding starts with its own domain text and
lists its fields in a fixed order, so it stands for the value it encodes. -/
inductive Document (φ : Type) where
  | nothing
  | event (event : Event φ)
  | context (ids : ContextIDs)
  | link (body : LinkBody φ)
  | genesis (instanceID : String) (recoveryEpoch : Int) (priorCheckpoint recoveryDecision : φ)
  | range (firstEventID lastEventID : Int) (linkDigests : List φ)
  | outbox (eventID : Int) (destination : String) (payload : φ)
  | suffix (firstEventID lastEventID : Int) (payloadDigests : List φ) (chainDigest : φ)

/-- SHA-256 written as a fingerprint, and `audit.ValidFingerprint`. -/
structure Hash (φ : Type) where
  valid : φ → Bool
  sum : Document φ → φ
  sum_valid : ∀ document, valid (sum document) = true

attribute [simp] Hash.sum_valid

def eventSchema : String := "vegastack-labs.dev/audit-event"

def eventSchemaVersion : String := "1.0.0"

/-- `^[a-z][a-z0-9]*(\.[a-z][a-z0-9-]*){1,5}$` within 96 bytes. -/
def validEventType (value : String) : Bool :=
  let word (extra : List Char) (text : List UInt8) : Bool :=
    match text with
    | [] => false
    | first :: rest => lowercase first && rest.all fun byte => lowercase byte || decimalDigit byte || oneOf extra byte
  match (bytes value).splitOn 46 with
  | [] => false
  | first :: rest =>
    decide ((bytes value).length ≤ 96) && word [] first && decide (1 ≤ rest.length) && decide (rest.length ≤ 5) &&
      rest.all (word ['-'])

variable {φ : Type} (hash : Hash φ)

def validateEventDraft (draft : EventDraft φ) : Bool :=
  validEventType draft.type && validToken 128 draft.correlationID &&
    validToken 64 draft.target.kind && validToken 128 draft.target.id &&
    validToken 128 draft.attribution.authenticatedPrincipalID &&
    validToken 64 draft.attribution.authenticatedPrincipalMethod &&
    draft.causationID.all (fun id => decide (0 < id)) &&
    draft.correctionOf.all (fun id => decide (0 < id)) &&
    draft.attribution.responsibleHumanPrincipalID.all (validToken 128) &&
    draft.attribution.agent.all (fun agent => validToken 64 agent.name && validToken 128 agent.sessionID) &&
    draft.before.all hash.valid && draft.after.all hash.valid

def validateIntentKey (key : IntentKey φ) : Bool :=
  validToken 96 key.scope && hash.valid key.keyDigest && hash.valid key.requestDigest

def validateOutboxRequirements (requirements : List OutboxRequirement) : Bool :=
  decide (requirements.length ≤ 32) && requirements.all (fun requirement => validToken 96 requirement.destination) &&
    decide (requirements.map OutboxRequirement.destination).Nodup

def Event.agent (event : Event φ) : Option (Option AgentMetadata) :=
  match event.agentSource, event.agentName, event.agentSessionID with
  | none, none, none => some none
  | some source, some name, some session => if source = "self-reported" then some (some ⟨name, session⟩) else none
  | _, _, _ => none

def Event.draft (event : Event φ) (agent : Option AgentMetadata) : EventDraft φ where
  type := event.type
  correlationID := event.correlationID
  causationID := event.causationID
  correctionOf := event.correctionOf
  attribution := ⟨event.principalID, event.principalMethod, event.humanID, agent⟩
  target := event.target
  before := event.before
  after := event.after

/-- The checks of `CanonicalEvent`. -/
def Event.canonical (event : Event φ) : Bool :=
  event.schema == eventSchema && event.schemaVersion == eventSchemaVersion && decide (0 < event.eventID) &&
    decide (0 ≤ event.recoveryEpoch) && decide (0 ≤ event.stateRevision) && event.occurredAt.fourDigitYear &&
    event.agent.any fun agent => validateEventDraft hash (event.draft agent)

def canonicalEvent (event : Event φ) : Option φ :=
  if event.canonical hash then some (hash.sum (.event event)) else none

def eventFromDraft (draft : EventDraft φ) (id : Int) (occurredAt : Time) (recoveryEpoch stateRevision : Int) :
    Option (Event φ) :=
  if validateEventDraft hash draft && decide (0 < id) && decide (0 ≤ recoveryEpoch) && decide (0 ≤ stateRevision) then
    some {
      schema := eventSchema
      schemaVersion := eventSchemaVersion
      eventID := id
      occurredAt := occurredAt
      recoveryEpoch := recoveryEpoch
      stateRevision := stateRevision
      type := draft.type
      correlationID := draft.correlationID
      causationID := draft.causationID
      correctionOf := draft.correctionOf
      principalID := draft.attribution.authenticatedPrincipalID
      principalMethod := draft.attribution.authenticatedPrincipalMethod
      humanID := draft.attribution.responsibleHumanPrincipalID
      agentName := draft.attribution.agent.map AgentMetadata.name
      agentSessionID := draft.attribution.agent.map AgentMetadata.sessionID
      agentSource := draft.attribution.agent.map fun _ => "self-reported"
      target := draft.target
      before := draft.before
      after := draft.after }
  else none

theorem canonicalEvent_eq_some {event : Event φ} {digest : φ} :
    canonicalEvent hash event = some digest ↔ event.canonical hash = true ∧ hash.sum (.event event) = digest := by
  unfold canonicalEvent
  split <;> simp_all

theorem eventFromDraft_eq_some {draft : EventDraft φ} {id recoveryEpoch stateRevision : Int} {occurredAt : Time}
    {event : Event φ} (made : eventFromDraft hash draft id occurredAt recoveryEpoch stateRevision = some event) :
    event.eventID = id ∧ event.recoveryEpoch = recoveryEpoch ∧ event.stateRevision = stateRevision ∧
      event.occurredAt = occurredAt ∧ event.draft draft.attribution.agent = draft := by
  unfold eventFromDraft at made
  split at made
  · cases made
    exact ⟨rfl, rfl, rfl, rfl, rfl⟩
  · cases made

end VskLabs.Audit

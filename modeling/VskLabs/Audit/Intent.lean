import VskLabs.Library.Outcome
import VskLabs.Library.Table
import VskLabs.Audit.Chain
import Mathlib.Data.List.MinMax

/-! The audit transaction. `appendAuditInTx` moves the revision, the audit
sequence, the event, its link, the intent key and the outbox together with a
business effect; `executeAuditIntent` wraps it in a commit and keeps the
process's view of the database. -/

namespace VskLabs.Audit
open Library

structure RevisionToken where
  (stateRevision recoveryEpoch : Int)
  deriving DecidableEq

/-- A row of `audit_events`; the event is its canonical payload. -/
structure EventRow (φ : Type) where
  event : Event φ
  payloadDigest : φ

def EventRow.eventID {φ : Type} (row : EventRow φ) : Int := row.event.eventID

/-- A row of `intent_keys`. -/
structure IntentRow (φ : Type) where
  scope : String
  keyDigest : φ
  requestDigest : φ
  (eventID stateRevision recoveryEpoch : Int)
  createdAt : Time

def IntentRow.key {φ : Type} (row : IntentRow φ) : String × φ := (row.scope, row.keyDigest)

def IntentKey.key {φ : Type} (intent : IntentKey φ) : String × φ := (intent.scope, intent.keyDigest)

inductive OutboxStatus where
  | pending | retryWait | paused | delivered | deadLetter

/-- A row of `outbox`, as it is inserted. -/
structure OutboxRow (φ : Type) where
  eventID : Int
  destination : String
  payloadDigest : φ
  dedupeDigest : φ
  status : OutboxStatus
  createdAt : Time

def OutboxRow.key {φ : Type} (row : OutboxRow φ) : Int × String := (row.eventID, row.destination)

/-- The audit tables, the columns of `system_meta` they depend on, and
everything else as the business state. -/
structure Database (φ β : Type) where
  (stateRevision recoveryEpoch auditSequence : Int)
  instanceID : String
  instances : List String
  events : Table (EventRow.eventID (φ := φ))
  links : Table (fun link : ChainLink φ => link.eventID)
  geneses : Table (Genesis.recoveryEpoch (φ := φ))
  intents : Table (IntentRow.key (φ := φ))
  outbox : Table (OutboxRow.key (φ := φ))
  business : β

/-- Where a call can be made to fail: at each statement, at each hook of
`auditIntentStage`, and when the context is done. -/
inductive Stage where
  | ready | beginTx | readRevision | readIntent
  | afterBusiness | interrupted
  | advanceRevision | afterRevision
  | advanceSequence | afterSequence
  | insertEvent | afterEvent
  | readInstance | readGenesis | insertGenesis | readLastLink | insertLink
  | insertIntent | afterIntent
  | insertOutbox (index : Nat) | afterOutbox (index : Nat)
  | identity | beforeCommit | commitHook | commit | afterCommit

abbrev Faults := Stage → Option Failure

def Faults.pass (faults : Faults) (stage : Stage) : Except Failure Unit :=
  match faults stage with
  | none => .ok ()
  | some failure => .error failure

@[simp] theorem Faults.pass_eq_ok {faults : Faults} {stage : Stage} {done : Unit} :
    faults.pass stage = .ok done ↔ faults stage = none := by
  unfold Faults.pass
  split <;> simp_all

structure IntentRequest (φ : Type) where
  eventTime : Option Time := none
  expected : Option RevisionToken
  idempotency : IntentKey φ
  event : EventDraft φ
  context : ContextIDs := {}
  destinations : List OutboxRequirement

structure IntentResult where
  changed : Bool
  (stateRevision recoveryEpoch eventID : Int)
  created : Bool
  deriving DecidableEq

variable {φ β : Type} [DecidableEq φ] (hash : Hash φ)

/-- `ORDER BY segment_sequence DESC LIMIT 1`. -/
def greatestLink (links : List (ChainLink φ)) : Option (ChainLink φ) :=
  @List.argmax _ Int Int.instLinearOrder.toPreorder _ (fun link => link.segmentSequence) links

def Database.lastLink (database : Database φ β) (epoch : Int) : Option (ChainLink φ) :=
  greatestLink (database.links.rows.filter fun link => link.recoveryEpoch == epoch)

/-- `INSERT INTO audit_epoch_genesis`. -/
def Database.insertGenesis (database : Database φ β) (genesis : Genesis φ) : Except Failure (Database φ β) := do
  ensure (database.instances.contains genesis.instanceID &&
    database.geneses.rows.all fun row => row.linkDigest != genesis.linkDigest) constraintViolated
  let geneses ← require (database.geneses.insert? genesis) constraintViolated
  return { database with geneses := geneses }

/-- `INSERT INTO audit_chain_links`. -/
def Database.insertLink (database : Database φ β) (link : ChainLink φ) : Except Failure (Database φ β) := do
  ensure ((database.events.find? link.eventID).isSome && (database.geneses.find? link.recoveryEpoch).isSome)
    constraintViolated
  ensure (database.links.rows.all fun row => row.linkDigest != link.linkDigest &&
    (row.instanceID, row.recoveryEpoch, row.segmentSequence) !=
      (link.instanceID, link.recoveryEpoch, link.segmentSequence)) constraintViolated
  let links ← require (database.links.insert? link) constraintViolated
  return { database with links := links }

/-- The genesis digest of an epoch, made on demand for epoch 0 and for legacy
events only. -/
def ensureAuditGenesis (faults : Faults) (database : Database φ β) (instanceID : String) (epoch : Int)
    (allowLegacyPreAnchor : Bool) : Except Failure (φ × Database φ β) := do
  faults.pass .readGenesis
  match database.geneses.find? epoch with
  | some genesis => return (genesis.linkDigest, database)
  | none =>
    ensure (decide (epoch ≤ 0) || allowLegacyPreAnchor) (.coded .integrityFailure "database")
    let genesis ← require (genesisLink hash instanceID epoch (emptyAuditBinding hash) (emptyAuditBinding hash))
      (.coded .integrityFailure "database")
    faults.pass .insertGenesis
    let database ← database.insertGenesis genesis
    return (genesis.linkDigest, database)

def chainEvent (faults : Faults) (database : Database φ β) (event : Event φ) (ids : ContextIDs) (preAnchor : Bool)
    (refused : Failure) : Except Failure (Database φ β) := do
  let (genesis, database) ← ensureAuditGenesis hash faults database database.instanceID event.recoveryEpoch preAnchor
  faults.pass .readLastLink
  let last := database.lastLink event.recoveryEpoch
  let previous := (last.map ChainLink.linkDigest).getD genesis
  let sequence := (last.map fun link => link.segmentSequence + 1).getD 1
  let link ← require (makeChainLink hash event ids database.instanceID sequence previous preAnchor) refused
  ensure (canonicalContext hash ids == some link.contextDigest) (.coded .integrityFailure "audit-chain-context")
  faults.pass .insertLink
  database.insertLink link

def appendAuditLink (faults : Faults) (database : Database φ β) (event : Event φ) (ids : ContextIDs) :
    Except Failure (Database φ β) := do
  faults.pass .readInstance
  chainEvent hash faults database event ids false (.coded .integrityFailure "audit-chain-link")

def validateEventReferences (database : Database φ β) (draft : EventDraft φ) (next : Int) : Except Failure Unit := do
  let named (reference : Option Int) : Except Failure (Option Target) :=
    match reference with
    | none => .ok none
    | some id =>
      match database.events.find? id with
      | some row => if id < next then .ok (some row.event.target) else
          .error (.coded .stateConflict "audit-event-reference")
      | none => .error (.coded .stateConflict "audit-event-reference")
  let _ ← named draft.causationID
  let corrected ← named draft.correctionOf
  ensure (corrected.all fun target => target == draft.target) (.coded .stateConflict "audit-correction-target")

/-- The outbox row of one required destination. -/
def outboxRow (event : Event φ) (payloadDigest : φ) (requirement : OutboxRequirement) : OutboxRow φ where
  eventID := event.eventID
  destination := requirement.destination
  payloadDigest := payloadDigest
  dedupeDigest := hash.sum (.outbox event.eventID requirement.destination payloadDigest)
  status := if requirement.enabled then .pending else .paused
  createdAt := event.occurredAt

def insertOutbox (faults : Faults) (event : Event φ) (payloadDigest : φ) :
    Nat → List OutboxRequirement → Database φ β → Except Failure (Database φ β)
  | _, [], database => .ok database
  | index, requirement :: rest, database => do
    faults.pass (.insertOutbox index)
    let row := outboxRow hash event payloadDigest requirement
    ensure (database.outbox.rows.all fun other => other.dedupeDigest != row.dedupeDigest) constraintViolated
    let outbox ← require (database.outbox.insert? row) constraintViolated
    faults.pass (.afterOutbox index)
    insertOutbox faults event payloadDigest (index + 1) rest { database with outbox := outbox }

/-- One call of the audit engine: its request, its mode, its business callback
(which reads the database and rewrites the business state), the clock, the
faults it meets and the state of its context. -/
structure Call (φ β : Type) where
  request : IntentRequest φ
  advanceState : Bool
  business : Option (Database φ β → Except Failure β)
  clock : Time
  faults : Faults
  cancelled : Bool
  canary : Option RevisionToken

def classify (failure : Failure) : Failure :=
  match failure with
  | .coded code target => .coded code target
  | .canceled | .deadlineExceeded => .coded .interrupted "database"
  | .unclassified => .coded .integrityFailure "database"

def Call.effect (call : Call φ β) (database : Database φ β) : Except Failure β :=
  match call.business with
  | none => .ok database.business
  | some business =>
    match business database with
    | .ok value => .ok value
    | .error failure => .error (classify failure)

/-- The event, its link, the intent key and the outbox rows of a created intent,
once the revision and the sequence have moved. -/
def recordIntent (call : Call φ β) (eventID : Int) (database : Database φ β) : Except Failure (Database φ β) := do
  validateEventReferences database call.request.event eventID
  let occurredAt := call.request.eventTime.getD call.clock
  let event ← require
    (eventFromDraft hash call.request.event eventID occurredAt database.recoveryEpoch database.stateRevision)
    (.coded .inputInvalid "audit-event")
  let payloadDigest ← require (canonicalEvent hash event) (.coded .integrityFailure "audit-event")
  call.faults.pass .insertEvent
  let events ← require (database.events.insert? ⟨event, payloadDigest⟩) constraintViolated
  call.faults.pass .afterEvent
  let database ← appendAuditLink hash call.faults { database with events := events } event call.request.context
  call.faults.pass .insertIntent
  let key := call.request.idempotency
  let intents ← require (database.intents.insert? ⟨key.scope, key.keyDigest, key.requestDigest, eventID,
    database.stateRevision, database.recoveryEpoch, event.occurredAt⟩) constraintViolated
  call.faults.pass .afterIntent
  insertOutbox hash call.faults event payloadDigest 0 call.request.destinations { database with intents := intents }

/-- The part of `appendAuditInTx` after the key was found free. -/
def createIntent (call : Call φ β) (database : Database φ β) : Except Failure (IntentResult × Database φ β) := do
  let business ← call.effect database
  call.faults.pass .afterBusiness
  call.faults.pass .interrupted
  -- The guards of both updates name what this transaction has read, and a
  -- callback rewrites the business state only.
  call.faults.pass .advanceRevision
  let stateRevision := if call.advanceState then database.stateRevision + 1 else database.stateRevision
  call.faults.pass .afterRevision
  call.faults.pass .advanceSequence
  let eventID := database.auditSequence + 1
  call.faults.pass .afterSequence
  let after ← recordIntent hash call eventID
    { database with business := business, stateRevision := stateRevision, auditSequence := eventID }
  return (⟨call.advanceState, stateRevision, database.recoveryEpoch, eventID, true⟩, after)

def appendAuditInTx (call : Call φ β) (database : Database φ β) : Except Failure (IntentResult × Database φ β) := do
  call.faults.pass .readRevision
  ensure (call.request.expected.all fun token => token.recoveryEpoch == database.recoveryEpoch)
    (.coded .recoveryEpochMismatch "database-revision")
  ensure (call.request.expected.all fun token => token.stateRevision == database.stateRevision)
    (.coded .stateConflict "database-revision")
  call.faults.pass .readIntent
  match database.intents.find? call.request.idempotency.key with
  | some row =>
    ensure (row.requestDigest == call.request.idempotency.requestDigest) (.coded .stateConflict "audit-intent-key")
    return (⟨false, row.stateRevision, row.recoveryEpoch, row.eventID, false⟩, database)
  | none => createIntent hash call database

structure Health where
  revision : RevisionToken
  safeModeReason : Option String
  (mutationEnabled recoveryPending : Bool)

structure Store (φ β : Type) where
  database : Database φ β
  health : Health

def Store.enterSafeMode (store : Store φ β) (reason : String) : Store φ β :=
  { store with health := { store.health with safeModeReason := some reason, mutationEnabled := false } }

def Store.suspect (store : Store φ β) (failure : Failure) (reason : String) : Store φ β :=
  if failure.code = some .integrityFailure then store.enterSafeMode reason else store

/-- `readyForTransaction` after `readyForRead`. -/
def Store.mutable (store : Store φ β) (call : Call φ β) : Bool :=
  (call.canary == some store.health.revision && store.health.recoveryPending) ||
    (store.health.safeModeReason.isNone && store.health.mutationEnabled)

def IntentRequest.valid (request : IntentRequest φ) : Bool :=
  validateIntentKey hash request.idempotency && validateEventDraft hash request.event &&
    validateOutboxRequirements request.destinations

def Store.committed (store : Store φ β) (result : IntentResult) (database : Database φ β) : Store φ β :=
  let revision := if result.changed then ⟨result.stateRevision, result.recoveryEpoch⟩ else store.health.revision
  ⟨database, { store.health with revision := revision }⟩

def commitIntent (call : Call φ β) (result : IntentResult) (database : Database φ β) (store : Store φ β) :
    Except Failure IntentResult × Store φ β :=
  match call.faults .identity with
  | some failure => (.error failure, store.enterSafeMode "unsafe-file-identity")
  | none =>
  match call.faults .beforeCommit with
  | some failure => (.error failure, store)
  | none =>
  match call.faults .commitHook with
  | some failure => (.error failure, store.enterSafeMode "commit-failure")
  | none =>
  match call.faults .commit with
  | some failure => (.error failure, (store.enterSafeMode "commit-failure").suspect failure "transaction-failure")
  | none =>
  match call.faults .afterCommit with
  | some failure => (.error failure, (store.committed result database).enterSafeMode "commit-uncertain")
  | none => (.ok result, store.committed result database)

def executeAuditIntent (call : Call φ β) (store : Store φ β) : Except Failure IntentResult × Store φ β :=
  if !call.request.valid hash then (.error (.coded .inputInvalid "audit-intent"), store)
  else if call.request.expected.any fun token => token.recoveryEpoch != store.health.revision.recoveryEpoch then
    (.error (.coded .recoveryEpochMismatch "database-revision"), store)
  else
  match call.faults .ready with
  | some failure => (.error failure, store.suspect failure "unsafe-file-identity")
  | none =>
  if !store.mutable call then (.error (.coded .prerequisiteBlocked "database-safe-mode"), store)
  else
  match call.faults .beginTx with
  | some failure => (.error failure, store.suspect failure "transaction-failure")
  | none =>
  match appendAuditInTx hash call store.database with
  | .error failure =>
    if call.cancelled then (.error (.coded .interrupted "audit-intent"), store)
    else (.error failure, store.suspect failure "audit-intent-failure")
  | .ok (result, database) => commitIntent call result database store

/-- `writeIntent`: a state-advancing call with a callback. -/
def writeIntent (call : Call φ β) (store : Store φ β) : Except Failure IntentResult × Store φ β :=
  if call.business.isNone then (.error (.coded .inputInvalid "audit-intent"), store)
  else executeAuditIntent hash { call with advanceState := true } store

inductive Invocation (φ β : Type) where
  | execute (call : Call φ β)
  | write (call : Call φ β)

def Invocation.run (store : Store φ β) : Invocation φ β → Except Failure IntentResult × Store φ β
  | .execute call => executeAuditIntent hash call store
  | .write call => writeIntent hash call store

def Invocation.call : Invocation φ β → Call φ β
  | .execute call => call
  | .write call => { call with advanceState := true }

end VskLabs.Audit

import VskLabs.Audit.Intent
import VskLabs.Audit.Verify

/-! The life of an audit history: legacy events chained at the first start, new
events, new recovery epochs, and the reads that verify what was written. -/

namespace VskLabs.Audit
open Library

variable {φ β : Type} [DecidableEq φ] (hash : Hash φ)

/-- `ORDER BY` an integer column. -/
def orderBy {ρ : Type} (column : ρ → Int) (rows : List ρ) : List ρ :=
  rows.insertionSort fun first second => column first ≤ column second

def backfillRows (faults : Faults) : List (EventRow φ) → Database φ β → Except Failure (Database φ β)
  | [], database => .ok database
  | row :: rest, database => do
    ensure (canonicalEvent hash row.event == some row.payloadDigest) (.coded .integrityFailure "audit-chain-backfill")
    let database ← chainEvent hash faults database row.event {} true (.coded .integrityFailure "audit-chain-backfill")
    backfillRows faults rest database

def Database.unlinked (database : Database φ β) : List (EventRow φ) :=
  orderBy EventRow.eventID (database.events.rows.filter fun row => (database.links.find? row.eventID).isNone)

/-- `backfillPreAnchor`, which `Open` runs before it hands out the store. -/
def backfillPreAnchor (faults : Faults) (database : Database φ β) : Except Failure (Database φ β) :=
  backfillRows hash faults database.unlinked database

def prepareRecoveryAuditEpoch (database : Database φ β) (epoch : Int) (priorCheckpoint recoveryDecision : φ) :
    Except Failure (Database φ β) := do
  ensure (decide (0 < epoch) && hash.valid priorCheckpoint && hash.valid recoveryDecision)
    (.coded .inputInvalid "audit-recovery-genesis")
  ensure (epoch == database.recoveryEpoch + 1) (.coded .stateConflict "audit-recovery-genesis")
  let genesis ← require (genesisLink hash database.instanceID epoch priorCheckpoint recoveryDecision)
    (.coded .inputInvalid "audit-recovery-genesis")
  database.insertGenesis genesis

def Database.enterEpoch (database : Database φ β) : Database φ β :=
  { database with recoveryEpoch := database.recoveryEpoch + 1 }

/-- `PrepareRecoveredAuthority`: a new instance, the genesis of its epoch, and
the epoch itself in one transaction. -/
def prepareRecoveredAuthority (database : Database φ β) (priorInstanceID newInstanceID : String)
    (priorRecoveryEpoch : Int) (priorCheckpoint auditDecision : φ) : Except Failure (Database φ β) := do
  ensure (hash.valid priorCheckpoint) (.coded .inputInvalid "recovery-authority")
  ensure (priorInstanceID == database.instanceID && priorRecoveryEpoch == database.recoveryEpoch)
    (.coded .stateConflict "recovery-authority")
  ensure (!database.instances.contains newInstanceID) constraintViolated
  let genesis ← require (genesisLink hash newInstanceID (database.recoveryEpoch + 1) priorCheckpoint auditDecision)
    (.coded .integrityFailure "recovery-authority")
  let database ← { database with instances := database.instances ++ [newInstanceID] }.insertGenesis genesis
  return { database with
    instanceID := newInstanceID
    recoveryEpoch := database.recoveryEpoch + 1
    stateRevision := database.stateRevision + 1 }

/-- `ChainRange`: the links between two events and the digest that binds them. -/
def chainRange (database : Database φ β) (first last : Int) : Except Failure (ChainRange φ) := do
  ensure (decide (0 < first) && decide (first ≤ last)) (.coded .inputInvalid "audit-chain-range")
  let links := orderBy (fun link => link.eventID) (database.links.rows.filter fun link =>
    decide (first ≤ link.eventID) && decide (link.eventID ≤ last))
  ensure (links.head?.any (fun link => link.eventID == first) && links.getLast?.any fun link => link.eventID == last)
    (.coded .stateConflict "audit-chain-range")
  let digest ← require (digestChainRange hash links) (.coded .integrityFailure "audit-chain-range")
  return ⟨first, last, links, digest⟩

structure CanonicalAuditSuffix (φ : Type) where
  events : List (Event φ)
  chain : ChainRange φ
  digest : φ
  deriving DecidableEq

def maxRecoveryAuditSuffixEvents : Int := 4096

def readAuditSuffix (database : Database φ β) (first last : Int) : Except Failure (CanonicalAuditSuffix φ) := do
  ensure (decide (0 < first) && decide (first ≤ last) && decide (last - first + 1 ≤ maxRecoveryAuditSuffixEvents))
    (.coded .inputInvalid "audit-recovery-suffix")
  let rows := orderBy EventRow.eventID (database.events.rows.filter fun row =>
    decide (first ≤ row.eventID) && decide (row.eventID ≤ last))
  ensure (rows.all fun row => canonicalEvent hash row.event == some row.payloadDigest)
    (.coded .integrityFailure "audit-recovery-suffix")
  let events := rows.map EventRow.event
  ensure ((events.length : Int) == last - first + 1 && events.head?.any (fun event => event.eventID == first) &&
    events.getLast?.any fun event => event.eventID == last) (.coded .stateConflict "audit-recovery-suffix")
  let chain ← chainRange hash database first last
  match verifyLocal hash chain.links events [] with
  | .error _ => .error (.coded .integrityFailure "audit-recovery-suffix")
  | .ok _ =>
    .ok ⟨events, chain, hash.sum (.suffix first last (rows.map EventRow.payloadDigest) chain.rangeDigest)⟩

/-- The local part of `VerifyAuditHistory`. -/
def verifyAuditHistory (database : Database φ β) (checkpoints : List (Checkpoint φ)) :
    Except Failure (Except String (LocalResult φ)) := do
  let events := (orderBy EventRow.eventID database.events.rows).map EventRow.event
  match events.head?, events.getLast? with
  | some first, some last =>
    let chain ← chainRange hash database first.eventID last.eventID
    return verifyLocal hash chain.links events checkpoints
  | _, _ => return verifyLocal hash [] events checkpoints

def auditCheckpointDraft (database : Database φ β) (checkpointID : String) (first last : Int) :
    Except Failure (Checkpoint φ) := do
  let chain ← chainRange hash database first last
  match chain.links.head?, chain.links.getLast? with
  | some head, some tail =>
    ensure (head.recoveryEpoch == database.recoveryEpoch && tail.recoveryEpoch == database.recoveryEpoch &&
      head.instanceID != "") .unclassified
    return {
      checkpointID := checkpointID
      firstEventID := first
      lastEventID := last
      firstSegmentSequence := head.segmentSequence
      lastSegmentSequence := tail.segmentSequence
      chainDigest := chain.rangeDigest
      instanceID := head.instanceID
      recoveryEpoch := database.recoveryEpoch
      signatureDigest := none
      exportReceiptDigest := none
      independentReadDigest := none
      status := .pending
      preAnchor := head.preAnchor }
  | _, _ => .error .unclassified

def Checkpoint.anchored (checkpoint : Checkpoint φ) (signature receipt independent : φ) : Checkpoint φ :=
  { checkpoint with
    signatureDigest := some signature
    exportReceiptDigest := some receipt
    independentReadDigest := some independent
    status := .anchored }

/-- What happens to the audit tables over time. A restart forgets the health of
the process, so a call may find any. -/
inductive Action (φ β : Type) where
  | invoke (invocation : Invocation φ β) (health : Health)
  | reopen (faults : Faults)
  | prepareEpoch (epoch : Int) (priorCheckpoint recoveryDecision : φ)
  | enterEpoch
  | recover (priorInstanceID newInstanceID : String) (priorRecoveryEpoch : Int) (priorCheckpoint auditDecision : φ)

def orElse (database : Database φ β) (attempt : Except Failure (Database φ β)) : Database φ β :=
  match attempt with
  | .ok after => after
  | .error _ => database

def Action.run (database : Database φ β) : Action φ β → Database φ β
  | .invoke invocation health => (invocation.run hash ⟨database, health⟩).2.database
  | .reopen faults => orElse database (backfillPreAnchor hash faults database)
  | .prepareEpoch epoch prior decision => orElse database (prepareRecoveryAuditEpoch hash database epoch prior decision)
  | .enterEpoch => database.enterEpoch
  | .recover prior next epoch checkpoint decision =>
    orElse database (prepareRecoveredAuthority hash database prior next epoch checkpoint decision)

def unfolds (database : Database φ β) (actions : List (Action φ β)) : Database φ β :=
  actions.foldl (fun current action => action.run hash current) database

end VskLabs.Audit

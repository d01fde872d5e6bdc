import Mathlib.Data.List.MinMax
import VskLabs.Contracts.Documents
import VskLabs.Library.Outcome
import VskLabs.Library.Table

/-! The audit position of a restored snapshot. A snapshot is a usable source only if its
last event is the one that the latest anchored checkpoint ends with, and anchoring a
checkpoint records events itself. -/

namespace VskLabs.Recovery
open Library

inductive CheckpointStatus where
  | pending | signed | exportPending | anchored
  deriving DecidableEq

/-- A row of `audit_checkpoints`. -/
structure AuditCheckpoint where
  checkpointID : String
  lastEventID : Int
  status : CheckpointStatus
  independentReadDigest : Option String

/-- The checkpoints, and the greatest event id of `audit_chain_links`. -/
structure AuditTables where
  lastEventID : Int
  checkpoints : Table AuditCheckpoint.checkpointID

namespace AuditTables

def record (tables : AuditTables) (events : Nat) : AuditTables :=
  { tables with lastEventID := tables.lastEventID + events }

/-- `CreatePendingCheckpoint`; the range is the caller's. -/
def createPendingCheckpoint (tables : AuditTables) (checkpoint : AuditCheckpoint) : Except Failure AuditTables := do
  ensure (checkpoint.status == .pending && checkpoint.independentReadDigest.isNone && decide (0 < checkpoint.lastEventID))
    (.coded .inputInvalid "audit-checkpoint")
  let checkpoints ← require (tables.checkpoints.insert? checkpoint) constraintViolated
  return ({ tables with checkpoints } : AuditTables).record 1

/-- `transitionCheckpoint`: the row moves on and the event is recorded with it. -/
def transitionCheckpoint (tables : AuditTables) (checkpointID : String) (source target : CheckpointStatus)
    (independentReadDigest : Option String) : Except Failure AuditTables := do
  ensure ((tables.checkpoints.find? checkpointID).any fun row => row.status == source) .unclassified
  let checkpoints := tables.checkpoints.modify (fun row => row.checkpointID == checkpointID)
    (fun row => { row with status := target, independentReadDigest }) fun _ => rfl
  return ({ tables with checkpoints } : AuditTables).record 1

/-- A checkpoint is created, signed, exported and settled, with events of its run between
these steps. -/
def anchor (tables : AuditTables) (checkpoint : AuditCheckpoint) (digest : String) (created signed exported : Nat) :
    Except Failure AuditTables := do
  let tables ← tables.createPendingCheckpoint checkpoint
  let tables ← (tables.record created).transitionCheckpoint checkpoint.checkpointID .pending .signed none
  let tables ← (tables.record signed).transitionCheckpoint checkpoint.checkpointID .signed .exportPending none
  (tables.record exported).transitionCheckpoint checkpoint.checkpointID .exportPending .anchored (some digest)

/-- The same by `CheckpointEffect.Execute`, which reads `ChainRange` before it signs: the
last event of the range must have its link by then. -/
def execute (tables : AuditTables) (checkpoint : AuditCheckpoint) (digest : String) (created signed exported : Nat) :
    Except Failure AuditTables := do
  let tables ← tables.createPendingCheckpoint checkpoint
  ensure (decide (checkpoint.lastEventID ≤ (tables.record created).lastEventID)) (.coded .stateConflict "audit-chain-range")
  let tables ← (tables.record created).transitionCheckpoint checkpoint.checkpointID .pending .signed none
  let tables ← (tables.record signed).transitionCheckpoint checkpoint.checkpointID .signed .exportPending none
  (tables.record exported).transitionCheckpoint checkpoint.checkpointID .exportPending .anchored (some digest)

def anchoredRows (tables : AuditTables) : List AuditCheckpoint :=
  tables.checkpoints.rows.filter fun row => row.status == .anchored && row.independentReadDigest.isSome

/-- `readRestoredAuditPosition` and `VerifyRestoreAuditPosition` on the tables of a snapshot. -/
def readRestoredAuditPosition (tables : AuditTables) : Except Failure Int := do
  let last ← require (tables.anchoredRows.map AuditCheckpoint.lastEventID).max? (.coded .prerequisiteBlocked "restore-local-audit")
  ensure (last == tables.lastEventID) (.coded .prerequisiteBlocked "restore-local-audit")
  return last

end AuditTables

variable {tables after : AuditTables} {checkpoint : AuditCheckpoint} {digest : String}

structure EndsWith (old : List AuditCheckpoint) (row : AuditCheckpoint) (last : Int) (tables : AuditTables) : Prop where
  rows : tables.checkpoints.rows = old ++ [row]
  last : tables.lastEventID = last

theorem EndsWith.record {old : List AuditCheckpoint} {row : AuditCheckpoint} {last : Int} (ends : EndsWith old row last tables)
    (events : Nat) : EndsWith old row (last + events) (tables.record events) :=
  ⟨ends.rows, by rw [← ends.last]; rfl⟩

theorem EndsWith.transition {old : List AuditCheckpoint} {row : AuditCheckpoint} {last : Int} {source target : CheckpointStatus}
    {read : Option String} (ends : EndsWith old row last tables)
    (done : tables.transitionCheckpoint row.checkpointID source target read = .ok after) :
    EndsWith old { row with status := target, independentReadDigest := read } (last + 1) after := by
  simp only [AuditTables.transitionCheckpoint, peel] at done
  obtain ⟨_, _, rfl⟩ := done
  refine ⟨?_, by rw [← ends.last]; rfl⟩
  have distinct := tables.checkpoints.distinct
  simp only [ends.rows, List.map_append, List.map_cons, List.map_nil, List.nodup_append, List.mem_singleton] at distinct
  have others : old.map (fun other => if other.checkpointID == row.checkpointID then
      { other with status := target, independentReadDigest := read } else other) = old := by
    refine (List.map_congr_left fun other member => ?_).trans (List.map_id old)
    have different := distinct.2.2 _ (List.mem_map_of_mem member) _ rfl
    simp [different]
  simp only [AuditTables.record, Table.modify, ends.rows, List.map_append, others]
  simp

theorem anchor_endsWith {created signed exported : Nat} (done : tables.anchor checkpoint digest created signed exported = .ok after) :
    EndsWith tables.checkpoints.rows { checkpoint with status := .anchored, independentReadDigest := some digest }
      (tables.lastEventID + 4 + created + signed + exported) after := by
  simp only [AuditTables.anchor, AuditTables.createPendingCheckpoint, peel] at done
  obtain ⟨_, ⟨_, _, checkpoints, added, rfl⟩, second, signs, third, exports, settles⟩ := done
  have start : EndsWith tables.checkpoints.rows checkpoint (tables.lastEventID + 1)
      (({ tables with checkpoints } : AuditTables).record 1) := ⟨(Table.insert?_eq_some added).2, rfl⟩
  have ends := ((((start.record created).transition signs).record signed).transition exports).record exported |>.transition settles
  exact ⟨ends.rows, by rw [ends.last]; omega⟩

variable {created signed exported : Nat}

theorem readRestoredAuditPosition_iff (done : tables.anchor checkpoint digest created signed exported = .ok after)
    (latest : ∀ row ∈ tables.anchoredRows, row.lastEventID ≤ checkpoint.lastEventID) (backup : Nat) :
    (∃ position, (after.record backup).readRestoredAuditPosition = .ok position) ↔
      checkpoint.lastEventID = tables.lastEventID + 4 + created + signed + exported + backup := by
  have ends := (anchor_endsWith done).record backup
  have greatest : ((after.record backup).anchoredRows.map AuditCheckpoint.lastEventID).max? = some checkpoint.lastEventID := by
    rw [List.max?_eq_some_iff]
    simp only [AuditTables.anchoredRows, ends.rows, List.filter_append, List.map_append]
    refine ⟨by simp, fun last member => ?_⟩
    rcases List.mem_append.mp member with old | new
    · obtain ⟨row, listed, rfl⟩ := List.mem_map.mp old
      exact latest row listed
    · simp at new
      omega
  simp only [AuditTables.readRestoredAuditPosition, greatest, peel, checks, ends.last]
  constructor
  · rintro ⟨_, _, ⟨⟩, _, equal, _⟩
    exact equal
  · intro equal
    exact ⟨_, _, rfl, (), equal, rfl⟩

/-- A snapshot taken after the checkpoint is anchored is accepted exactly if the checkpoint
ends with the last event before the snapshot: four events after its creation, and the
events of the two runs. -/
theorem restored_position_accepted_iff
    (done : tables.anchor checkpoint digest created signed exported = .ok after)
    (latest : ∀ row ∈ tables.anchoredRows, row.lastEventID ≤ checkpoint.lastEventID) (backup : Nat) :
    (∃ position, (after.record backup).readRestoredAuditPosition = .ok position) ↔
      checkpoint.lastEventID = tables.lastEventID + 4 + created + signed + exported + backup :=
  readRestoredAuditPosition_iff done latest backup

/-- The effect never meets that condition: its range ends before the checkpoint is signed. -/
theorem executed_checkpoint_refused (done : tables.execute checkpoint digest created signed exported = .ok after)
    (latest : ∀ row ∈ tables.anchoredRows, row.lastEventID ≤ checkpoint.lastEventID) (backup : Nat) (position : Int) :
    (after.record backup).readRestoredAuditPosition ≠ .ok position := by
  intro read
  obtain ⟨first, made, done⟩ := bind_eq_ok.mp done
  obtain ⟨inside, done⟩ := ensure_bind.mp done
  have anchored : tables.anchor checkpoint digest created signed exported = .ok after := by
    rw [AuditTables.anchor, made]
    exact done
  have ends := (readRestoredAuditPosition_iff anchored latest backup).mp ⟨position, read⟩
  simp only [AuditTables.createPendingCheckpoint, peel] at made
  obtain ⟨_, _, checkpoints, _, rfl⟩ := made
  have before : checkpoint.lastEventID ≤ tables.lastEventID + 1 + created := of_decide_eq_true inside
  omega

def anchorable (lastEventID : Int) : AuditCheckpoint := ⟨"checkpoint", lastEventID, .pending, none⟩

def audited : AuditTables := ⟨10, Table.empty⟩

/-- The range of the checkpoint ends with an event that is still to come. -/
theorem foreseen_position_is_accepted : ∃ after, audited.anchor (anchorable 17) "digest" 1 0 0 = .ok after ∧
    ∃ position, (after.record 2).readRestoredAuditPosition = .ok position := by
  have runs : (audited.anchor (anchorable 17) "digest" 1 0 0).isOk = true := by decide +kernel
  simp only [finds] at runs
  obtain ⟨after, done⟩ := runs
  exact ⟨after, done, (restored_position_accepted_iff done (by simp [audited, AuditTables.anchoredRows, Table.empty]) 2).mpr rfl⟩

/-- Of ten events all are in the range of the checkpoint; nothing but its own steps happens. -/
theorem anchored_head_is_refused :
    ((audited.anchor (anchorable 10) "digest" 0 0 0).map fun after => after.readRestoredAuditPosition) =
      .ok (.error (.coded .prerequisiteBlocked "restore-local-audit")) := by
  decide +kernel

end VskLabs.Recovery

import Mathlib.Data.List.Lex
import Mathlib.Data.List.DropRight
import Mathlib.Data.String.Basic
import Mathlib.Data.List.MinMax
import Mathlib.Order.Lattice.Nat
import VskLabs.Contracts.Documents
import VskLabs.Library.Outcome
import VskLabs.Library.Table

/-! Inventory drafts as they are stored: the drafts with their child records, the
audit events that announce them, and the grants under which they are read. -/

namespace VskLabs.Inventory
open Library

structure Instant where
  seconds : Time
  nanos : Nat
  small : nanos < 1000000000
  deriving DecidableEq

/-- `time.Time{}`. -/
def Instant.zero : Instant := ⟨0, 0, by decide⟩

/-- An RFC 3339 text: the nineteen characters up to the second, which compare as the
seconds they stand for, and the characters after them. -/
structure Stamp where
  seconds : Time
  rest : List Char
  deriving DecidableEq

def decimals : Nat → Nat → List Char
  | 0, _ => []
  | width + 1, number => (number / 10 ^ width % 10).digitChar :: decimals width number

/-- `Format(time.RFC3339Nano)`: a fraction loses its trailing zeros, and a whole
second has none. -/
def Instant.format (instant : Instant) : Stamp where
  seconds := instant.seconds
  rest :=
    if instant.nanos = 0 then ['Z']
    else '.' :: (decimals 9 instant.nanos).rdropWhile (· == '0') ++ ['Z']

/-- `Before` on readings. -/
def Instant.before (first second : Instant) : Prop :=
  first.seconds < second.seconds ∨ first.seconds = second.seconds ∧ first.nanos < second.nanos

instance (first second : Instant) : Decidable (first.before second) :=
  inferInstanceAs (Decidable (_ ∨ _))

inductive ValidationStatus where
  | valid | blocked
  deriving DecidableEq

@[ext] structure DraftRef where
  id : String
  revision : Nat
  deriving DecidableEq

structure Counts where
  (assets nodes aliases addresses observations hardwareFacts provenance findings : Nat)
  deriving DecidableEq

/-- A row of `inventory_drafts`; `created_at` is the text of the reading kept here. -/
structure DraftRow where
  ref : DraftRef
  status : ValidationStatus
  contentDigest : String
  createdAt : Instant
  counts : Counts
  deriving DecidableEq

inductive RecordKind where
  | asset | node | alias | observation
  deriving DecidableEq

inductive Columns where
  | asset (kind lifecycle : String)
  | node (assetID parentID : String)
  | alias (targetID value : String)
  | observation (subjectID kind value : String) (observedAt : Instant)
  deriving DecidableEq

def Columns.kind : Columns → RecordKind
  | .asset .. => .asset
  | .node .. => .node
  | .alias .. => .alias
  | .observation .. => .observation

def Columns.admitted : Columns → Bool
  | .asset kind lifecycle => decide (1 ≤ kind.length) && decide (kind.length ≤ 128) &&
      decide (1 ≤ lifecycle.length) && decide (lifecycle.length ≤ 128)
  | .node assetID parentID => decide (assetID.length ≤ 128) && decide (parentID.length ≤ 128)
  | .alias targetID value => decide (targetID.length ≤ 128) && decide (1 ≤ value.length) && decide (value.length ≤ 1024)
  | .observation subjectID kind value _ => decide (subjectID.length ≤ 128) && decide (1 ≤ kind.length) &&
      decide (kind.length ≤ 128) && decide (value.length ≤ 1024)

/-- A child of a draft. The rows of one draft and kind stand in the order of their
ordinals. -/
structure RecordRow where
  draft : DraftRef
  localID : String
  columns : Columns

structure EventRow where
  (targetKind targetID afterFingerprint : String)
  stateRevision : Int

/-- The join of `inventory_drafts` with `audit_events`. -/
def EventRow.announces (event : EventRow) (draft : DraftRow) : Bool :=
  event.targetKind == "inventory-draft" && event.targetID == draft.ref.id &&
    event.afterFingerprint == draft.contentDigest

structure ReadPrincipal where
  principalID : String
  active : Bool
  grantRevision : Int

structure ReadGrant where
  (principalID capability resourceKind resourceID : String)
  grantRevision : Int
  active : Bool
  deriving DecidableEq

def ReadGrant.key (grant : ReadGrant) : String × String × String × String :=
  (grant.principalID, grant.capability, grant.resourceKind, grant.resourceID)

structure Source where
  (kind adapterKind adapterVersion sourceRevision digest : String)

def Source.named (source : Source) : Bool :=
  source.kind != "" && source.adapterKind != "" && source.adapterVersion != "" && source.sourceRevision != ""

def Source.sameRevision (source other : Source) : Bool :=
  source.kind == other.kind && source.adapterKind == other.adapterKind &&
    source.adapterVersion == other.adapterVersion && source.sourceRevision == other.sourceRevision

structure ImportKey where
  (keyDigest candidateDigest : String)
  ref : DraftRef

/-- The tables, with the constraints that hold of every row in them: drafts and child
rows have an id, child rows reference their draft, and a draft is announced by the
event of the transaction that stored it. -/
structure Database where
  drafts : Table DraftRow.ref
  records : List RecordRow
  events : List EventRow
  importKeys : Table ImportKey.keyDigest
  sources : List Source
  principals : Table ReadPrincipal.principalID
  grants : Table ReadGrant.key
  (stateRevision recoveryEpoch : Int)
  started : 0 ≤ stateRevision ∧ 0 ≤ recoveryEpoch
  identified : ∀ draft ∈ drafts.rows, draft.ref.id ≠ ""
  named : ∀ record ∈ records, record.localID ≠ ""
  owned : ∀ record ∈ records, ∃ draft ∈ drafts.rows, draft.ref = record.draft
  announced : ∀ draft ∈ drafts.rows, ∃ event ∈ events, event.announces draft = true ∧ event.stateRevision ≤ stateRevision

structure PutDraftRequest where
  expectedStateRevision : Option Int
  (idempotencyKeyDigest draftID : String)
  status : ValidationStatus
  source : Source
  contentDigest : String
  counts : Counts
  children : List (String × Columns)

/-- `COALESCE(MAX(draft_revision),0)+1`. -/
def nextRevision (drafts : List DraftRow) (draftID : String) : Nat :=
  ((drafts.filter fun draft => draft.ref.id == draftID).map fun draft => draft.ref.revision).foldr max 0 + 1

def childAdmitted (child : String × Columns) : Bool :=
  decide (1 ≤ child.1.length) && decide (child.1.length ≤ 128) && child.2.admitted

theorem nextRevision_fresh (drafts : List DraftRow) (draftID : String) :
    (⟨draftID, nextRevision drafts draftID⟩ : DraftRef) ∉ drafts.map DraftRow.ref := by
  intro taken
  obtain ⟨draft, member, same⟩ := List.mem_map.mp taken
  have own : draft ∈ drafts.filter fun draft => draft.ref.id == draftID := by simp [member, same]
  have listed := List.le_max_of_le (List.mem_map_of_mem own (f := fun draft => draft.ref.revision)) le_rfl
  rw [same] at listed
  simp only [nextRevision, bot_eq_zero] at listed
  omega

def Database.store (database : Database) (request : PutDraftRequest) (now : Instant)
    (importKeys : Table ImportKey.keyDigest) (identified : request.draftID ≠ "")
    (children : request.children.all childAdmitted = true) : Database :=
  let ref : DraftRef := ⟨request.draftID, nextRevision database.drafts.rows request.draftID⟩
  let draft : DraftRow := ⟨ref, request.status, request.contentDigest, now, request.counts⟩
  { database with
    drafts := ⟨database.drafts.rows ++ [draft], by
      rw [List.map_append, List.map_singleton]
      exact List.Nodup.append database.drafts.distinct (List.nodup_singleton _) (by
        simpa [List.disjoint_singleton] using nextRevision_fresh database.drafts.rows request.draftID)⟩
    records := database.records ++ request.children.map fun child => ⟨ref, child.1, child.2⟩
    events := database.events ++
      [⟨"inventory-draft", request.draftID, request.contentDigest, database.stateRevision + 1⟩]
    importKeys := importKeys
    sources := if request.source.named && !database.sources.any request.source.sameRevision
      then database.sources ++ [request.source] else database.sources
    stateRevision := database.stateRevision + 1
    started := ⟨Int.le_add_one database.started.1, database.started.2⟩
    identified := by
      intro stored member
      rcases List.mem_append.mp member with old | new
      · exact database.identified stored old
      · rw [List.mem_singleton.mp new]
        exact identified
    named := by
      intro record member
      rcases List.mem_append.mp member with old | new
      · exact database.named record old
      · obtain ⟨child, inside, rfl⟩ := List.mem_map.mp new
        have checked := List.all_eq_true.mp children child inside
        simp only [childAdmitted, checks] at checked
        intro empty
        have : child.1 = "" := empty
        rw [this] at checked
        exact absurd checked.1.1 (by decide)
    owned := by
      intro record member
      rcases List.mem_append.mp member with old | new
      · obtain ⟨owner, inside, same⟩ := database.owned record old
        exact ⟨owner, List.mem_append_left _ inside, same⟩
      · obtain ⟨child, _, rfl⟩ := List.mem_map.mp new
        exact ⟨draft, by simp, rfl⟩
    announced := by
      intro stored member
      rcases List.mem_append.mp member with old | new
      · obtain ⟨event, inside, announces, earlier⟩ := database.announced stored old
        exact ⟨event, List.mem_append_left _ inside, announces, Int.le_add_one earlier⟩
      · rw [List.mem_singleton.mp new]
        exact ⟨_, List.mem_append_right _ (.head _), by simp [EventRow.announces, draft, ref],
          Int.le_refl _⟩ }

def insertDraft (database : Database) (request : PutDraftRequest) (now : Instant) : Except Failure Database := do
  ensure (!(request.source.named && database.sources.any fun other =>
      request.source.sameRevision other && request.source.digest != other.digest))
    (.coded .stateConflict "inventory-source-revision")
  let ref : DraftRef := ⟨request.draftID, nextRevision database.drafts.rows request.draftID⟩
  let importKeys ← require (database.importKeys.insert? ⟨request.idempotencyKeyDigest, request.contentDigest, ref⟩)
    constraintViolated
  if admitted : request.draftID ≠ "" ∧ request.children.all childAdmitted = true then
    return database.store request now importKeys admitted.1 admitted.2
  else throw constraintViolated

/-- `InventoryDraftRepository.Put` for a request in the forms of the contract. -/
def put (database : Database) (request : PutDraftRequest) (now : Instant) : Except Failure Database := do
  ensure (request.draftID != "") (.coded .inputInvalid "inventory-draft")
  ensure (request.expectedStateRevision.all (· == database.stateRevision))
    (.coded .stateConflict "inventory-state-revision")
  match database.importKeys.find? request.idempotencyKeyDigest with
  | some used =>
    -- the intent of this key is answered again, or refused for another candidate
    ensure (used.candidateDigest == request.contentDigest) (.coded .stateConflict "audit-intent-key")
    return database
  | none => insertDraft database request now

end VskLabs.Inventory

import Mathlib.Data.Prod.Lex
import VskLabs.Inventory.Records
import VskLabs.Library.Paging

/-! The listings of drafts and of the records of a draft, from the request with its
cursor to the rows of one page. -/

namespace VskLabs.Inventory
open Library

structure RevisionToken where
  (stateRevision recoveryEpoch : Int)

/-- `ScopeDigest` stands as the resources it is computed from. -/
structure ReadScope where
  (principalID capability resourceKind : String)
  grantRevision : Int
  resources : List String
  deriving DecidableEq

structure ReadTarget where
  (capability resourceKind resourceID : String)

def denied : Failure := .coded .authorizationDenied "read"

/-- The active grants of a principal for a capability and a kind, of one resource or
of all. -/
def Database.activeGrants (database : Database) (principalID : String) (target : ReadTarget) : List ReadGrant :=
  (database.grants.rows.filter fun grant =>
    grant.principalID == principalID && grant.capability == target.capability &&
      grant.resourceKind == target.resourceKind && grant.active &&
      (target.resourceID == "" || grant.resourceID == target.resourceID)).insertionSort
    fun first second => first.resourceID ≤ second.resourceID

def resourcesOf (grants : List ReadGrant) (revision : Int) : Except Failure (List String) := do
  ensure (grants.all fun grant => grant.grantRevision == revision) denied
  ensure (!grants.isEmpty) denied
  return grants.map fun grant => grant.resourceID

/-- `AuthorizeRead` by the principal's own grants. -/
def authorizeRead (database : Database) (principalID : String) (target : ReadTarget) : Except Failure ReadScope := do
  let principal ← require (database.principals.find? principalID) denied
  ensure (principal.active && decide (0 < principal.grantRevision)) denied
  let resources ← resourcesOf (database.activeGrants principalID target) principal.grantRevision
  return ⟨principalID, target.capability, target.resourceKind, principal.grantRevision, resources⟩

def verifyReadScope (database : Database) (scope : ReadScope) (exactResource : String) : Except Failure Unit := do
  ensure (scope.principalID != "" && scope.capability != "" && scope.resourceKind != "" &&
    decide (0 < scope.grantRevision)) denied
  let principal ← require (database.principals.find? scope.principalID) denied
  ensure (principal.active && principal.grantRevision == scope.grantRevision) denied
  let resources ← resourcesOf
    (database.activeGrants scope.principalID ⟨scope.capability, scope.resourceKind, exactResource⟩) principal.grantRevision
  ensure (resources == scope.resources) denied

def currentRevision (database : Database) (scope : ReadScope) : Except Failure RevisionToken := do
  verifyReadScope database scope ""
  return ⟨database.stateRevision, database.recoveryEpoch⟩

def verifySnapshot (database : Database) (snapshot : RevisionToken) : Except Failure Unit :=
  ensure (snapshot.recoveryEpoch == database.recoveryEpoch && decide (0 ≤ snapshot.stateRevision) &&
    decide (snapshot.stateRevision ≤ database.stateRevision)) (.coded .stateConflict "read")

/-- `authorization.ResourceID` of a reference in its form. -/
def DraftRef.resourceID (ref : DraftRef) : String := ref.id ++ ":" ++ toString ref.revision

/-- The join with `read_grants`: the primary key leaves at most one such grant. -/
def Database.granted (database : Database) (scope : ReadScope) (ref : DraftRef) : Bool :=
  match database.grants.find? (scope.principalID, scope.capability, scope.resourceKind, ref.resourceID) with
  | some grant => grant.active && grant.grantRevision == scope.grantRevision
  | none => false

inductive Direction where
  | ascending | descending
  deriving DecidableEq

section Comparison

variable {α : Type} [LinearOrder α]

/-- The comparison a statement writes for its direction: what comes after the bound. -/
def Direction.less : Direction → α → α → Prop
  | .ascending, first, second => first < second
  | .descending, first, second => second < first

instance (direction : Direction) (first second : α) : Decidable (direction.less first second) :=
  match direction with
  | .ascending => inferInstanceAs (Decidable (first < second))
  | .descending => inferInstanceAs (Decidable (second < first))

end Comparison

instance : LinearOrder Stamp :=
  LinearOrder.lift' (fun stamp => toLex (stamp.seconds, stamp.rest)) (by
    rintro ⟨_, _⟩ ⟨_, _⟩ same
    cases same
    rfl)

structure DraftKey where
  createdAt : Stamp
  id : String
  revision : Nat

def DraftRow.key (draft : DraftRow) : DraftKey := ⟨draft.createdAt.format, draft.ref.id, draft.ref.revision⟩

def DraftKey.before (direction : Direction) (bound key : DraftKey) : Prop :=
  direction.less bound.createdAt key.createdAt ∨ bound.createdAt = key.createdAt ∧
    (direction.less bound.id key.id ∨ bound.id = key.id ∧ direction.less bound.revision key.revision)

instance (direction : Direction) (bound key : DraftKey) : Decidable (bound.before direction key) :=
  inferInstanceAs (Decidable (_ ∨ _))

/-- `strings.Repeat("z", 128)`. -/
def lastID : String := String.ofList (List.replicate 128 'z')

/-- The bound of a descending list without a cursor: `9999-12-31T23:59:59.999999999Z`. -/
def lastDraft : DraftKey := ⟨⟨315537897599, ".999999999Z".toList⟩, lastID, 9223372036854775807⟩

/-- The time of a cursor is kept as its text, which `Parse` and `Format` turn into
each other; `none` is the zero time. -/
structure DraftListQuery where
  afterCreatedAt : Option Stamp
  afterDraftID : String
  (afterRevision limit : Nat)
  sort : Direction

/-- The bound in the statement. An ascending list compares with the empty text, which
is below every time. -/
def DraftListQuery.bound (query : DraftListQuery) : Option DraftKey :=
  match query.afterCreatedAt, query.sort with
  | some createdAt, _ => some ⟨createdAt, query.afterDraftID, query.afterRevision⟩
  | none, .ascending => none
  | none, .descending => some lastDraft

/-- The rows of the statement: one for each granted draft and event of the snapshot
that announces it. -/
def Database.draftRows (database : Database) (scope : ReadScope) (snapshot : RevisionToken) : List DraftRow :=
  (database.drafts.rows.filter fun draft => database.granted scope draft.ref).flatMap fun draft =>
    (database.events.filter fun event =>
      event.announces draft && decide (event.stateRevision ≤ snapshot.stateRevision)).map fun _ => draft

def orderDrafts (direction : Direction) (rows : List DraftRow) : List DraftRow :=
  rows.insertionSort fun first second => ¬ second.key.before direction first.key

/-- `ReadRepository.ListDrafts`: the items of the page and the last of them if there
are more. -/
def listDrafts (database : Database) (scope : ReadScope) (query : DraftListQuery) (snapshot : RevisionToken) :
    Except Failure (List DraftRow × Option DraftRow) := do
  ensure (decide (1 ≤ query.limit) && decide (query.limit ≤ 200)) (.coded .inputInvalid "read")
  verifySnapshot database snapshot
  verifyReadScope database scope ""
  let rows := (orderDrafts query.sort (database.draftRows scope snapshot)).filter fun draft =>
    query.bound.all fun bound => decide (bound.before query.sort draft.key)
  return cut query.limit (rows.take (query.limit + 1))

structure Record where
  localID : String
  columns : Columns
  validationStatus : ValidationStatus
  deriving DecidableEq

/-- The rows of one kind of one draft, joined with the draft and the grant. -/
def Database.recordRows (database : Database) (scope : ReadScope) (ref : DraftRef) (kind : RecordKind) : List Record :=
  (database.records.filter fun record => record.draft == ref && record.columns.kind == kind).filterMap fun record =>
    (database.drafts.find? record.draft).bind fun draft =>
      if database.granted scope record.draft then some ⟨record.localID, record.columns, draft.status⟩ else none

structure RecordListQuery where
  afterLocalID : String
  limit : Nat
  sort : Direction

def RecordListQuery.bound (query : RecordListQuery) : String :=
  match query.sort with
  | .ascending => query.afterLocalID
  | .descending => if query.afterLocalID = "" then lastID else query.afterLocalID

def orderRecords (direction : Direction) (rows : List Record) : List Record :=
  rows.insertionSort fun first second => ¬ direction.less second.localID first.localID

/-- `ReadRepository.ListRecords`, with `readRecordRows`. -/
def listRecords (database : Database) (scope : ReadScope) (ref : DraftRef) (kind : RecordKind) (query : RecordListQuery)
    (snapshot : RevisionToken) : Except Failure (List Record × Option Record) := do
  ensure (decide (1 ≤ query.limit) && decide (query.limit ≤ 200)) (.coded .inputInvalid "read")
  verifySnapshot database snapshot
  verifyReadScope database scope ref.resourceID
  let rows := (orderRecords query.sort (database.recordRows scope ref kind)).filter fun record =>
    decide (query.sort.less query.bound record.localID)
  return cut query.limit (rows.take (query.limit + 1))

structure CursorBinding where
  endpointID : String
  limit : Nat
  sort : Direction
  scope : ReadScope
  deriving DecidableEq

structure CursorPosition (σ : Type) where
  sortValue : σ
  immutableID : String

structure Cursor (σ : Type) where
  binding : CursorBinding
  snapshot : RevisionToken
  position : CursorPosition σ
  expiresAt : Int

/-- The codec of one process: `bodySize` is the length of the JSON text of a cursor. -/
structure CursorCodec (σ : Type) where
  bodySize : Cursor σ → Nat
  now : Int

def cursorConflict : Failure := .coded .stateConflict "cursor"

/-- The length of the token: the body and a 32-byte code in unpadded base64 with a dot
between them. -/
def tokenSize (body : Nat) : Nat := (body * 4 + 2) / 3 + 1 + 43

variable {σ : Type}

def CursorCodec.encode (codec : CursorCodec σ) (binding : CursorBinding) (snapshot : RevisionToken)
    (position : CursorPosition σ) : Except Failure (Cursor σ) := do
  ensure (binding.endpointID != "" && decide (binding.endpointID.utf8ByteSize ≤ 128) &&
    decide (0 < binding.scope.grantRevision) && decide (0 ≤ snapshot.stateRevision) &&
    decide (0 ≤ snapshot.recoveryEpoch)) cursorConflict
  ensure (position.immutableID != "" && decide (position.immutableID.utf8ByteSize ≤ 256)) cursorConflict
  let cursor : Cursor σ := ⟨binding, snapshot, position, codec.now + 900⟩
  ensure (decide (tokenSize (codec.bodySize cursor) ≤ 2048)) cursorConflict
  return cursor

def CursorCodec.decode (codec : CursorCodec σ) (binding : CursorBinding) (cursor : Cursor σ) :
    Except Failure (Cursor σ) := do
  ensure (decide (tokenSize (codec.bodySize cursor) ≤ 2048) && decide (codec.bodySize cursor ≤ 1536)) cursorConflict
  ensure (cursor.binding == binding && decide (codec.now ≤ cursor.expiresAt) && cursor.position.immutableID != "")
    cursorConflict
  return cursor

/-- `pageState`: the current revision without a cursor, that of the cursor with one. -/
def pageState (database : Database) (codec : CursorCodec σ) (binding : CursorBinding) (cursor : Option (Cursor σ)) :
    Except Failure (RevisionToken × Option (CursorPosition σ)) :=
  match cursor with
  | none => (currentRevision database binding.scope).map fun snapshot => (snapshot, none)
  | some cursor => (codec.decode binding cursor).map fun decoded => (decoded.snapshot, some decoded.position)

def splitLastColon (text : String) : Option (String × String) :=
  let letters := text.toList.reverse
  match letters.dropWhile (· != ':') with
  | [] => none
  | _ :: front => some (String.ofList front.reverse, String.ofList (letters.takeWhile (· != ':')).reverse)

/-- `strconv.ParseInt` of a text without a sign; a column holds no larger numbers than
it reads. -/
def parseInt (text : String) : Option Nat :=
  let digits := text.toList
  if !digits.isEmpty && digits.all Char.isDigit then some (Nat.ofDigitChars 10 digits 0) else none

/-- `time.Parse` of a cursor's time, kept as its text. -/
def parseTime (stamp : Stamp) : Option Stamp := if stamp = Instant.zero.format then none else some stamp

def draftRequest (limit : Nat) (sort : Direction) (position : Option (CursorPosition Stamp)) :
    Except Failure DraftListQuery :=
  match position with
  | none => .ok ⟨none, "", 0, limit, sort⟩
  | some position => do
    let (id, digits) ← require (splitLastColon position.immutableID) cursorConflict
    ensure (id != "") cursorConflict
    let revision ← require (parseInt digits) cursorConflict
    return ⟨parseTime position.sortValue, id, revision, limit, sort⟩

def nextCursor {ρ : Type} (codec : CursorCodec σ) (binding : CursorBinding) (snapshot : RevisionToken)
    (position : ρ → CursorPosition σ) (page : List ρ × Option ρ) : Except Failure (List ρ × Option (Cursor σ)) :=
  match page with
  | (items, none) => .ok (items, none)
  | (items, some last) =>
    (codec.encode binding snapshot (position last)).map fun cursor => (items, some cursor)

def DraftRow.position (draft : DraftRow) : CursorPosition Stamp :=
  ⟨draft.createdAt.format, draft.ref.id ++ ":" ++ toString draft.ref.revision⟩

def draftBinding (scope : ReadScope) (limit : Nat) (sort : Direction) : CursorBinding :=
  ⟨"api.v1.inventory-drafts.list", limit, sort, scope⟩

/-- The handler of `api.v1.inventory-drafts.list`. -/
def draftList (database : Database) (codec : CursorCodec Stamp) (scope : ReadScope) (limit : Nat) (sort : Direction)
    (cursor : Option (Cursor Stamp)) : Except Failure (List DraftRow × Option (Cursor Stamp)) := do
  let binding := draftBinding scope limit sort
  let (snapshot, position) ← pageState database codec binding cursor
  let request ← draftRequest limit sort position
  let page ← listDrafts database scope request snapshot
  nextCursor codec binding snapshot DraftRow.position page

def RecordKind.text : RecordKind → String
  | .asset => "asset"
  | .node => "node"
  | .alias => "alias"
  | .observation => "observation"

def Record.position (record : Record) : CursorPosition String := ⟨record.localID, record.localID⟩

def recordBinding (scope : ReadScope) (kind : RecordKind) (limit : Nat) (sort : Direction) : CursorBinding :=
  ⟨"api.v1.inventory-draft-" ++ kind.text ++ "s.list", limit, sort, scope⟩

def afterLocalID : Option (CursorPosition String) → String
  | none => ""
  | some position => position.immutableID

def recordList (kind : RecordKind) (database : Database) (codec : CursorCodec String) (scope : ReadScope) (ref : DraftRef)
    (limit : Nat) (sort : Direction) (cursor : Option (Cursor String)) :
    Except Failure (List Record × Option (Cursor String)) := do
  let binding := recordBinding scope kind limit sort
  let (snapshot, position) ← pageState database codec binding cursor
  let page ← listRecords database scope ref kind ⟨afterLocalID position, limit, sort⟩ snapshot
  nextCursor codec binding snapshot Record.position page

end VskLabs.Inventory

import VskLabs.Inventory.DraftListing

/-! The record lists of a draft are exact under a condition on the stored records: no
page ends among records of one id, page ends fit into a cursor, and the ids of a
descending list stay below its bound. The principal may hold no other draft. -/

namespace VskLabs.Inventory
open Library Library.Keyset

variable {id principalID : String}

section Records

variable (database : Database) (codec : CursorCodec String) (scope : ReadScope) (ref : DraftRef) (kind : RecordKind)
  (limit : Nat) (sort : Direction)

def recordListing (positive : 0 < limit) : Keyset Record String Failure (Cursor String) where
  key := Record.localID
  before := sort.less
  decided := inferInstance
  total := inferInstance
  limit := limit
  positive := positive
  start := some (⟨"", limit, sort⟩ : RecordListQuery).bound
  token record := codec.encode (recordBinding scope kind limit sort) database.revision record.position
  resumes record := cursorFits codec (recordBinding scope kind limit sort) database.revision record.position = true

def Database.recordsOf : List Record :=
  match database.drafts.find? ref with
  | some draft =>
    (database.records.filter fun record => record.draft == ref && record.columns.kind == kind).map fun record =>
      ⟨record.localID, record.columns, draft.status⟩
  | none => []

def Database.recordsBefore (id : String) : Nat :=
  (database.recordsOf ref kind).countP fun other => decide (sort.less other.localID id)

def Database.recordsUpto (id : String) : Nat :=
  (database.recordsOf ref kind).countP fun other => !decide (sort.less id other.localID)

def RecordsPaged : Prop :=
  ∃ fuel items, follow (recordList kind database codec scope ref limit sort) fuel none = some items ∧
    items.Perm (database.recordsOf ref kind) ∧ items.Pairwise fun first second => ¬ sort.less second.localID first.localID

structure RecordsListable : Prop where
  sole : ∀ grant ∈ database.activeGrants scope.principalID ⟨scope.capability, scope.resourceKind, ""⟩,
    grant.resourceID = ref.resourceID
  bounded : sort = .descending → ∀ record ∈ database.recordsOf ref kind, record.localID < lastID
  unbroken : ∀ record ∈ database.recordsOf ref kind, ∀ turn,
    database.recordsBefore ref kind sort record.localID < turn * limit →
    turn * limit ≤ database.recordsUpto ref kind sort record.localID →
    turn * limit < (database.recordsOf ref kind).length →
    turn * limit = database.recordsUpto ref kind sort record.localID ∧
      cursorFits codec (recordBinding scope kind limit sort) database.revision record.position = true

variable {database codec scope ref kind limit sort}

theorem recordRows_eq (granted : database.granted scope ref = true) :
    database.recordRows scope ref kind = database.recordsOf ref kind := by
  unfold Database.recordRows Database.recordsOf
  have joined : ∀ record ∈ database.records.filter (fun record => record.draft == ref && record.columns.kind == kind),
      ((database.drafts.find? record.draft).bind fun draft =>
        if database.granted scope record.draft then some (⟨record.localID, record.columns, draft.status⟩ : Record) else none) =
      (database.drafts.find? ref).map fun draft => ⟨record.localID, record.columns, draft.status⟩ := by
    intro record member
    have owner := (List.mem_filter.mp member).2
    simp only [checks] at owner
    rw [owner.1, granted]
    cases database.drafts.find? ref <;> rfl
  rw [List.filterMap_congr joined]
  cases database.drafts.find? ref with
  | none => simp
  | some draft => exact congrFun List.filterMap_eq_map _

variable {record : Record}

theorem named_recordsOf (member : record ∈ database.recordsOf ref kind) : record.localID ≠ "" := by
  unfold Database.recordsOf at member
  split at member
  · obtain ⟨row, inside, rfl⟩ := List.mem_map.mp member
    exact database.named row (List.mem_filter.mp inside).1
  · cases member

theorem mem_orderRecords : record ∈ orderRecords sort (database.recordsOf ref kind) ↔
    record ∈ database.recordsOf ref kind :=
  (List.perm_insertionSort _ _).mem_iff

theorem record_page (small : 1 ≤ limit ∧ limit ≤ 200) (verified : verifyReadScope database scope ref.resourceID = .ok ())
    (granted : database.granted scope ref = true) (id : String) :
    (listRecords database scope ref kind ⟨id, limit, sort⟩ database.revision >>=
        nextCursor codec (recordBinding scope kind limit sort) database.revision Record.position) =
      (recordListing database codec scope kind limit sort small.1).page (orderRecords sort (database.recordsOf ref kind))
        (some (⟨id, limit, sort⟩ : RecordListQuery).bound) := by
  simp only [listRecords, limit_in_range small, verifySnapshot_revision, verified, recordRows_eq granted, bind, Except.bind, pure,
    Except.pure]
  rfl

theorem recordList_opened {cursor : Option (Cursor String)} {position : Option (CursorPosition String)}
    (opened : pageState database codec (recordBinding scope kind limit sort) cursor = .ok (database.revision, position)) :
    recordList kind database codec scope ref limit sort cursor =
      (listRecords database scope ref kind ⟨afterLocalID position, limit, sort⟩ database.revision >>=
        nextCursor codec (recordBinding scope kind limit sort) database.revision Record.position) := by
  simp only [recordList, opened, ok_bind]

theorem recordList_serves (small : 1 ≤ limit ∧ limit ≤ 200) (allowed : 0 < scope.grantRevision)
    (verified : verifyReadScope database scope ref.resourceID = .ok ()) (all : verifyReadScope database scope "" = .ok ())
    (granted : database.granted scope ref = true) : (recordListing database codec scope kind limit sort small.1).Serves
      (orderRecords sort (database.recordsOf ref kind)) (recordList kind database codec scope ref limit sort) where
  first := by
    rw [recordList_opened (pageState_none all)]
    exact record_page small verified granted _
  next := by
    intro record member fits
    have named := named_recordsOf (mem_orderRecords.mp member)
    have endpoint : ∀ kind : RecordKind, "api.v1.inventory-draft-" ++ kind.text ++ "s.list" ≠ "" ∧
        ("api.v1.inventory-draft-" ++ kind.text ++ "s.list").utf8ByteSize ≤ 128 := by
      intro kind
      cases kind <;> decide
    have encoded := encode_eq_ok.mpr ⟨⟨(endpoint kind).1, (endpoint kind).2, allowed, database.started⟩, named, fits, rfl⟩
    have bound : (⟨record.localID, limit, sort⟩ : RecordListQuery).bound = record.localID := by
      cases sort with
      | ascending => rfl
      | descending => simp [RecordListQuery.bound, named]
    have page := @record_page database codec scope ref kind limit sort small verified granted record.localID
    rw [bound] at page
    exact ⟨_, encoded, (recordList_opened (pageState_encoded encoded)).trans page⟩
  stuck := fun record _ stuck _ encoded => absurd (encode_eq_ok.mp encoded).2.2.1 stuck

theorem not_paged_of_refused (refused : verifyReadScope database scope "" ≠ .ok ()) :
    ¬ RecordsPaged database codec scope ref kind limit sort := by
  rintro ⟨fuel, items, followed, _⟩
  have error : ∃ failure, recordList kind database codec scope ref limit sort none = .error failure := by
    cases outcome : verifyReadScope database scope "" with
    | ok value => exact absurd outcome refused
    | error failure =>
      refine ⟨failure, ?_⟩
      have boundTo : (recordBinding scope kind limit sort).scope = scope := rfl
      simp only [recordList, pageState, currentRevision, boundTo, outcome, bind, Except.bind, Except.map]
  obtain ⟨failure, error⟩ := error
  cases fuel with
  | zero => cases followed
  | succ fuel =>
    simp only [follow, error] at followed
    cases followed

theorem empty_lt {text : String} (named : text ≠ "") : "" < text := by
  rw [String.lt_iff_toList_lt]
  have letters : text.toList ≠ [] := by simpa using named
  obtain ⟨first, rest, shape⟩ := List.exists_cons_of_ne_nil letters
  rw [shape]
  exact List.nil_lt_cons _ _

theorem recordsAdmitted_iff (positive : 0 < limit) :
    (∀ record ∈ orderRecords sort (database.recordsOf ref kind),
        (recordListing database codec scope kind limit sort positive).admits
          (recordListing database codec scope kind limit sort positive).start record = true) ↔
      (sort = .descending → ∀ record ∈ database.recordsOf ref kind, record.localID < lastID) := by
  simp only [mem_orderRecords]
  cases sort with
  | ascending =>
    simp only [reduceCtorEq, false_implies, iff_true]
    intro record member
    exact decide_eq_true (empty_lt (named_recordsOf member))
  | descending =>
    simp only [forall_const]
    exact forall₂_congr fun _ _ => decide_eq_true_iff

theorem recordsPaged_iff (small : 1 ≤ limit ∧ limit ≤ 200) (allowed : 0 < scope.grantRevision)
    (verified : verifyReadScope database scope ref.resourceID = .ok ()) (granted : database.granted scope ref = true)
    (sole : verifyReadScope database scope "" = .ok () ↔
      ∀ grant ∈ database.activeGrants scope.principalID ⟨scope.capability, scope.resourceKind, ""⟩,
        grant.resourceID = ref.resourceID) :
    RecordsPaged database codec scope ref kind limit sort ↔ RecordsListable database codec scope ref kind limit sort := by
  by_cases all : verifyReadScope database scope "" = .ok ()
  · have serves := @recordList_serves database codec scope ref kind limit sort small allowed verified all granted
    have sorted : (recordListing database codec scope kind limit sort small.1).Sorted
        (orderRecords sort (database.recordsOf ref kind)) := sorted_insertionSort _
    have reorder : (orderRecords sort (database.recordsOf ref kind)).Perm (database.recordsOf ref kind) :=
      List.perm_insertionSort _ _
    have counts : ∀ test : Record → Bool, (orderRecords sort (database.recordsOf ref kind)).countP test =
        (database.recordsOf ref kind).countP test := reorder.countP_eq
    have complete := serves.complete_iff sorted (List.Subset.refl _)
    rw [returns_self_iff, unbroken_iff sorted, recordsAdmitted_iff small.1] at complete
    · simp only [mem_orderRecords, reorder.length_eq, below, upto, counts] at complete
      constructor
      · rintro ⟨fuel, items, followed, listed, _⟩
        have same := (serves.sublist sorted followed).eq_of_length ((listed.trans reorder.symm).length_eq)
        obtain ⟨bounded, unbroken⟩ := complete.mp ⟨fuel, same ▸ followed⟩
        exact ⟨sole.mp all, bounded, unbroken⟩
      · intro listable
        obtain ⟨fuel, followed⟩ := complete.mpr ⟨listable.bounded, listable.unbroken⟩
        exact ⟨fuel, _, followed, reorder, sorted⟩
    · intro first second same
      simp only [recordListing, Record.position] at same ⊢
      rw [same]
  · constructor
    · intro paged
      exact absurd paged (not_paged_of_refused all)
    · intro listable
      exact absurd (sole.mpr listable.sole) all

end Records

def draftsTarget : ReadTarget := ⟨"inventory.draft.read", "inventory-draft", ""⟩

def recordsTarget (ref : DraftRef) : ReadTarget := ⟨"inventory.draft.read", "inventory-draft", ref.resourceID⟩

variable {limit : Nat} {sort : Direction}

theorem draftsPaged_authorized {database : Database} {codec : CursorCodec Stamp} {scope : ReadScope}
    (named : principalID ≠ "") (small : 1 ≤ limit ∧ limit ≤ 200)
    (authorized : authorizeRead database principalID draftsTarget = .ok scope) :
    DraftsPaged database codec scope limit sort ↔ DraftsListable database codec scope limit sort := by
  have texts : principalID ≠ "" ∧ draftsTarget.capability ≠ "" ∧ draftsTarget.resourceKind ≠ "" :=
    ⟨named, by simp [draftsTarget], by simp [draftsTarget]⟩
  have verified := verifyReadScope_authorized authorized texts
  simp only [draftsTarget] at verified
  exact draftsPaged_iff small (positive_of_authorized authorized) verified

theorem recordsPaged_authorized {database : Database} {codec : CursorCodec String} {scope : ReadScope}
    {ref : DraftRef} {kind : RecordKind} (named : principalID ≠ "")
    (small : 1 ≤ limit ∧ limit ≤ 200) (authorized : authorizeRead database principalID (recordsTarget ref) = .ok scope) :
    RecordsPaged database codec scope ref kind limit sort ↔ RecordsListable database codec scope ref kind limit sort := by
  unfold recordsTarget at authorized
  have texts : principalID ≠ "" ∧ "inventory.draft.read" ≠ "" ∧ "inventory-draft" ≠ "" := ⟨named, by simp, by simp⟩
  have nonempty := resourceID_ne_empty ref
  have all := verifyReadScope_all_iff authorized texts nonempty
  have granted := granted_of_authorized authorized nonempty
  have verified := verifyReadScope_authorized authorized texts
  have positive := positive_of_authorized authorized
  obtain ⟨_, _, _, _, _, _, rfl⟩ := authorizeRead_eq_ok authorized
  exact recordsPaged_iff small positive verified granted all

/-- The lists of drafts and of records are exact in just the databases whose rows meet
the conditions, for every principal, limit and direction. -/
theorem inventory_lists_exact_iff (database : Database) (principalID : String) (named : principalID ≠ "") (limit : Nat)
    (small : 1 ≤ limit ∧ limit ≤ 200) (sort : Direction) :
    (∀ codec scope, authorizeRead database principalID draftsTarget = .ok scope →
      (DraftsPaged database codec scope limit sort ↔ DraftsListable database codec scope limit sort)) ∧
    ∀ codec scope ref kind, authorizeRead database principalID (recordsTarget ref) = .ok scope →
      (RecordsPaged database codec scope ref kind limit sort ↔ RecordsListable database codec scope ref kind limit sort) :=
  ⟨fun _ _ authorized => draftsPaged_authorized named small authorized,
    fun _ _ _ _ authorized => recordsPaged_authorized named small authorized⟩

def shelf : Database where
  drafts := Table.empty
  records := []
  events := []
  importKeys := Table.empty
  sources := []
  principals := ⟨[⟨"reader", true, 1⟩, ⟨"keeper", true, 1⟩], by decide⟩
  grants := ⟨[⟨"reader", "inventory.draft.read", "inventory-draft", "draft-a:1", 1, true⟩,
    ⟨"reader", "inventory.draft.read", "inventory-draft", "draft-b:1", 1, true⟩,
    ⟨"keeper", "inventory.draft.read", "inventory-draft", "draft-a:1", 1, true⟩], by decide⟩
  stateRevision := 0
  recoveryEpoch := 0
  started := by decide
  identified := fun _ member => by cases member
  named := fun _ member => by cases member
  owned := fun _ member => by cases member
  announced := fun _ member => by cases member

def noCounts : Counts := ⟨2, 0, 0, 0, 0, 0, 0, 0⟩

def firstImport : PutDraftRequest :=
  ⟨none, "key-1", "draft-a", .blocked, ⟨"manual", "json", "1", "revision-1", "source-1"⟩, "content-1", noCounts,
    [("asset-1", .asset "physical" "active"), ("asset-1", .asset "virtual" "active")]⟩

def secondImport : PutDraftRequest :=
  ⟨none, "key-2", "draft-b", .valid, ⟨"manual", "json", "1", "revision-2", "source-2"⟩, "content-2", noCounts, []⟩

def noon : Instant := ⟨63900000000, 0, Instant.zero.small⟩

def afterNoon : Instant := ⟨63900000000, 500000000, by decide⟩

def imports : Except Failure Database := do
  let one ← put shelf firstImport noon
  put one secondImport afterNoon

def imported : Database := imports.toOption.getD shelf

def plainCodec (σ : Type) : CursorCodec σ := ⟨fun _ => 300, 0⟩

theorem imports_eq : imports = .ok imported := by
  have done : imports.isOk = true := by decide +kernel
  simp only [finds] at done
  obtain ⟨database, outcome⟩ := done
  rw [imported, outcome]
  rfl

theorem keeper_reads : authorizeRead imported "keeper" (recordsTarget ⟨"draft-a", 1⟩) =
    .ok ⟨"keeper", "inventory.draft.read", "inventory-draft", 1, ["draft-a:1"]⟩ := by decide +kernel

/-- A reader gets the draft of half past the second first, and of two assets with one
id only the first. -/
theorem imported_lists_inexact :
    imports = .ok imported ∧
    authorizeRead imported "reader" draftsTarget =
      .ok ⟨"reader", "inventory.draft.read", "inventory-draft", 1, ["draft-a:1", "draft-b:1"]⟩ ∧
    ¬ DraftsPaged imported (plainCodec Stamp)
      ⟨"reader", "inventory.draft.read", "inventory-draft", 1, ["draft-a:1", "draft-b:1"]⟩ 50 .ascending ∧
    authorizeRead imported "keeper" (recordsTarget ⟨"draft-a", 1⟩) =
      .ok ⟨"keeper", "inventory.draft.read", "inventory-draft", 1, ["draft-a:1"]⟩ ∧
    ¬ RecordsPaged imported (plainCodec String)
      ⟨"keeper", "inventory.draft.read", "inventory-draft", 1, ["draft-a:1"]⟩ ⟨"draft-a", 1⟩ .asset 1 .ascending := by
  have reader : authorizeRead imported "reader" draftsTarget =
      .ok ⟨"reader", "inventory.draft.read", "inventory-draft", 1, ["draft-a:1", "draft-b:1"]⟩ := by decide +kernel
  refine ⟨imports_eq, reader, ?_, keeper_reads, ?_⟩
  · rw [draftsPaged_authorized (by decide) (by decide) reader]
    intro listable
    have ordered := listable.chronological ⟨⟨"draft-a", 1⟩, .blocked, "content-1", noon, noCounts⟩ (by decide +kernel)
      ⟨⟨"draft-b", 1⟩, .valid, "content-2", afterNoon, noCounts⟩ (by decide +kernel) (by decide)
    exact absurd ordered (by decide +kernel)
  · rw [recordsPaged_authorized (by decide) (by decide) keeper_reads]
    intro listable
    have ended := listable.unbroken ⟨"asset-1", .asset "physical" "active", .blocked⟩ (by decide +kernel) 1
      (by decide +kernel) (by decide +kernel) (by decide +kernel)
    exact absurd ended.1 (by decide +kernel)

/-- On one page both assets are returned. -/
theorem imported_assets_exact :
    ("keeper" ≠ "" ∧ 1 ≤ 2 ∧ 2 ≤ 200) ∧
    RecordsPaged imported (plainCodec String)
      ⟨"keeper", "inventory.draft.read", "inventory-draft", 1, ["draft-a:1"]⟩ ⟨"draft-a", 1⟩ .asset 2 .ascending := by
  have size : (imported.recordsOf ⟨"draft-a", 1⟩ .asset).length = 2 := by decide +kernel
  refine ⟨by decide, ((inventory_lists_exact_iff imported "keeper" (by decide) 2 (by decide) .ascending).2 _ _ _ _
    keeper_reads).mpr ⟨by decide +kernel, by decide, ?_⟩⟩
  intro record _ turn above _ inside
  omega

end VskLabs.Inventory

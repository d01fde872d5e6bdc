import VskLabs.Inventory.Listings

/-! The list of drafts is exact under a condition on the stored drafts: each is
announced once or is the last of its page, page ends can be put into a cursor that
goes on after them, and the texts of the creation times compare as the times do. -/

namespace VskLabs.Inventory
open Library Library.Keyset

section Drafts

variable (database : Database) (codec : CursorCodec Stamp) (scope : ReadScope) (limit : Nat) (sort : Direction)

def draftListing (positive : 0 < limit) : Keyset DraftRow DraftKey Failure (Cursor Stamp) where
  key := DraftRow.key
  before := DraftKey.before sort
  decided := inferInstance
  total := inferInstance
  limit := limit
  positive := positive
  start := (⟨none, "", 0, limit, sort⟩ : DraftListQuery).bound
  token draft := codec.encode (draftBinding scope limit sort) database.revision draft.position
  resumes draft := draft.createdAt ≠ Instant.zero ∧
    cursorFits codec (draftBinding scope limit sort) database.revision draft.position = true

variable {database codec scope limit sort} {draft : DraftRow}

theorem draftRequest_position (identified : draft.ref.id ≠ "") : draftRequest limit sort (some draft.position) =
    .ok ⟨parseTime draft.createdAt.format, draft.ref.id, draft.ref.revision, limit, sort⟩ := by
  simp only [draftRequest, DraftRow.position, splitLastColon_join, peel]
  exact ⟨_, rfl, (), by simpa using identified, _, parseInt_toString _, rfl⟩

theorem bound_position (draft : DraftRow) :
    (⟨parseTime draft.createdAt.format, draft.ref.id, draft.ref.revision, limit, sort⟩ : DraftListQuery).bound =
      if draft.createdAt = Instant.zero then (⟨none, "", 0, limit, sort⟩ : DraftListQuery).bound else some draft.key := by
  by_cases zero : draft.createdAt = Instant.zero
  · simp only [parseTime, zero, if_true]
    cases sort <;> rfl
  · simp only [parseTime, if_neg zero, if_neg fun same => zero (Instant.format_inj same)]
    rfl

theorem verifySnapshot_revision : verifySnapshot database database.revision = .ok () := by
  simp only [verifySnapshot, peel, Database.revision]
  simp [database.started.1]

abbrev Database.orderedDrafts (database : Database) (scope : ReadScope) (sort : Direction) : List DraftRow :=
  orderDrafts sort (database.draftRows scope database.revision)

theorem draft_page (small : 1 ≤ limit ∧ limit ≤ 200) (verified : verifyReadScope database scope "" = .ok ())
    (query : DraftListQuery) (sameLimit : query.limit = limit) (sameSort : query.sort = sort) :
    (listDrafts database scope query database.revision >>=
        nextCursor codec (draftBinding scope limit sort) database.revision DraftRow.position) =
      (draftListing database codec scope limit sort small.1).page (database.orderedDrafts scope sort) query.bound := by
  subst sameLimit
  subst sameSort
  simp only [listDrafts, limit_in_range small, verifySnapshot_revision, verified, bind, Except.bind, pure, Except.pure]
  rfl

theorem mem_draftRows (member : draft ∈ database.draftRows scope database.revision) :
    draft ∈ database.drafts.rows ∧ database.granted scope draft.ref = true := by
  simp only [Database.draftRows, List.mem_flatMap, List.mem_filter, List.mem_map] at member
  obtain ⟨_, kept, _, _, rfl⟩ := member
  exact kept

theorem encode_draft (allowed : 0 < scope.grantRevision)
    (fits : cursorFits codec (draftBinding scope limit sort) database.revision draft.position = true) :
    ∃ made, codec.encode (draftBinding scope limit sort) database.revision draft.position = .ok made := by
  have endpoint : (draftBinding scope limit sort).endpointID = "api.v1.inventory-drafts.list" := rfl
  refine ⟨_, encode_eq_ok.mpr ⟨⟨?_, ?_, allowed, database.started⟩, resourceID_ne_empty draft.ref, fits, rfl⟩⟩
  · rw [endpoint]
    decide
  · rw [endpoint]
    decide

theorem draftList_serves (small : 1 ≤ limit ∧ limit ≤ 200) (verified : verifyReadScope database scope "" = .ok ())
    (allowed : 0 < scope.grantRevision) : (draftListing database codec scope limit sort small.1).Serves
      (database.orderedDrafts scope sort) (draftList database codec scope limit sort) := by
  have onward : ∀ draft ∈ database.orderedDrafts scope sort, ∀ made,
      codec.encode (draftBinding scope limit sort) database.revision draft.position = .ok made →
      draftList database codec scope limit sort (some made) =
        (draftListing database codec scope limit sort small.1).page (database.orderedDrafts scope sort)
          (if draft.createdAt = Instant.zero then (⟨none, "", 0, limit, sort⟩ : DraftListQuery).bound else some draft.key) := by
    intro draft member made encoded
    have identified := database.identified draft (mem_draftRows ((List.perm_insertionSort _ _).mem_iff.mp member)).1
    simp only [draftList, pageState_encoded encoded, ok_bind, draftRequest_position identified]
    rw [draft_page small verified _ rfl rfl, bound_position]
  refine ⟨?_, ?_, ?_⟩
  · have opened : pageState database codec (draftBinding scope limit sort) none = .ok (database.revision, none) :=
      pageState_none verified
    have request : draftRequest limit sort none = .ok ⟨none, "", 0, limit, sort⟩ := rfl
    simp only [draftList, opened, ok_bind, request]
    exact draft_page small verified _ rfl rfl
  · rintro draft member ⟨started, fits⟩
    obtain ⟨made, encoded⟩ := encode_draft allowed fits
    refine ⟨made, encoded, ?_⟩
    rw [onward draft member made encoded, if_neg started]
    rfl
  · intro draft member stuck made encoded
    have zero : draft.createdAt = Instant.zero := by
      by_contra started
      exact stuck ⟨started, (encode_eq_ok.mp encoded).2.2.1⟩
    rw [onward draft member made encoded, if_pos zero]
    rfl

variable (database codec scope limit sort)

def Database.grantedDrafts : List DraftRow := database.drafts.rows.filter fun draft => database.granted scope draft.ref

def Database.announcements (draft : DraftRow) : Nat :=
  database.events.countP fun event => event.announces draft && decide (event.stateRevision ≤ database.stateRevision)

def Database.draftRank (draft : DraftRow) : Nat :=
  ((database.grantedDrafts scope).countP fun other => decide (other.key.before sort draft.key)) + 1

def Direction.inTime (direction : Direction) (first second : DraftRow) : Prop :=
  match direction with
  | .ascending => ¬ second.createdAt.before first.createdAt
  | .descending => ¬ first.createdAt.before second.createdAt

/-- Following the cursors ends and returns each granted draft once, by creation time. -/
def DraftsPaged : Prop :=
  ∃ fuel items, follow (draftList database codec scope limit sort) fuel none = some items ∧
    items.Perm (database.grantedDrafts scope) ∧ items.Pairwise sort.inTime

structure DraftsListable : Prop where
  bounded : sort = .descending → ∀ draft ∈ database.grantedDrafts scope, lastDraft.before .descending draft.key
  announcedOnce : ∀ draft ∈ database.grantedDrafts scope,
    database.announcements draft = 1 ∨ limit ∣ database.draftRank scope sort draft
  resumable : ∀ draft ∈ database.grantedDrafts scope, limit ∣ database.draftRank scope sort draft →
    database.draftRank scope sort draft < (database.grantedDrafts scope).length ∨ 1 < database.announcements draft →
    draft.createdAt ≠ Instant.zero ∧ cursorFits codec (draftBinding scope limit sort) database.revision draft.position = true
  chronological : ∀ first ∈ database.grantedDrafts scope, ∀ second ∈ database.grantedDrafts scope,
    first.createdAt.before second.createdAt → first.createdAt.format < second.createdAt.format

variable {database codec scope limit sort}

theorem draftRows_eq : database.draftRows scope database.revision =
    spread database.announcements (database.grantedDrafts scope) := by
  unfold Database.draftRows Database.grantedDrafts spread
  congr 1
  funext draft
  rw [List.map_const', ← List.countP_eq_length_filter]
  rfl

theorem nodup_grantedDrafts : (database.grantedDrafts scope).Nodup :=
  (List.Nodup.of_map _ database.drafts.distinct).filter _

theorem keyed_grantedDrafts : ∀ first ∈ database.grantedDrafts scope, ∀ second ∈ database.grantedDrafts scope,
    first.key = second.key → first = second := by
  intro first firstMember second secondMember same
  simp only [DraftRow.key, DraftKey.mk.injEq] at same
  exact List.inj_on_of_nodup_map database.drafts.distinct (List.mem_filter.mp firstMember).1
    (List.mem_filter.mp secondMember).1 (DraftRef.ext_iff.mpr ⟨same.2.1, same.2.2⟩)

theorem announcements_pos (member : draft ∈ database.grantedDrafts scope) :
    0 < database.announcements draft := by
  obtain ⟨event, inside, announces, earlier⟩ := database.announced draft (List.mem_filter.mp member).1
  exact List.countP_pos_iff.mpr ⟨event, inside, by simp [announces, earlier]⟩

theorem mem_orderDrafts : draft ∈ orderDrafts sort (database.grantedDrafts scope) ↔ draft ∈ database.grantedDrafts scope :=
  (List.perm_insertionSort _ _).mem_iff

theorem orderedDrafts_eq (positive : 0 < limit) (codec : CursorCodec Stamp) : database.orderedDrafts scope sort =
    spread database.announcements (orderDrafts sort (database.grantedDrafts scope)) := by
  rw [Database.orderedDrafts, draftRows_eq]
  exact @insertionSort_spread _ _ _ _ (draftListing database codec scope limit sort positive) _ _ keyed_grantedDrafts

/-- The drafts come back in order if the start admits them and no page end is in the way. -/
theorem follow_drafts_iff (small : 1 ≤ limit ∧ limit ≤ 200) (allowed : 0 < scope.grantRevision)
    (verified : verifyReadScope database scope "" = .ok ()) :
    (∃ fuel, follow (draftList database codec scope limit sort) fuel none =
        some (orderDrafts sort (database.grantedDrafts scope))) ↔
      (sort = .descending → ∀ draft ∈ database.grantedDrafts scope, lastDraft.before .descending draft.key) ∧
      ∀ draft ∈ database.grantedDrafts scope,
        (database.announcements draft = 1 ∨ limit ∣ database.draftRank scope sort draft) ∧
        (limit ∣ database.draftRank scope sort draft →
          database.draftRank scope sort draft < (database.grantedDrafts scope).length ∨ 1 < database.announcements draft →
          draft.createdAt ≠ Instant.zero ∧
            cursorFits codec (draftBinding scope limit sort) database.revision draft.position = true) := by
  have reorder : (orderDrafts sort (database.grantedDrafts scope)).Perm (database.grantedDrafts scope) :=
    List.perm_insertionSort _ _
  have serves := @draftList_serves database codec scope limit sort small verified allowed
  have strict : (orderDrafts sort (database.grantedDrafts scope)).Pairwise
      (draftListing database codec scope limit sort small.1).precedes :=
    strict_insertionSort keyed_grantedDrafts nodup_grantedDrafts
  have rank : ∀ draft, (draftListing database codec scope limit sort small.1).below
      (orderDrafts sort (database.grantedDrafts scope)) draft + 1 = database.draftRank scope sort draft :=
    fun draft => congrArg (· + 1) (reorder.countP_eq _)
  have copied := @orderedDrafts_eq database scope limit sort small.1 codec
  have inside : ∀ draft, draft ∈ database.orderedDrafts scope sort ↔ draft ∈ database.grantedDrafts scope := by
    intro draft
    rw [copied]
    constructor
    · exact fun member => reorder.mem_iff.mp (mem_of_mem_spread member)
    · intro member
      exact List.mem_flatMap.mpr ⟨draft, reorder.mem_iff.mpr member,
        List.mem_replicate.mpr ⟨(announcements_pos member).ne', rfl⟩⟩
  rw [serves.complete_iff (sorted_insertionSort _) fun draft member => reorder.mem_iff.mpr ((inside draft).mp member), copied,
    returns_spread_iff _ (fun draft member => announcements_pos (reorder.mem_iff.mp member)) strict, unrepeated_iff strict]
  simp only [← copied, inside, rank, reorder.length_eq, reorder.mem_iff]
  refine and_congr ?_ Iff.rfl
  cases sort with
  | ascending => simp [Keyset.admits, draftListing, DraftListQuery.bound]
  | descending =>
    simp only [Keyset.admits, draftListing, DraftListQuery.bound, Option.all_some, forall_const]
    exact forall₂_congr fun _ _ => decide_eq_true_iff

theorem mem_pair {ρ : Type} {order : ρ → ρ → Prop} {rows : List ρ} (pairwise : rows.Pairwise order) {first second : ρ}
    (firstMember : first ∈ rows) (secondMember : second ∈ rows) : first = second ∨ order first second ∨ order second first := by
  have either : Std.Symm fun first second => order first second ∨ order second first := ⟨fun _ _ => Or.symm⟩
  by_cases same : first = second
  · exact .inl same
  · have apart : rows.Pairwise fun first second => order first second ∨ order second first := pairwise.imp .inl
    exact .inr (apart.forall firstMember secondMember same)

theorem Instant.before_asymm {first second : Instant} (earlier : first.before second) : ¬ second.before first := by
  unfold Instant.before at earlier ⊢
  lia

theorem inTime_iff {items : List DraftRow} (sorted : items.Pairwise fun first second => ¬ second.key.before sort first.key) :
    items.Pairwise sort.inTime ↔ ∀ first ∈ items, ∀ second ∈ items,
      first.createdAt.before second.createdAt → first.createdAt.format < second.createdAt.format := by
  constructor
  · intro timely first firstMember second secondMember earlier
    by_contra notBelow
    have different : first.createdAt.format ≠ second.createdAt.format := by
      intro same
      rw [Instant.format_inj same] at earlier
      exact Instant.before_asymm earlier earlier
    have below : second.createdAt.format < first.createdAt.format := lt_of_le_of_ne (not_lt.mp notBelow) different.symm
    rcases mem_pair (sorted.and timely) firstMember secondMember with rfl | ⟨notAfter, inTime⟩ | ⟨notAfter, inTime⟩
    · exact Instant.before_asymm earlier earlier
    · cases sort with
      | ascending => exact notAfter (.inl below)
      | descending => exact inTime earlier
    · cases sort with
      | ascending => exact inTime earlier
      | descending => exact notAfter (.inl below)
  · intro agrees
    refine List.Pairwise.imp_of_mem ?_ sorted
    intro first second firstMember secondMember notAfter
    cases sort with
    | ascending =>
      intro earlier
      exact notAfter (.inl (agrees second secondMember first firstMember earlier))
    | descending =>
      intro earlier
      exact notAfter (.inl (agrees first firstMember second secondMember earlier))

theorem draftsPaged_iff (small : 1 ≤ limit ∧ limit ≤ 200) (allowed : 0 < scope.grantRevision)
    (verified : verifyReadScope database scope "" = .ok ()) :
    DraftsPaged database codec scope limit sort ↔ DraftsListable database codec scope limit sort := by
  have followed := @follow_drafts_iff database codec scope limit sort small allowed verified
  have sorted : ∀ rows : List DraftRow, (orderDrafts sort rows).Pairwise fun first second => ¬ second.key.before sort first.key :=
    @sorted_insertionSort _ _ _ _ (draftListing database codec scope limit sort small.1)
  have timely := inTime_iff (sorted (database.grantedDrafts scope))
  simp only [mem_orderDrafts] at timely
  constructor
  · rintro ⟨fuel, items, done, complete, inTime⟩
    have part := (draftList_serves small verified allowed).sublist (sorted_insertionSort _) done
    have same : items = orderDrafts sort (database.grantedDrafts scope) := by
      refine (complete.trans (List.perm_insertionSort _ _).symm).eq_of_pairwise ?_ ((sorted _).sublist part) (sorted _)
      intro first second firstMember secondMember notAfter notBefore
      exact keyed_grantedDrafts first (complete.mem_iff.mp firstMember) second (mem_orderDrafts.mp secondMember)
        ((DraftKey.lexicographic sort).isStrictTotalOrder.trichotomous _ _ notBefore notAfter)
    subst same
    obtain ⟨bounded, listable⟩ := followed.mp ⟨fuel, done⟩
    exact ⟨bounded, fun draft member => (listable draft member).1, fun draft member => (listable draft member).2,
      timely.mp inTime⟩
  · intro listable
    obtain ⟨fuel, done⟩ := followed.mpr ⟨listable.bounded, fun draft member =>
      ⟨listable.announcedOnce draft member, listable.resumable draft member⟩⟩
    exact ⟨fuel, _, done, List.perm_insertionSort _ _, timely.mpr listable.chronological⟩

end Drafts

end VskLabs.Inventory

import VskLabs.Inventory.Reads

/-! When the listings are exact. Following the cursors returns every granted draft,
or every record of a kind, once and in order exactly under a condition on the stored
rows: where pages end, what shares a key there, and how the keys compare. -/

namespace VskLabs.Inventory
open Library Library.Keyset

section Order

variable {α : Type} [LinearOrder α]

instance (direction : Direction) : IsStrictTotalOrder α direction.less :=
  match direction with
  | .ascending => inferInstanceAs (IsStrictTotalOrder α (· < ·))
  | .descending => inferInstanceAs (IsStrictTotalOrder α (· > ·))

end Order

instance lexicographicOrder {α β : Type} {first : α → α → Prop} {second : β → β → Prop} [IsStrictTotalOrder α first]
    [IsStrictTotalOrder β second] : IsStrictTotalOrder (α × β) (Prod.Lex first second) := {}

/-- Draft keys compare lexicographically. -/
def DraftKey.lexicographic (direction : Direction) :
    DraftKey.before direction ↪r Prod.Lex (direction.less (α := Stamp))
      (Prod.Lex (direction.less (α := String)) (direction.less (α := Nat))) where
  toFun key := (key.createdAt, key.id, key.revision)
  inj' first second same := by
    cases first
    cases second
    simpa using same
  map_rel_iff' := by
    intro first second
    simp only [Prod.lex_def]
    rfl

instance (direction : Direction) : IsStrictTotalOrder DraftKey (DraftKey.before direction) :=
  (DraftKey.lexicographic direction).isStrictTotalOrder

theorem splitLastColon_join (id : String) (revision : Nat) :
    splitLastColon (id ++ ":" ++ toString revision) = some (id, toString revision) := by
  have plain : ∀ letter ∈ (toString revision).toList.reverse, (letter != ':') = true := by
    intro letter member
    have digit : letter.isDigit := by
      rw [List.mem_reverse, Nat.toString_eq_ofList_toDigits, String.toList_ofList] at member
      exact Nat.isDigit_of_mem_toDigits (by decide) (by decide) member
    rw [bne_iff_ne]
    rintro rfl
    exact absurd digit (by decide)
  have letters : (id ++ ":" ++ toString revision).toList.reverse =
      (toString revision).toList.reverse ++ ':' :: id.toList.reverse := by
    simp
  simp only [splitLastColon, letters, List.dropWhile_append_of_pos plain, List.takeWhile_append_of_pos plain]
  simp [Nat.repr_eq_ofList_toDigits]

theorem parseInt_toString (revision : Nat) : parseInt (toString revision) = some revision := by
  have letters : (toString revision).toList = Nat.toDigits 10 revision := by
    rw [Nat.toString_eq_ofList_toDigits, String.toList_ofList]
  have some : (Nat.toDigits 10 revision).isEmpty = false := by
    rw [List.isEmpty_eq_false_iff]
    exact Nat.toDigits_ne_nil
  have digits : (Nat.toDigits 10 revision).all Char.isDigit = true := by
    rw [List.all_eq_true]
    intro letter member
    exact Nat.isDigit_of_mem_toDigits (by decide) (by decide) member
  simp only [parseInt, letters, some, digits, Bool.not_false, Bool.and_self, if_true, Nat.ofDigitChars_ten_toDigits]

section Format

theorem decimals_inj {width first second : Nat} (same : decimals width first = decimals width second) :
    first % 10 ^ width = second % 10 ^ width := by
  induction width with
  | zero => simp [Nat.mod_one]
  | succ width ih =>
    simp only [decimals, List.cons.injEq] at same
    have digits : ∀ left < 10, ∀ right < 10, Nat.digitChar left = Nat.digitChar right → left = right := by decide
    have leading := digits _ (Nat.mod_lt _ (by decide)) _ (Nat.mod_lt _ (by decide)) same.1
    rw [Nat.mod_pow_succ, Nat.mod_pow_succ, ih same.2, leading]

theorem length_decimals (width number : Nat) : (decimals width number).length = width := by
  induction width with
  | zero => rfl
  | succ width ih => rw [decimals, List.length_cons, ih]

theorem rdropWhile_inj {first second : List Char} (lengths : first.length = second.length)
    (same : first.rdropWhile (· == '0') = second.rdropWhile (· == '0')) : first = second := by
  have zeros : ∀ digits : List Char, digits.rtakeWhile (· == '0') =
      List.replicate (digits.rtakeWhile (· == '0')).length '0' := by
    refine fun digits => List.eq_replicate_of_mem fun letter member => ?_
    simpa using List.mem_rtakeWhile_imp member
  have whole := fun digits : List Char => @List.rdropWhile_append_rtakeWhile _ (· == '0') digits
  have counts := congrArg List.length (whole first)
  have others := congrArg List.length (whole second)
  rw [List.length_append] at counts others
  rw [same] at counts
  have equal : (first.rtakeWhile (· == '0')).length = (second.rtakeWhile (· == '0')).length := by omega
  rw [← whole first, ← whole second, same, zeros first, zeros second, equal]

theorem Instant.format_inj {first second : Instant} (same : first.format = second.format) : first = second := by
  obtain ⟨seconds, nanos, small⟩ := first
  obtain ⟨otherSeconds, otherNanos, otherSmall⟩ := second
  simp only [Instant.format, Stamp.mk.injEq] at same
  obtain ⟨rfl, rests⟩ := same
  have equal : nanos = otherNanos := by
    by_cases whole : nanos = 0
    · by_cases otherWhole : otherNanos = 0
      · rw [whole, otherWhole]
      · simp [whole, otherWhole] at rests
    · by_cases otherWhole : otherNanos = 0
      · simp [whole, otherWhole] at rests
      · simp only [whole, otherWhole, if_false, List.cons_append, List.cons.injEq, true_and,
          List.append_left_inj] at rests
        have digits := rdropWhile_inj (by rw [length_decimals, length_decimals]) rests
        have numbers : nanos % 1000000000 = otherNanos % 1000000000 := decimals_inj digits
        omega
  subst equal
  rfl

end Format

section Scope

variable {database : Database} {principalID : String} {target : ReadTarget} {scope : ReadScope}

theorem mem_activeGrants {grant : ReadGrant} : grant ∈ database.activeGrants principalID target ↔
    grant ∈ database.grants.rows ∧ grant.principalID = principalID ∧ grant.capability = target.capability ∧
      grant.resourceKind = target.resourceKind ∧ grant.active = true ∧
      (target.resourceID = "" ∨ grant.resourceID = target.resourceID) := by
  simp [Database.activeGrants, and_assoc]

theorem resourcesOf_eq_ok {grants : List ReadGrant} {revision : Int} {resources : List String} :
    resourcesOf grants revision = .ok resources ↔ (∀ grant ∈ grants, grant.grantRevision = revision) ∧ grants ≠ [] ∧
      resources = grants.map fun grant => grant.resourceID := by
  simp only [resourcesOf, peel, checks, List.isEmpty_eq_false_iff]
  constructor
  · rintro ⟨_, revisions, _, some, rfl⟩
    exact ⟨revisions, some, rfl⟩
  · rintro ⟨revisions, some, rfl⟩
    exact ⟨(), revisions, (), some, rfl⟩

theorem authorizeRead_eq_ok (authorized : authorizeRead database principalID target = .ok scope) :
    ∃ principal resources, database.principals.find? principalID = some principal ∧ principal.active = true ∧
      0 < principal.grantRevision ∧
      resourcesOf (database.activeGrants principalID target) principal.grantRevision = .ok resources ∧
      scope = ⟨principalID, target.capability, target.resourceKind, principal.grantRevision, resources⟩ := by
  simp only [authorizeRead, peel] at authorized
  obtain ⟨principal, found, _, allowed, resources, listed, rfl⟩ := authorized
  simp only [checks] at allowed
  exact ⟨principal, resources, found, allowed.1, allowed.2, listed, rfl⟩

theorem verifyReadScope_eq_ok (authorized : authorizeRead database principalID target = .ok scope)
    (named : principalID ≠ "" ∧ target.capability ≠ "" ∧ target.resourceKind ≠ "") {exactResource : String} :
    verifyReadScope database scope exactResource = .ok () ↔
      resourcesOf (database.activeGrants principalID ⟨target.capability, target.resourceKind, exactResource⟩)
        scope.grantRevision = .ok scope.resources := by
  obtain ⟨principal, resources, found, active, positive, _, rfl⟩ := authorizeRead_eq_ok authorized
  simp only [verifyReadScope, peel]
  constructor
  · rintro ⟨_, _, other, again, _, _, current, listed, equal⟩
    cases found.symm.trans again
    rw [beq_iff_eq.mp equal] at listed
    exact listed
  · intro listed
    refine ⟨(), ?_, principal, found, (), ?_, resources, listed, beq_self_eq_true _⟩
    · simp [named.1, named.2.1, named.2.2, positive]
    · simp [active]

theorem verifyReadScope_authorized (authorized : authorizeRead database principalID target = .ok scope)
    (named : principalID ≠ "" ∧ target.capability ≠ "" ∧ target.resourceKind ≠ "") :
    verifyReadScope database scope target.resourceID = .ok () := by
  rw [verifyReadScope_eq_ok authorized named]
  obtain ⟨_, _, _, _, _, listed, rfl⟩ := authorizeRead_eq_ok authorized
  exact listed

theorem positive_of_authorized (authorized : authorizeRead database principalID target = .ok scope) :
    0 < scope.grantRevision := by
  obtain ⟨_, _, _, _, positive, _, rfl⟩ := authorizeRead_eq_ok authorized
  exact positive

theorem verifyReadScope_all_iff (authorized : authorizeRead database principalID target = .ok scope)
    (named : principalID ≠ "" ∧ target.capability ≠ "" ∧ target.resourceKind ≠ "") (exact : target.resourceID ≠ "") :
    verifyReadScope database scope "" = .ok () ↔
      ∀ grant ∈ database.activeGrants principalID ⟨target.capability, target.resourceKind, ""⟩,
        grant.resourceID = target.resourceID := by
  rw [verifyReadScope_eq_ok authorized named]
  obtain ⟨principal, resources, _, _, _, listed, rfl⟩ := authorizeRead_eq_ok authorized
  dsimp only
  constructor
  · intro all grant member
    have resources := (resourcesOf_eq_ok.mp all).2.2
    rw [(resourcesOf_eq_ok.mp listed).2.2] at resources
    have inAll : grant.resourceID ∈ (database.activeGrants principalID target).map fun grant => grant.resourceID := by
      rw [resources]
      exact List.mem_map_of_mem member
    obtain ⟨other, otherMember, equal⟩ := List.mem_map.mp inAll
    obtain ⟨_, _, _, _, _, empty | isTarget⟩ := mem_activeGrants.mp otherMember
    · exact absurd empty exact
    · rw [← equal, isTarget]
  · intro sole
    have equal : database.activeGrants principalID ⟨target.capability, target.resourceKind, ""⟩ =
        database.activeGrants principalID target := by
      unfold Database.activeGrants
      congr 1
      apply List.filter_congr
      intro grant member
      -- a grant of the class that is not for the target would be another one
      have other := sole grant
      simp only [mem_activeGrants, member, true_and, true_or, and_true] at other
      rw [Bool.eq_iff_iff]
      simp only [checks, true_or, and_true]
      tauto
    rw [equal]
    exact listed

theorem granted_of_authorized {ref : DraftRef} {capability resourceKind : String}
    (authorized : authorizeRead database principalID ⟨capability, resourceKind, ref.resourceID⟩ = .ok scope)
    (exact : ref.resourceID ≠ "") : database.granted scope ref = true := by
  obtain ⟨_, _, _, _, _, listed, rfl⟩ := authorizeRead_eq_ok authorized
  obtain ⟨revisions, held, _⟩ := resourcesOf_eq_ok.mp listed
  obtain ⟨grant, others, shape⟩ := List.exists_cons_of_ne_nil held
  have member : grant ∈ database.activeGrants principalID ⟨capability, resourceKind, ref.resourceID⟩ := by
    rw [shape]
    exact .head _
  obtain ⟨stored, isPrincipal, isCapability, isKind, active, isResource⟩ := mem_activeGrants.mp member
  have resource : grant.resourceID = ref.resourceID := isResource.resolve_left exact
  have found : database.grants.find? (principalID, capability, resourceKind, ref.resourceID) = some grant := by
    rw [Table.find?_eq_some_iff]
    refine ⟨stored, ?_⟩
    simp only [ReadGrant.key, isPrincipal, isCapability, isKind, resource]
  simp only [Database.granted, found, active, revisions grant member, beq_self_eq_true, Bool.and_self]

theorem resourceID_ne_empty (ref : DraftRef) : ref.resourceID ≠ "" := by
  intro empty
  have letters := congrArg String.toList empty
  simp [DraftRef.resourceID] at letters

end Scope

section Cursors

variable {σ : Type} {codec : CursorCodec σ} {binding : CursorBinding} {snapshot : RevisionToken}
  {position : CursorPosition σ} {cursor : Cursor σ}

def cursorFits (codec : CursorCodec σ) (binding : CursorBinding) (snapshot : RevisionToken) (position : CursorPosition σ) :
    Bool :=
  decide (position.immutableID.utf8ByteSize ≤ 256) &&
    decide (tokenSize (codec.bodySize ⟨binding, snapshot, position, codec.now + 900⟩) ≤ 2048)

theorem encode_eq_ok : codec.encode binding snapshot position = .ok cursor ↔
    (binding.endpointID ≠ "" ∧ binding.endpointID.utf8ByteSize ≤ 128 ∧ 0 < binding.scope.grantRevision ∧
      0 ≤ snapshot.stateRevision ∧ 0 ≤ snapshot.recoveryEpoch) ∧ position.immutableID ≠ "" ∧
      cursorFits codec binding snapshot position = true ∧ cursor = ⟨binding, snapshot, position, codec.now + 900⟩ := by
  simp only [CursorCodec.encode, peel, checks, ne_eq, cursorFits]
  constructor
  · rintro ⟨_, ⟨⟨⟨⟨endpoint, short⟩, positive⟩, revision⟩, epoch⟩, _, ⟨named, small⟩, _, fits, rfl⟩
    exact ⟨⟨endpoint, short, positive, revision, epoch⟩, named, ⟨small, fits⟩, rfl⟩
  · rintro ⟨⟨endpoint, short, positive, revision, epoch⟩, named, ⟨small, fits⟩, rfl⟩
    exact ⟨(), ⟨⟨⟨⟨endpoint, short⟩, positive⟩, revision⟩, epoch⟩, (), ⟨named, small⟩, (), fits, rfl⟩

theorem decode_encoded (encoded : codec.encode binding snapshot position = .ok cursor) :
    codec.decode binding cursor = .ok cursor := by
  obtain ⟨_, named, fits, rfl⟩ := encode_eq_ok.mp encoded
  simp only [cursorFits, checks] at fits
  have body : codec.bodySize ⟨binding, snapshot, position, codec.now + 900⟩ ≤ 1536 := by
    have := fits.2
    unfold tokenSize at this
    omega
  simp only [CursorCodec.decode, peel, checks, ne_eq]
  exact ⟨(), ⟨fits.2, body⟩, (), ⟨⟨trivial, by omega⟩, named⟩, trivial⟩

theorem limit_in_range {limit : Nat} (small : 1 ≤ limit ∧ limit ≤ 200) :
    ensure (decide (1 ≤ limit) && decide (limit ≤ 200)) (Failure.coded .inputInvalid "read") = .ok () := by
  simp [small]

def Database.revision (database : Database) : RevisionToken := ⟨database.stateRevision, database.recoveryEpoch⟩

theorem pageState_none {database : Database} (verified : verifyReadScope database binding.scope "" = .ok ()) :
    pageState database codec binding none = .ok (database.revision, none) := by
  have current : currentRevision database binding.scope = .ok database.revision := by
    simp only [currentRevision, verified, ok_bind]
    rfl
  exact congrArg (Except.map fun snapshot => (snapshot, none)) current

theorem pageState_encoded {database : Database} (encoded : codec.encode binding snapshot position = .ok cursor) :
    pageState database codec binding (some cursor) = .ok (snapshot, some position) := by
  have decoded := decode_encoded encoded
  obtain ⟨_, _, _, rfl⟩ := encode_eq_ok.mp encoded
  exact congrArg (Except.map fun cursor : Cursor σ => (cursor.snapshot, some cursor.position)) decoded

end Cursors

end VskLabs.Inventory

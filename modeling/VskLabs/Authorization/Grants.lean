import VskLabs.Authorization.Policy

/-! How a decision depends on the list of grants. The evaluator takes the first
match and then tests its role, so the order the store lists grants in decides
which role is tested. -/

namespace VskLabs.Authorization

/-! ### The listed order -/

theorem listedBefore_total (first second : GrantRow) : listedBefore first second ∨ listedBefore second first := by
  unfold listedBefore
  rcases lt_trichotomy first.grant.role.id second.grant.role.id with less | same | more
  · exact .inl (.inl less)
  · rcases lt_trichotomy first.grant.action.id second.grant.action.id with less | equal | more
    · exact .inl (.inr ⟨same, .inl less⟩)
    · rcases le_total first.grantID second.grantID with before | after
      · exact .inl (.inr ⟨same, .inr ⟨equal, before⟩⟩)
      · exact .inr (.inr ⟨same.symm, .inr ⟨equal.symm, after⟩⟩)
    · exact .inr (.inr ⟨same.symm, .inl more⟩)
  · exact .inr (.inl more)

variable {first second : GrantRow} {rows : List GrantRow} {risk : RiskClass} {request : Request}
  {branch : Option AuthorizationBranch} {snapshot : Snapshot} {validators : Validators} {principal : Principal}

theorem listedBefore_trans {third : GrantRow} (before : listedBefore first second)
    (after : listedBefore second third) : listedBefore first third := by
  unfold listedBefore at *
  rcases before with less | ⟨same, before⟩
  · rcases after with next | ⟨equal, _⟩
    · exact .inl (less.trans next)
    · exact .inl (equal ▸ less)
  · rcases after with next | ⟨equal, after⟩
    · exact .inl (same ▸ next)
    · refine .inr ⟨same.trans equal, ?_⟩
      rcases before with less | ⟨kind, before⟩
      · rcases after with next | ⟨other, _⟩
        · exact .inl (less.trans next)
        · exact .inl (other ▸ less)
      · rcases after with next | ⟨other, after⟩
        · exact .inl (kind ▸ next)
        · exact .inr ⟨kind.trans other, before.trans after⟩

theorem listedBefore_antisymm (before : listedBefore first second)
    (after : listedBefore second first) : first.grantID = second.grantID := by
  unfold listedBefore at *
  rcases before with less | ⟨same, before⟩
  · rcases after with more | ⟨same, _⟩
    · exact absurd (less.trans more) (lt_irrefl _)
    · exact absurd (same ▸ less) (lt_irrefl _)
  · rcases after with more | ⟨_, after⟩
    · exact absurd (same ▸ more) (lt_irrefl _)
    · rcases before with less | ⟨_, before⟩
      · rcases after with more | ⟨kind, _⟩
        · exact absurd (less.trans more) (lt_irrefl _)
        · exact absurd (kind ▸ less) (lt_irrefl _)
      · rcases after with more | ⟨_, after⟩
        · simp_all
        · exact le_antisymm before after

instance : Std.Total listedBefore := ⟨listedBefore_total⟩

instance : IsTrans GrantRow listedBefore := ⟨fun _ _ _ => listedBefore_trans⟩

theorem snapshotGrants_perm {stored : List GrantRow} (same : stored.Perm rows)
    (distinct : (rows.map GrantRow.grantID).Nodup) (principalID : String) (target : Target) (grantRevision : Int) :
    snapshotGrants stored principalID target grantRevision = snapshotGrants rows principalID target grantRevision := by
  unfold snapshotGrants
  congr 1
  have kept := same.filter fun row => row.current principalID target grantRevision
  apply List.Perm.eq_of_pairwise ?_ (List.pairwise_insertionSort listedBefore _)
    (List.pairwise_insertionSort listedBefore _)
    ((List.perm_insertionSort _ _).trans (kept.trans (List.perm_insertionSort _ _).symm))
  intro first second one two before after
  have inside : first ∈ rows := by
    have member := (List.perm_insertionSort _ _).mem_iff.mp one
    exact same.mem_iff.mp (List.mem_filter.mp member).1
  have other : second ∈ rows := (List.mem_filter.mp ((List.perm_insertionSort _ _).mem_iff.mp two)).1
  exact List.inj_on_of_nodup_map distinct inside other (listedBefore_antisymm before after)

/-! ### One more grant -/

theorem find?_orderedInsert {condition : GrantRow → Bool} {found : GrantRow} (row : GrantRow)
    (sorted : rows.Pairwise listedBefore) (first : rows.find? condition = some found) :
    (rows.orderedInsert listedBefore row).find? condition = some found ∨
      ((rows.orderedInsert listedBefore row).find? condition = some row ∧ listedBefore row found) := by
  induction rows with
  | nil => cases first
  | cons head rest ih =>
    obtain ⟨least, sorted⟩ := List.pairwise_cons.mp sorted
    by_cases before : listedBefore row head
    · rw [List.orderedInsert_cons_of_le _ _ before]
      by_cases fits : condition row = true
      · refine .inr ⟨List.find?_cons_of_pos fits, ?_⟩
        rcases List.mem_cons.mp (List.mem_of_find?_eq_some first) with rfl | later
        · exact before
        · exact listedBefore_trans before (least found later)
      · rw [List.find?_cons_of_neg fits]
        exact .inl first
    · rw [List.orderedInsert_of_not_le _ _ before]
      by_cases fits : condition head = true
      · rw [List.find?_cons_of_pos fits] at first ⊢
        exact .inl first
      · rw [List.find?_cons_of_neg fits] at first ⊢
        exact ih sorted first

/-- The position of a role in the order of the `role_id` texts. -/
def Role.place : Role → Nat
  | .author => 0
  | .controlPlaneAdmin => 1
  | .infrastructureAdmin => 2
  | .maintainer => 3
  | .preauthorizedExecutor => 4
  | .reader => 5

theorem Role.place_lt {first second : Role} (less : first.id < second.id) : first.place < second.place := by
  revert less
  cases first <;> cases second <;> decide

theorem Role.id_injective {first second : Role} (same : first.id = second.id) : first = second := by
  revert same
  cases first <;> cases second <;> decide

theorem listedBefore_place (before : listedBefore first second) :
    first.grant.role.place ≤ second.grant.role.place := by
  rcases before with less | ⟨same, _⟩
  · exact Nat.le_of_lt (Role.place_lt less)
  · rw [Role.id_injective same]

theorem roleAllows_of_place {first second : Role} {action : Operation}
    (allows : roleAllows second action risk = true) (before : first.place ≤ second.place)
    (capable : first = .author → action = .read ∨ action = .author)
    (ordinary : first = .preauthorizedExecutor → second = .preauthorizedExecutor)
    (routine : action = .read ∨ action = .author → risk = .routine) : roleAllows first action risk = true := by
  cases first with
  | author =>
    rcases capable rfl with rfl | rfl
    · rfl
    · rfl
  | controlPlaneAdmin => rfl
  | infrastructureAdmin =>
    cases second with
    | author | controlPlaneAdmin => simp [Role.place] at before
    | infrastructureAdmin => exact allows
    | maintainer | preauthorizedExecutor | reader =>
      cases risk with
      | controlPlane => cases action <;> simp_all [roleAllows]
      | routine | productionLike | infrastructure | destructive => rfl
  | maintainer =>
    cases second with
    | author | controlPlaneAdmin | infrastructureAdmin => simp [Role.place] at before
    | maintainer => exact allows
    | preauthorizedExecutor | reader => cases action <;> simp_all [roleAllows]
  | preauthorizedExecutor =>
    rw [ordinary rfl] at allows
    exact allows
  | reader =>
    cases second with
    | author | controlPlaneAdmin | infrastructureAdmin | maintainer | preauthorizedExecutor => simp [Role.place] at before
    | reader => exact allows

theorem Grant.preauthorized_iff {grant : Grant} (valid : grant.valid = true) :
    grant.role = .preauthorizedExecutor ↔ grant.branch = some .preauthorized := by
  obtain ⟨role, action, target, branch⟩ := grant
  simp only [Grant.valid, Bool.and_eq_true] at valid
  obtain ⟨_, valid⟩ := valid
  cases action with
  | read | author =>
    simp only [Bool.and_eq_true, beq_iff_eq, bne_iff_ne] at valid
    simp [valid.1, valid.2]
  | acknowledge | execute =>
    cases branch with
    | none => cases valid
    | some branch =>
      simp only at valid
      split at valid
      · simp_all
      · simp_all

theorem Grant.matches_iff {grant : Grant} :
    grant.matches request branch = true ↔
      grant.valid = true ∧ grant.action = request.action ∧ grant.target = request.target ∧ grant.branch = branch := by
  simp [Grant.matches, and_assoc]

theorem matchingGrant_fst (grants : List Grant) (request : Request) (branch : Option AuthorizationBranch) :
    (matchingGrant grants request branch).1 = grants.find? fun grant => grant.matches request branch := by
  unfold matchingGrant
  split
  next found => exact found.symm
  next absent => exact absent.symm

theorem decideGrant_eq_ok {scope : EffectiveScope} :
    decideGrant snapshot request branch risk = .ok scope ↔
      ∃ grant, (snapshot.grants.find? fun grant => grant.matches request branch) = some grant ∧
        roleAllows grant.role request.action risk = true ∧
        bindEffectiveScope snapshot grant request.target = some scope := by
  rw [← matchingGrant_fst]
  unfold decideGrant
  cases matchingGrant snapshot.grants request branch with
  | mk found mismatch =>
    cases found with
    | none => simp
    | some grant =>
      by_cases allows : roleAllows grant.role request.action risk = true
      · cases bound : bindEffectiveScope snapshot grant request.target with
        | none => simp [allows, bound]
        | some other => simp [allows, bound]
      · simp [allows]

def Snapshot.listing (snapshot : Snapshot) (rows : List GrantRow) (target : Target) : Snapshot :=
  { snapshot with grants := snapshotGrants rows snapshot.principalID target snapshot.grantRevision }

theorem authorize_allowed :
    (authorize validators (some snapshot) principal request).allowed = true ↔
      (validPrincipal principal && request.target.valid) = true ∧ ∃ branch risk scope,
        screen validators snapshot principal request = .ok (branch, risk) ∧
          decideGrant snapshot request branch (risk.getD .routine) = .ok scope := by
  unfold authorize
  dsimp only
  by_cases known : (validPrincipal principal && request.target.valid) = true
  · have open_ : (!validPrincipal principal || !request.target.valid) = false := by
      simpa [Bool.and_eq_true] using known
    simp only [open_, Bool.false_eq_true, ↓reduceIte, known, true_and]
    cases passed : screen validators snapshot principal request with
    | error refusal => simp
    | ok pair =>
      obtain ⟨branch, risk⟩ := pair
      cases granted : decideGrant snapshot request branch (risk.getD .routine) with
      | error reason => simp [granted]
      | ok scope => simp [granted]
  · have closed : (!validPrincipal principal || !request.target.valid) = true := by
      simpa [Bool.and_eq_true, imp_iff_not_or] using known
    simp [closed, known]

theorem classifiedRisk_of_screen {risk : Option RiskClass}
    (passed : screen validators snapshot principal request = .ok (branch, risk)) :
    classifiedRisk request snapshot = .ok risk := by
  unfold screen at passed
  split at passed
  · cases passed
  split at passed
  · cases passed
  split at passed
  · cases passed
  split at passed
  · cases passed
  next classified =>
    split at passed
    · cases passed
    split at passed
    · cases passed
    split at passed
    · cases passed
    · cases passed
      exact classified

theorem routine_of_screen {risk : Option RiskClass}
    (passed : screen validators snapshot principal request = .ok (branch, risk))
    (inert : request.action = .read ∨ request.action = .author) : risk.getD .routine = .routine := by
  have classified := classifiedRisk_of_screen passed
  unfold classifiedRisk at classified
  rcases inert with read | author
  · rw [read] at classified
    cases classified
    rfl
  · rw [author] at classified
    cases classified
    rfl

/-- The pairs of a role and an action that no decision can ever allow although
the grant is valid, and that sort before every sufficient one. -/
def GrantRow.barren (row : GrantRow) : Bool :=
  row.grant.role == .author && (row.grant.action == .acknowledge || row.grant.action == .execute)

theorem decideGrant_insert {row : GrantRow} {scope : EffectiveScope} (fruitful : row.barren = false)
    (routine : request.action = .read ∨ request.action = .author → risk = .routine)
    (granted : decideGrant (snapshot.listing rows request.target) request branch risk = .ok scope) :
    ∃ scope, decideGrant (snapshot.listing (row :: rows) request.target) request branch risk = .ok scope := by
  by_cases listed : row.current snapshot.principalID request.target snapshot.grantRevision = true
  · obtain ⟨grant, first, allows, bound⟩ := decideGrant_eq_ok.mp granted
    simp only [Snapshot.listing, snapshotGrants, List.find?_map, Option.map_eq_some_iff] at first
    obtain ⟨old, first, rfl⟩ := first
    have sorted := List.pairwise_insertionSort listedBefore
      (rows.filter fun row => row.current snapshot.principalID request.target snapshot.grantRevision)
    have shape : (snapshot.listing (row :: rows) request.target).grants =
        (((rows.filter fun row => row.current snapshot.principalID request.target snapshot.grantRevision).insertionSort
          listedBefore).orderedInsert listedBefore row).map GrantRow.grant := by
      simp [Snapshot.listing, snapshotGrants, listed]
    rcases find?_orderedInsert row sorted first with same | ⟨newest, before⟩
    · refine ⟨scope, decideGrant_eq_ok.mpr ⟨old.grant, ?_, allows, bound⟩⟩
      rw [shape, List.find?_map]
      exact congrArg (Option.map GrantRow.grant) same
    · -- the new row is tested now: same action, target and branch, and a role listed earlier
      have matched : row.grant.matches request branch = true := by
        simpa using List.find?_some newest
      have matchedOld : old.grant.matches request branch = true := by
        simpa using List.find?_some first
      have mine := Grant.matches_iff.mp matched
      have theirs := Grant.matches_iff.mp matchedOld
      have stronger : roleAllows row.grant.role request.action risk = true := by
        apply roleAllows_of_place allows (listedBefore_place before) ?_ ?_ routine
        · intro author
          have shown := fruitful
          simp only [GrantRow.barren, author, mine.2.1] at shown
          revert shown
          cases request.action <;> simp
        · intro executor
          rw [Grant.preauthorized_iff theirs.1, theirs.2.2.2, ← mine.2.2.2]
          exact (Grant.preauthorized_iff mine.1).mp executor
      have rebound : ∃ other, bindEffectiveScope (snapshot.listing (row :: rows) request.target) row.grant request.target =
          some other := by
        unfold bindEffectiveScope at bound ⊢
        split at bound
        · cases bound
        next sound =>
          refine ⟨_, if_neg ?_⟩
          simp only [Snapshot.listing, Bool.or_eq_true, not_or] at sound ⊢
          obtain ⟨⟨⟨usable, _⟩, valid⟩, _⟩ := sound
          refine ⟨⟨⟨usable, by simp [mine.1]⟩, valid⟩, by simp [mine.2.2.1]⟩
      obtain ⟨other, rebound⟩ := rebound
      refine ⟨other, decideGrant_eq_ok.mpr ⟨row.grant, ?_, stronger, rebound⟩⟩
      rw [shape, List.find?_map]
      exact congrArg (Option.map GrantRow.grant) newest
  · refine ⟨scope, ?_⟩
    have same : snapshot.listing (row :: rows) request.target = snapshot.listing rows request.target := by
      simp [Snapshot.listing, snapshotGrants, listed]
    rw [same]
    exact granted

/-- As the store lists the grants, the decision does not depend on how they are
stored, and one more grant never turns an allowed request into a denied one
unless it pairs the role `author` with an acknowledgement or an execution. -/
theorem listed_grants_are_monotone (validators : Validators) (snapshot : Snapshot) (principal : Principal)
    (request : Request) {rows : List GrantRow} (distinct : (rows.map GrantRow.grantID).Nodup) :
    (∀ stored, stored.Perm rows →
      authorize validators (some (snapshot.listing stored request.target)) principal request =
        authorize validators (some (snapshot.listing rows request.target)) principal request) ∧
    ∀ row stored, stored.Perm (row :: rows) → row.grantID ∉ rows.map GrantRow.grantID → row.barren = false →
      (authorize validators (some (snapshot.listing rows request.target)) principal request).allowed = true →
        (authorize validators (some (snapshot.listing stored request.target)) principal request).allowed = true := by
  constructor
  · intro stored same
    rw [Snapshot.listing, snapshotGrants_perm same distinct]
    rfl
  · intro row stored same fresh fruitful allowed
    have enlarged : ((row :: rows).map GrantRow.grantID).Nodup := List.nodup_cons.mpr ⟨fresh, distinct⟩
    rw [Snapshot.listing, snapshotGrants_perm same enlarged]
    obtain ⟨known, branch, risk, scope, passed, granted⟩ := authorize_allowed.mp allowed
    obtain ⟨other, granted⟩ := decideGrant_insert fruitful (routine_of_screen passed) granted
    exact authorize_allowed.mpr ⟨known, branch, risk, other, passed, granted⟩

def sampleTarget : Target := ⟨"mutation", "host", "host-a"⟩

def sampleHealthPlan : Plan :=
  { planID := "plan-a", planDigest := "digest-a", binding := ⟨1, 7, "policy-a"⟩,
    operations := [⟨1, "operation-a", "health.check", "core.health", "central", "host-a", "input-a", "artifact-a", true⟩],
    status := .planned, authorizationBranch := .human, executorMode := .central, executorID := none, expiresAt := 100,
    requests := {}, extensions := [], declarationID := "declaration-a", risk := .routine, hostBaselineScope := none,
    auxiliaryTargets := [], hostDiscoveryTarget := none, hostAdoption := none, hostReplacement := none,
    hostAliasClaim := none, hostAction := none }

def sampleRequest : Request := ⟨.execute, sampleTarget, some sampleHealthPlan, [.human], none, false⟩

def samplePrincipal : Principal := ⟨"operator-a", .localOSPeer, none, ""⟩

def sampleSnapshot : Snapshot := ⟨"operator-a", .human, true, 3, 7, 1, []⟩

def sampleRow (id : String) (role : Role) : GrantRow := ⟨id, "operator-a", ⟨role, .execute, sampleTarget, some .human⟩, 3, true⟩

def plainValidators : Validators := ⟨fun _ => true, fun _ => true⟩

/-- A maintainer keeps its execution when a reader's grant is stored beside. -/
theorem maintainer_is_kept :
    (authorize plainValidators (some (sampleSnapshot.listing [sampleRow "grant-b" .reader, sampleRow "grant-a" .maintainer]
      sampleTarget)) samplePrincipal sampleRequest).allowed = true :=
  (listed_grants_are_monotone plainValidators sampleSnapshot samplePrincipal sampleRequest
    (by decide : ([sampleRow "grant-a" .maintainer].map GrantRow.grantID).Nodup)).2 (sampleRow "grant-b" .reader) _
    (List.Perm.refl _) (by decide) (by decide) (by decide +kernel)

/-- Both valid grants are effective. In a list the first one decides, and the
store lists the role `author` first. -/
theorem author_grant_shadows_maintainer :
    (sampleRow "grant-a" .maintainer).grant.valid = true ∧ (sampleRow "grant-b" .author).grant.valid = true ∧
    (authorize plainValidators (some { sampleSnapshot with grants := [(sampleRow "grant-a" .maintainer).grant,
        (sampleRow "grant-b" .author).grant] }) samplePrincipal sampleRequest).allowed = true ∧
    (authorize plainValidators (some { sampleSnapshot with grants := [(sampleRow "grant-b" .author).grant,
        (sampleRow "grant-a" .maintainer).grant] }) samplePrincipal sampleRequest).reason = .roleInsufficient ∧
    (authorize plainValidators (some (sampleSnapshot.listing [sampleRow "grant-a" .maintainer] sampleTarget))
      samplePrincipal sampleRequest).allowed = true ∧
    (authorize plainValidators (some (sampleSnapshot.listing [sampleRow "grant-a" .maintainer, sampleRow "grant-b" .author]
      sampleTarget)) samplePrincipal sampleRequest).reason = .roleInsufficient := by
  decide +kernel

end VskLabs.Authorization

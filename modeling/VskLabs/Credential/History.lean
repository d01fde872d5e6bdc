import VskLabs.Credential.Repository

/-! The versions of one reference in one epoch. A material version is staged,
activated and revoked in this order, a rotation supersedes what was active, and
at most one version is live. -/

namespace VskLabs.Credential
open Library

def statuses (rows : List VersionRow) (materialVersion : String) : List VersionStatus :=
  (rows.filter fun row => row.reference.materialVersion == materialVersion).map fun row => row.reference.status

variable {prior : VersionRow → Option String} {rows : List VersionRow} {material : String}

def Live (prior : VersionRow → Option String) (rows : List VersionRow) (material : String) : Prop :=
  statuses rows material = [.staged, .active] ∧ ∀ row ∈ rows, prior row ≠ some material

structure History (prior : VersionRow → Option String) (rows : List VersionRow) : Prop where
  paths : ∀ material, statuses rows material ∈
    [[], [VersionStatus.staged], [.staged, .active], [.staged, .active, .revoked]]
  superseded : ∀ row ∈ rows, ∀ material, prior row = some material → .active ∈ statuses rows material
  one : ∀ first second, Live prior rows first → Live prior rows second → first = second

theorem History.nil : History prior [] where
  paths _ := .head _
  superseded := by simp
  one first _ live := by simp [Live, statuses] at live

theorem History.congr {other : VersionRow → Option String} (history : History prior rows)
    (same : ∀ row ∈ rows, other row = prior row) : History other rows where
  paths := history.paths
  superseded row member material found := history.superseded row member material (same row member ▸ found)
  one first second one two := by
    refine history.one first second ⟨one.1, ?_⟩ ⟨two.1, ?_⟩
    · intro row member found
      exact one.2 row member ((same row member).trans found)
    · intro row member found
      exact two.2 row member ((same row member).trans found)

/-! ### Appending one row -/

variable {row : VersionRow}

theorem statuses_append_self (same : row.reference.materialVersion = material) :
    statuses (rows ++ [row]) material = statuses rows material ++ [row.reference.status] := by
  simp [statuses, List.filter_append, same]

theorem statuses_append_other (other : row.reference.materialVersion ≠ material) :
    statuses (rows ++ [row]) material = statuses rows material := by
  simp [statuses, List.filter_append, other]

theorem Live.of_append (live : Live prior (rows ++ [row]) material)
    (other : row.reference.materialVersion ≠ material) : Live prior rows material ∧ prior row ≠ some material := by
  obtain ⟨path, free⟩ := live
  rw [statuses_append_other other] at path
  exact ⟨⟨path, fun earlier member => free earlier (List.mem_append_left _ member)⟩,
    free row (List.mem_append_right _ (.head _))⟩

theorem active_of_append (held : .active ∈ statuses rows material) :
    .active ∈ statuses (rows ++ [row]) material := by
  by_cases same : row.reference.materialVersion = material
  · rw [statuses_append_self same]
    exact List.mem_append_left _ held
  · rwa [statuses_append_other same]

theorem History.append (history : History prior rows)
    (path : statuses rows row.reference.materialVersion ++ [row.reference.status] ∈
      [[], [VersionStatus.staged], [.staged, .active], [.staged, .active, .revoked]])
    (active : ∀ material, prior row = some material → .active ∈ statuses rows material)
    (one : ∀ first second, Live prior (rows ++ [row]) first → Live prior (rows ++ [row]) second → first = second) :
    History prior (rows ++ [row]) where
  paths material := by
    by_cases same : row.reference.materialVersion = material
    · rw [statuses_append_self same, ← same]
      exact path
    · rw [statuses_append_other same]
      exact history.paths material
  superseded earlier member material found := by
    apply active_of_append
    rcases List.mem_append.mp member with old | new
    · exact history.superseded earlier old material found
    · rw [List.mem_singleton.mp new] at found
      exact active material found
  one := one

/-- A row that leaves its material staged or revoked makes no version live. -/
theorem History.settle (history : History prior rows)
    (path : statuses rows row.reference.materialVersion ++ [row.reference.status] ∈
      [[VersionStatus.staged], [.staged, .active, .revoked]])
    (keeps : prior row = none) : History prior (rows ++ [row]) := by
  have other : ∀ material, Live prior (rows ++ [row]) material → row.reference.materialVersion ≠ material := by
    intro material live same
    rw [← statuses_append_self rfl, same, live.1] at path
    simp at path
  refine history.append ?_ (by simp [keeps]) ?_
  · simp only [List.mem_cons, List.not_mem_nil, or_false] at path ⊢
    rcases path with path | path <;> simp [path]
  · intro first second one two
    exact history.one first second (one.of_append (other first one)).1 (two.of_append (other second two)).1

theorem History.promote (history : History prior rows) (activated : row.reference.status = .active)
    (staged : statuses rows row.reference.materialVersion = [.staged])
    (replaces : ∀ material, Live prior rows material → prior row = some material)
    (active : ∀ material, prior row = some material → .active ∈ statuses rows material) :
    History prior (rows ++ [row]) := by
  have own : ∀ material, Live prior (rows ++ [row]) material → row.reference.materialVersion = material := by
    intro material live
    by_contra other
    obtain ⟨before, free⟩ := live.of_append other
    exact free (replaces material before)
  refine history.append (by simp [activated, staged]) active ?_
  intro first second one two
  exact (own first one).symm.trans (own second two)

/-! ### Reading the active version -/

theorem latestOf_status (found : latestOf rows material = some row) :
    (statuses rows material).getLast? = some row.reference.status := by
  unfold latestOf at found
  simp [statuses, found]

theorem latestOf_mem (found : latestOf rows material = some row) :
    row ∈ rows ∧ row.reference.materialVersion = material := by
  have member := List.mem_of_getLast? found
  simpa using List.mem_filter.mp member

theorem latestOf_eq_none (absent : latestOf rows material = none) : statuses rows material = [] := by
  unfold latestOf at absent
  rw [List.getLast?_eq_none_iff] at absent
  simp [statuses, absent]

def VersionStatus.path : VersionStatus → List VersionStatus
  | .staged => [.staged]
  | .active => [.staged, .active]
  | .revoked => [.staged, .active, .revoked]
  | .unavailable => []

theorem History.path_eq (history : History prior rows) (found : latestOf rows material = some row) :
    row.reference.status ≠ .unavailable ∧ statuses rows material = row.reference.status.path := by
  have last := latestOf_status found
  have path := history.paths material
  simp only [List.mem_cons, List.not_mem_nil, or_false] at path
  rcases path with path | path | path | path <;> simp [path] at last
  all_goals simp [path, ← last, VersionStatus.path]

variable {superseded : List String} (history : History prior rows)
  (named : ∀ material, statuses rows material = [.staged, .active] →
    (material ∈ superseded ↔ ∃ row ∈ rows, prior row = some material))
include history named

theorem mem_activeRows :
    row ∈ activeRows rows superseded ↔
      latestOf rows row.reference.materialVersion = some row ∧ Live prior rows row.reference.materialVersion := by
  simp only [activeRows, List.mem_filter, checks, Live]
  constructor
  · rintro ⟨_, ⟨latest, active⟩, free⟩
    have path := (history.path_eq latest).2
    rw [active] at path
    refine ⟨latest, path, ?_⟩
    intro other member found
    have held := (named row.reference.materialVersion path).mpr ⟨other, member, found⟩
    rw [List.contains_iff_mem.mpr held] at free
    cases free
  · rintro ⟨latest, path, free⟩
    refine ⟨(latestOf_mem latest).1, ⟨latest, ?_⟩, ?_⟩
    · have last := latestOf_status latest
      rw [path] at last
      simpa using last.symm
    · rw [Bool.eq_false_iff]
      intro held
      obtain ⟨other, member, found⟩ := (named _ path).mp (List.contains_iff_mem.mp held)
      exact free other member found

theorem activeRows_cases (distinct : rows.Nodup) :
    (activeRows rows superseded = [] ∧ ∀ material, ¬ Live prior rows material) ∨
      ∃ row, activeRows rows superseded = [row] ∧ latestOf rows row.reference.materialVersion = some row ∧
        Live prior rows row.reference.materialVersion := by
  have kept : (activeRows rows superseded).Nodup := distinct.sublist List.filter_sublist
  have same : ∀ first ∈ activeRows rows superseded, ∀ second ∈ activeRows rows superseded, first = second := by
    intro first one second two
    obtain ⟨latest, live⟩ := (mem_activeRows history named).mp one
    obtain ⟨other, alive⟩ := (mem_activeRows history named).mp two
    rw [history.one _ _ live alive, other] at latest
    exact (Option.some.inj latest).symm
  cases listed : activeRows rows superseded with
  | nil =>
    refine .inl ⟨rfl, ?_⟩
    intro material live
    cases found : latestOf rows material with
    | none =>
      have path := live.1
      rw [latestOf_eq_none found] at path
      cases path
    | some row =>
      obtain ⟨_, own⟩ := latestOf_mem found
      have member : row ∈ activeRows rows superseded := (mem_activeRows history named).mpr ⟨own ▸ found, own ▸ live⟩
      rw [listed] at member
      cases member
  | cons row rest =>
    have first : row ∈ activeRows rows superseded := listed ▸ .head _
    have empty : rest = [] := by
      cases rest with
      | nil => rfl
      | cons second rest =>
        have equal := same row first second (listed ▸ .tail _ (.head _))
        rw [listed, equal] at kept
        simp at kept
    obtain ⟨latest, live⟩ := (mem_activeRows history named).mp first
    exact .inr ⟨row, by rw [empty], latest, live⟩

end VskLabs.Credential

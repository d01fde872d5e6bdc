import Mathlib.Data.List.Nodup

/-! Keyed tables. A table carries the proof that no two of its rows share a
key, so a lookup identifies its row and every statement keeps the primary key. -/

namespace Library

structure Table {κ ρ : Type} (key : ρ → κ) where
  rows : List ρ
  distinct : (rows.map key).Nodup

namespace Table

variable {κ ρ : Type} {key : ρ → κ}

def empty : Table key := ⟨[], by simp⟩

/-- Rewrite the rows a condition selects. The rewrite may not touch the key. -/
def modify (table : Table key) (selected : ρ → Bool) (change : ρ → ρ)
    (keeps : ∀ row, key (change row) = key row) : Table key where
  rows := table.rows.map fun row => if selected row then change row else row
  distinct := by
    have same : (table.rows.map fun row => if selected row then change row else row).map key =
        table.rows.map key := by
      rw [List.map_map]
      apply List.map_congr_left
      intro row _
      simp only [Function.comp]
      split
      · exact keeps row
      · rfl
    rw [same]
    exact table.distinct

def delete (table : Table key) (selected : ρ → Bool) : Table key where
  rows := table.rows.filter fun row => !selected row
  distinct := table.distinct.sublist (List.Sublist.map key List.filter_sublist)

variable {table after : Table key} {selected condition : ρ → Bool} {change : ρ → ρ} {row : ρ}
  {wanted : κ}

variable [DecidableEq κ]

def find? (table : Table key) (wanted : κ) : Option ρ :=
  table.rows.find? fun row => decide (key row = wanted)

/-- Add a row unless its key is taken. -/
def insert? (table : Table key) (row : ρ) : Option (Table key) :=
  if taken : key row ∈ table.rows.map key then none
  else some ⟨table.rows ++ [row], by
    rw [List.map_append, List.map_cons, List.map_nil]
    exact List.Nodup.append table.distinct (List.nodup_singleton _) (by
      simpa [List.disjoint_singleton] using taken)⟩

theorem find?_eq_some_iff :
    table.find? wanted = some row ↔ row ∈ table.rows ∧ key row = wanted := by
  constructor
  · intro found
    exact ⟨List.mem_of_find?_eq_some found, by simpa using List.find?_some found⟩
  · rintro ⟨member, rfl⟩
    cases found : table.find? (key row) with
    | none => exact absurd (List.find?_eq_none.mp found row member) (by simp)
    | some other =>
      have same : key other = key row := by simpa using List.find?_some found
      rw [List.inj_on_of_nodup_map table.distinct (List.mem_of_find?_eq_some found) member same]

theorem find?_eq_none_iff :
    table.find? wanted = none ↔ ∀ row ∈ table.rows, key row ≠ wanted := by
  simp [find?, List.find?_eq_none]

theorem find?_key (found : table.find? wanted = some row) :
    key row = wanted :=
  (find?_eq_some_iff.mp found).2

theorem mem_of_find? (found : table.find? wanted = some row) :
    row ∈ table.rows :=
  (find?_eq_some_iff.mp found).1

@[simp] theorem find?_empty (wanted : κ) : (empty : Table key).find? wanted = none := rfl

omit [DecidableEq κ] in
theorem mem_modify {keeps : ∀ row, key (change row) = key row} :
    row ∈ (table.modify selected change keeps).rows ↔
      ∃ old ∈ table.rows, (if selected old then change old else old) = row :=
  List.mem_map

omit [DecidableEq κ] in
/-- A rewrite that selects no row changes nothing. -/
theorem modify_eq_self
    {keeps : ∀ row, key (change row) = key row} (unselected : ∀ row ∈ table.rows, selected row = false) :
    table.modify selected change keeps = table := by
  obtain ⟨rows, distinct⟩ := table
  simp only [modify, mk.injEq]
  rw [List.map_congr_left (fun row member => if_neg (by simp [unselected row member])), List.map_id']

omit [DecidableEq κ] in
theorem mem_delete :
    row ∈ (table.delete selected).rows ↔ row ∈ table.rows ∧ selected row = false := by
  simp [delete, List.mem_filter]

@[simp] theorem find?_modify (table : Table key) (selected : ρ → Bool) (change : ρ → ρ)
    (keeps : ∀ row, key (change row) = key row) (wanted : κ) :
    (table.modify selected change keeps).find? wanted =
      (table.find? wanted).map fun row => if selected row then change row else row := by
  simp only [find?, modify, List.find?_map]
  congr 2
  funext row
  simp only [Function.comp]
  split
  · rw [keeps]
  · rfl

theorem find?_delete (table : Table key) (selected : ρ → Bool) (wanted : κ) :
    (table.delete selected).find? wanted = (table.find? wanted).filter fun row => !selected row := by
  cases found : table.find? wanted with
  | none =>
    rw [Option.filter_none, find?_eq_none_iff]
    intro row member
    exact find?_eq_none_iff.mp found row (mem_delete.mp member).1
  | some row =>
    obtain ⟨member, rfl⟩ := find?_eq_some_iff.mp found
    cases gone : selected row with
    | false =>
      rw [Option.filter_some_pos (by simpa using gone)]
      exact find?_eq_some_iff.mpr ⟨mem_delete.mpr ⟨member, gone⟩, rfl⟩
    | true =>
      rw [Option.filter_some_neg (by simpa using gone), find?_eq_none_iff]
      intro other kept same
      obtain ⟨present, stays⟩ := mem_delete.mp kept
      rw [List.inj_on_of_nodup_map table.distinct present member same, gone] at stays
      cases stays

theorem insert?_eq_some (added : table.insert? row = some after) :
    table.find? (key row) = none ∧ after.rows = table.rows ++ [row] := by
  unfold insert? at added
  split at added
  · cases added
  · next free =>
    cases added
    refine ⟨find?_eq_none_iff.mpr ?_, rfl⟩
    intro other member same
    exact free (List.mem_map.mpr ⟨other, member, same⟩)

theorem find?_insert? (added : table.insert? row = some after)
    (wanted : κ) :
    after.find? wanted = if key row = wanted then some row else table.find? wanted := by
  obtain ⟨free, rows⟩ := insert?_eq_some added
  simp only [find?, rows, List.find?_append, List.find?_cons, List.find?_nil] at free ⊢
  by_cases same : key row = wanted
  · subst same
    simp [free]
  · simp [same]

theorem insert?_isSome_iff :
    (table.insert? row).isSome ↔ table.find? (key row) = none := by
  unfold insert?
  split
  · next taken =>
    obtain ⟨other, member, same⟩ := List.mem_map.mp taken
    simp only [Option.isSome_none, Bool.false_eq_true, false_iff]
    intro free
    exact find?_eq_none_iff.mp free other member same
  · next free =>
    simp only [Option.isSome_some, true_iff]
    exact find?_eq_none_iff.mpr fun other member same => free (List.mem_map.mpr ⟨other, member, same⟩)

theorem any_find? :
    (table.find? wanted).any condition = true ↔ ∃ row ∈ table.rows, key row = wanted ∧ condition row = true := by
  rw [Option.any_eq_true]
  constructor
  · rintro ⟨row, found, holds⟩
    exact ⟨row, mem_of_find? found, find?_key found, holds⟩
  · rintro ⟨row, member, same, holds⟩
    exact ⟨row, find?_eq_some_iff.mpr ⟨member, same⟩, holds⟩

theorem mem_insert? {other : ρ} (added : table.insert? row = some after) :
    other ∈ after.rows ↔ other ∈ table.rows ∨ other = row := by
  rw [(insert?_eq_some added).2, List.mem_append, List.mem_singleton]

/-- No row is lost or changed. -/
def Extends (table after : Table key) : Prop := ∀ row ∈ table.rows, row ∈ after.rows

omit [DecidableEq κ] in
theorem Extends.refl (table : Table key) : table.Extends table := fun _ member => member

theorem extends_of_insert? (added : table.insert? row = some after) :
    table.Extends after := fun _ member => (mem_insert? added).mpr (.inl member)

theorem Extends.find? (grown : table.Extends after)
    (found : table.find? wanted = some row) : after.find? wanted = some row := by
  obtain ⟨member, same⟩ := find?_eq_some_iff.mp found
  exact find?_eq_some_iff.mpr ⟨grown row member, same⟩

end Table

end Library

import Mathlib.Data.List.Sort
import Mathlib.Order.RelClasses

/-! Listing a sorted table page by page. A page holds at most `limit` rows past
a position; while rows are left, its last row is turned into the next position.
What is returned in total depends on the rows that share a key with the last row
of a page, and on whether the position made from it lies past that key. -/

namespace Library

section Follow

variable {ε γ ρ : Type}

/-- Ask for a page, then for the next one with the cursor just returned, until no
cursor comes back. -/
def follow (fetch : Option γ → Except ε (List ρ × Option γ)) : Nat → Option γ → Option (List ρ)
  | 0, _ => none
  | fuel + 1, cursor =>
    match fetch cursor with
    | .error _ => none
    | .ok (items, none) => some items
    | .ok (items, some next) => (follow fetch fuel (some next)).map (items ++ ·)

/-- The first `limit` of the rows fetched, and the last of them if there are more. -/
def cut (limit : Nat) (fetched : List ρ) : List ρ × Option ρ :=
  if limit < fetched.length then (fetched.take limit, (fetched.take limit).getLast?) else (fetched, none)

variable {fetch : Option γ → Except ε (List ρ × Option γ)} {fuel : Nat} {cursor other : Option γ} {items : List ρ}

theorem follow_congr (same : fetch cursor = fetch other) : follow fetch fuel cursor = follow fetch fuel other := by
  cases fuel with
  | zero => rfl
  | succ fuel => simp only [follow, same]

theorem follow_succ (done : follow fetch fuel cursor = some items) : follow fetch (fuel + 1) cursor = some items := by
  induction fuel generalizing cursor items with
  | zero => cases done
  | succ fuel ih =>
    rw [follow] at done ⊢
    split at done
    · cases done
    · exact done
    · obtain ⟨later, walked, rfl⟩ := Option.map_eq_some_iff.mp done
      rw [ih walked]
      rfl

theorem follow_mono {more : Nat} (enough : fuel ≤ more) (done : follow fetch fuel cursor = some items) :
    follow fetch more cursor = some items := by
  induction enough with
  | refl => exact done
  | step _ ih => exact follow_succ ih

/-- The shortest way through the pages does not come back to its first one: a page
whose cursor leads there again is asked for forever. -/
theorem follow_shortest (done : follow fetch fuel cursor = some items) :
    ∃ least, follow fetch least cursor = some items ∧ ∀ fewer < least, follow fetch fewer cursor = none := by
  have found : ∃ enough, (follow fetch enough cursor).isSome := ⟨fuel, by rw [done]; rfl⟩
  obtain ⟨others, walked⟩ := Option.isSome_iff_exists.mp (Nat.find_spec found)
  refine ⟨Nat.find found, ?_, fun fewer smaller => Option.not_isSome_iff_eq_none.mp (Nat.find_min found smaller)⟩
  rw [walked, ← follow_mono (Nat.le_max_left _ fuel) walked, follow_mono (Nat.le_max_right _ _) done]

end Follow

structure Keyset (ρ κ ε γ : Type) where
  key : ρ → κ
  before : κ → κ → Prop
  decided : DecidableRel before
  total : IsStrictTotalOrder κ before
  limit : Nat
  positive : 0 < limit
  start : Option κ
  token : ρ → Except ε γ
  /-- The cursor made from this row leads past its key. -/
  resumes : ρ → Prop

namespace Keyset

variable {ρ κ ε γ : Type} (listing : Keyset ρ κ ε γ)

instance : DecidableRel listing.before := listing.decided

instance : IsStrictTotalOrder κ listing.before := listing.total

def precedes (first second : ρ) : Prop := listing.before (listing.key first) (listing.key second)

instance : DecidableRel listing.precedes := fun _ _ => inferInstanceAs (Decidable (listing.before _ _))

def admits (position : Option κ) (row : ρ) : Bool :=
  position.all fun bound => decide (listing.before bound (listing.key row))

def Sorted (rows : List ρ) : Prop := rows.Pairwise fun first second => ¬ listing.precedes second first

/-- The page at a position, with the cursor for the next one if rows are left. -/
def page (rows : List ρ) (position : Option κ) : Except ε (List ρ × Option γ) :=
  match cut listing.limit ((rows.filter (listing.admits position)).take (listing.limit + 1)) with
  | (items, none) => .ok (items, none)
  | (items, some last) => (listing.token last).map fun made => (items, some made)

/-- A service whose pages come from a sorted table. -/
structure Serves (rows : List ρ) (fetch : Option γ → Except ε (List ρ × Option γ)) : Prop where
  first : fetch none = listing.page rows listing.start
  next : ∀ row ∈ rows, listing.resumes row →
    ∃ made, listing.token row = .ok made ∧ fetch (some made) = listing.page rows (some (listing.key row))
  stuck : ∀ row ∈ rows, ¬ listing.resumes row → ∀ made, listing.token row = .ok made →
    fetch (some made) = listing.page rows listing.start

/-- What the pages of the rows `found` return in total. -/
inductive Returns : List ρ → List ρ → Prop
  | short {found : List ρ} (few : found.length ≤ listing.limit) : Returns found found
  | page {front later items : List ρ} {last : ρ} (full : front.length + 1 = listing.limit) (more : later ≠ [])
      (resumed : listing.resumes last) (rest : Returns (later.filter fun row => listing.precedes last row) items) :
      Returns (front ++ last :: later) (front ++ last :: items)

variable {listing} {rows items found front later : List ρ} {fuel : Nat} {position : Option κ} {cursor : Option γ}
  {first second third last row : ρ} {fetch : Option γ → Except ε (List ρ × Option γ)}

theorem precedes_trans (earlier : listing.precedes first second)
    (later : listing.precedes second third) : listing.precedes first third :=
  listing.total.trans _ _ _ earlier later

theorem precedes_irrefl (row : ρ) : ¬ listing.precedes row row := listing.total.irrefl _

theorem key_eq_of_not_precedes (notBefore : ¬ listing.precedes first second)
    (notAfter : ¬ listing.precedes second first) : listing.key first = listing.key second :=
  listing.total.trichotomous _ _ notBefore notAfter

theorem precedes_of_not_precedes (notAfter : ¬ listing.precedes second first)
    (later : listing.precedes second third) : listing.precedes first third := by
  by_cases earlier : listing.precedes first second
  · exact precedes_trans earlier later
  · unfold precedes
    rw [key_eq_of_not_precedes earlier notAfter]
    exact later

theorem admits_trans (admitted : listing.admits position first = true)
    (later : listing.precedes first second) : listing.admits position second = true := by
  cases position with
  | none => rfl
  | some bound =>
    simp only [admits, Option.all_some, decide_eq_true_eq] at admitted ⊢
    exact listing.total.trans _ _ _ admitted later

theorem sorted_insertionSort (rows : List ρ) :
    listing.Sorted (rows.insertionSort fun first second => ¬ listing.precedes second first) := by
  have connected : Std.Total fun first second => ¬ listing.precedes second first := ⟨by
    intro first second
    by_contra neither
    simp only [not_or, not_not] at neither
    exact precedes_irrefl first (precedes_trans neither.2 neither.1)⟩
  have transitive : IsTrans ρ fun first second => ¬ listing.precedes second first := ⟨by
    intro first second third notBack notBackNext back
    exact notBack (precedes_of_not_precedes notBackNext back)⟩
  exact List.pairwise_insertionSort _ rows

theorem Sorted.filter (sorted : listing.Sorted rows) (test : ρ → Bool) : listing.Sorted (rows.filter test) :=
  sorted.sublist List.filter_sublist

/-! ### Pages -/

theorem exists_split {size : Nat} (some : 0 < size) (many : size ≤ found.length) :
    ∃ front last later, found = front ++ last :: later ∧ front.length + 1 = size := by
  have inside : size - 1 < found.length := by omega
  refine ⟨found.take (size - 1), found[size - 1], found.drop (size - 1 + 1), ?_, ?_⟩
  · rw [List.getElem_cons_drop, List.take_append_drop]
  · rw [List.length_take]
    omega

theorem exists_page (many : listing.limit < found.length) :
    ∃ front last later, found = front ++ last :: later ∧ front.length + 1 = listing.limit ∧ later ≠ [] := by
  obtain ⟨front, last, later, rfl, full⟩ := exists_split listing.positive (Nat.le_of_lt many)
  refine ⟨front, last, later, rfl, full, ?_⟩
  rintro rfl
  simp only [List.length_append, List.length_singleton] at many
  omega

theorem page_short (few : (rows.filter (listing.admits position)).length ≤ listing.limit) :
    listing.page rows position = .ok (rows.filter (listing.admits position), none) := by
  rw [page, List.take_of_length_le (by omega), cut, if_neg (by omega)]

theorem page_full (shape : rows.filter (listing.admits position) = front ++ last :: later)
    (full : front.length + 1 = listing.limit) (more : later ≠ []) :
    listing.page rows position = (listing.token last).map fun made => (front ++ [last], some made) := by
  have some := List.length_pos_iff.mpr more
  have taken : (front ++ last :: later).take listing.limit = front ++ [last] := by
    rw [← full, List.take_length_add_append]
    rfl
  rw [page, shape, cut, if_pos (by simp; omega), List.take_take, Nat.min_eq_left (Nat.le_succ _), taken]
  simp

theorem mem_of_filter {test : ρ → Bool} (shape : rows.filter test = front ++ last :: later) : last ∈ rows ∧ test last = true :=
  List.mem_filter.mp (by rw [shape]; simp)

/-- Past the last row of a page, the position made from its key admits the later rows. -/
theorem filter_after (sorted : listing.Sorted rows) (shape : rows.filter (listing.admits position) = front ++ last :: later) :
    rows.filter (listing.admits (some (listing.key last))) = later.filter fun row => listing.precedes last row := by
  have admitted := (mem_of_filter shape).2
  have narrower : rows.filter (listing.admits (some (listing.key last))) =
      (rows.filter (listing.admits position)).filter fun row => listing.precedes last row := by
    rw [List.filter_filter]
    apply List.filter_congr
    intro row _
    by_cases after : listing.precedes last row
    · rw [admits_trans admitted after, Bool.and_true]
      rfl
    · rw [decide_eq_false after, Bool.false_and]
      exact decide_eq_false after
  have parts := sorted.filter (listing.admits position)
  rw [shape] at parts
  obtain ⟨_, _, ahead⟩ := List.pairwise_append.mp parts
  have none : front.filter (fun row => decide (listing.precedes last row)) = [] := by
    rw [List.filter_eq_nil_iff]
    intro row member
    simpa using ahead row member last (.head _)
  rw [narrower, shape, List.filter_append, none, List.nil_append, List.filter_cons_of_neg (by simpa using precedes_irrefl last)]

theorem Serves.returns (serves : listing.Serves rows fetch) (sorted : listing.Sorted rows)
    (never : ∀ fewer < fuel, follow fetch fewer none = none) (here : fetch cursor = listing.page rows position)
    (done : follow fetch fuel cursor = some items) : listing.Returns (rows.filter (listing.admits position)) items := by
  induction fuel generalizing cursor position items with
  | zero => cases done
  | succ fuel ih =>
    rw [follow, here] at done
    by_cases few : (rows.filter (listing.admits position)).length ≤ listing.limit
    · rw [page_short few] at done
      cases done
      exact .short few
    · obtain ⟨front, last, later, shape, full, more⟩ := exists_page (Nat.not_le.mp few)
      have member := (mem_of_filter shape).1
      rw [page_full shape full more] at done
      cases made : listing.token last with
      | error failure =>
        rw [made] at done
        cases done
      | ok next =>
        rw [made] at done
        obtain ⟨rest, walked, rfl⟩ := Option.map_eq_some_iff.mp done
        by_cases resumed : listing.resumes last
        · obtain ⟨again, same, onward⟩ := serves.next last member resumed
          cases made.symm.trans same
          have returned := ih (fun fewer less => never fewer (by omega)) onward walked
          rw [filter_after sorted shape] at returned
          rw [shape, List.append_assoc]
          exact .page full more resumed returned
        · have back := serves.stuck last member resumed next made
          rw [follow_congr (back.trans serves.first.symm), never fuel (Nat.lt_succ_self _)] at walked
          cases walked

theorem Serves.follow_of_returns (serves : listing.Serves rows fetch) (sorted : listing.Sorted rows)
    (here : fetch cursor = listing.page rows position) (shape : rows.filter (listing.admits position) = found)
    (returned : listing.Returns found items) : ∃ fuel, follow fetch fuel cursor = some items := by
  induction returned generalizing cursor position with
  | short few =>
    refine ⟨1, ?_⟩
    rw [follow, here, page_short (shape ▸ few), shape]
  | @page front later items last full more resumed _ ih =>
    obtain ⟨made, token, onward⟩ := serves.next last (mem_of_filter shape).1 resumed
    obtain ⟨fuel, walked⟩ := ih onward (filter_after sorted shape)
    refine ⟨fuel + 1, ?_⟩
    rw [follow, here, page_full shape full more, token]
    simp [Except.map, walked]

/-- Following the cursors of the service returns what the pages of its table return. -/
theorem Serves.follow_iff (serves : listing.Serves rows fetch) (sorted : listing.Sorted rows) :
    (∃ fuel, follow fetch fuel none = some items) ↔ listing.Returns (rows.filter (listing.admits listing.start)) items := by
  constructor
  · rintro ⟨fuel, done⟩
    obtain ⟨least, walked, never⟩ := follow_shortest done
    exact serves.returns sorted never serves.first walked
  · intro returned
    exact serves.follow_of_returns sorted serves.first rfl returned

theorem Returns.sublist (returned : listing.Returns found items) : items.Sublist found := by
  induction returned with
  | short => exact .refl _
  | page _ _ _ _ ih => exact (List.Sublist.refl _).append ((ih.trans List.filter_sublist).cons_cons _)

theorem returns_page {wanted : List ρ} (full : front.length + 1 = listing.limit) (more : later ≠ []) :
    listing.Returns (front ++ last :: later) (front ++ last :: wanted) ↔
      listing.resumes last ∧ listing.Returns (later.filter fun row => listing.precedes last row) wanted := by
  constructor
  · generalize shape : front ++ last :: later = found
    generalize result : front ++ last :: wanted = items
    intro returned
    cases returned with
    | short few =>
      have some := List.length_pos_iff.mpr more
      rw [← shape, List.length_append, List.length_cons] at few
      omega
    | page again _ resumed rest =>
      obtain ⟨rfl, tails⟩ := List.append_inj shape (by omega)
      obtain ⟨rfl, rfl⟩ := List.cons.inj tails
      obtain ⟨_, rfl⟩ := List.cons.inj (List.append_cancel_left result)
      exact ⟨resumed, rest⟩
  · rintro ⟨resumed, rest⟩
    exact .page full more resumed rest

/-- The first page is returned as it is. -/
theorem Returns.first_page {wanted : List ρ} (returned : listing.Returns found (front ++ last :: wanted))
    (full : front.length + 1 = listing.limit) : ∃ later, found = front ++ last :: later := by
  generalize result : front ++ last :: wanted = items at returned
  cases returned with
  | short => exact ⟨wanted, result.symm⟩
  | page again =>
    obtain ⟨rfl, tails⟩ := List.append_inj result (by omega)
    obtain ⟨rfl, _⟩ := List.cons.inj tails
    exact ⟨_, rfl⟩

theorem Serves.sublist (serves : listing.Serves rows fetch) (sorted : listing.Sorted rows)
    (done : follow fetch fuel none = some items) : items.Sublist rows :=
  ((serves.follow_iff sorted).mp ⟨fuel, done⟩).sublist.trans List.filter_sublist

/-- Following the cursors returns all that is wanted if the start admits every row and
the pages return it. -/
theorem Serves.complete_iff {wanted : List ρ} (serves : listing.Serves rows fetch) (sorted : listing.Sorted rows)
    (covered : rows ⊆ wanted) : (∃ fuel, follow fetch fuel none = some wanted) ↔
      (∀ row ∈ rows, listing.admits listing.start row = true) ∧ listing.Returns rows wanted := by
  rw [serves.follow_iff sorted]
  constructor
  · intro returned
    have admitted : ∀ row ∈ rows, listing.admits listing.start row = true := fun row member =>
      (List.mem_filter.mp (returned.sublist.subset (covered member))).2
    rw [List.filter_eq_self.mpr admitted] at returned
    exact ⟨admitted, returned⟩
  · rintro ⟨admitted, returned⟩
    rwa [List.filter_eq_self.mpr admitted]

/-- `test` holds of every row and the rows after it, told whether a page ends there. -/
def Each (listing : Keyset ρ κ ε γ) (test : Prop → ρ → List ρ → Prop) (rows : List ρ) : Prop :=
  ∀ front row later, rows = front ++ row :: later → test (listing.limit ∣ front.length + 1) row later

section Each

variable {test : Prop → ρ → List ρ → Prop}

theorem each_short (few : rows.length < listing.limit) :
    listing.Each test rows ↔ ∀ front row later, rows = front ++ row :: later → test False row later := by
  refine forall₄_congr fun front row later shape => ?_
  have apart : ¬ listing.limit ∣ front.length + 1 := by
    apply Nat.not_dvd_of_pos_of_lt (Nat.succ_pos _)
    rw [shape, List.length_append, List.length_cons] at few
    omega
  rw [eq_false apart]

theorem each_page (full : front.length + 1 = listing.limit) : listing.Each test (front ++ last :: later) ↔
    (∀ early row rest, front = early ++ row :: rest → test False row (rest ++ last :: later)) ∧ test True last later ∧
      listing.Each test later := by
  have apart : ∀ early row rest, front = early ++ row :: rest → (listing.limit ∣ early.length + 1) = False := by
    intro early row rest shape
    apply eq_false
    apply Nat.not_dvd_of_pos_of_lt (Nat.succ_pos _)
    rw [← full, shape, List.length_append, List.length_cons]
    omega
  have whole : (listing.limit ∣ front.length + 1) = True := eq_true (full ▸ Nat.dvd_refl _)
  have shifted : ∀ early : List ρ, (listing.limit ∣ (front ++ last :: early).length + 1) = (listing.limit ∣ early.length + 1) := by
    intro early
    have size : (front ++ last :: early).length + 1 = listing.limit + (early.length + 1) := by
      rw [List.length_append, List.length_cons, ← full]
      omega
    rw [size]
    exact propext (Nat.dvd_add_right (Nat.dvd_refl _))
  constructor
  · intro each
    refine ⟨?_, ?_, ?_⟩
    · intro early row rest shape
      rw [← apart early row rest shape]
      exact each _ _ _ (by rw [shape]; simp)
    · rw [← whole]
      exact each _ _ _ rfl
    · intro early row rest shape
      rw [← shifted]
      exact each _ _ _ (by rw [shape]; simp)
  · rintro ⟨inside, ends, onward⟩ early row rest shape
    rcases List.append_eq_append_iff.mp shape with ⟨between, rfl, tail⟩ | ⟨between, rfl, tail⟩
    · cases between with
      | nil =>
        obtain ⟨rfl, rfl⟩ := List.cons.inj tail
        rw [List.append_nil, whole]
        exact ends
      | cons head between =>
        obtain ⟨rfl, rfl⟩ := List.cons.inj tail
        rw [shifted]
        exact onward _ _ _ rfl
    · cases between with
      | nil =>
        obtain ⟨rfl, rfl⟩ := List.cons.inj tail
        rw [List.append_nil] at whole
        rw [whole]
        exact ends
      | cons head between =>
        obtain ⟨rfl, rfl⟩ := List.cons.inj tail
        rw [apart _ _ _ rfl]
        exact inside _ _ _ rfl

end Each

/-- No page that is followed by another ends between two rows of one key, and from
each such page the listing goes on. -/
def Unbroken (listing : Keyset ρ κ ε γ) : List ρ → Prop :=
  listing.Each fun ends row later => ends → later ≠ [] → listing.resumes row ∧ ∀ other ∈ later, listing.precedes row other

theorem unbroken_short (few : rows.length ≤ listing.limit) : listing.Unbroken rows := by
  intro front row later shape ends more
  have some := List.length_pos_iff.mpr more
  have reached := Nat.le_of_dvd (Nat.succ_pos _) ends
  rw [shape, List.length_append, List.length_cons] at few
  omega

theorem returns_self_iff (rows : List ρ) : listing.Returns rows rows ↔ listing.Unbroken rows := by
  induction size : rows.length using Nat.strong_induction_on generalizing rows with
  | _ length ih =>
    by_cases few : rows.length ≤ listing.limit
    · exact ⟨fun _ => unbroken_short few, fun _ => .short few⟩
    · obtain ⟨front, last, later, rfl, full, more⟩ := exists_page (Nat.not_le.mp few)
      have smaller := ih later.length (by rw [← size, List.length_append, List.length_cons]; omega) later rfl
      rw [returns_page full more, Unbroken, each_page full]
      constructor
      · rintro ⟨resumed, returned⟩
        have all : later.filter (fun row => decide (listing.precedes last row)) = later :=
          returned.sublist.antisymm List.filter_sublist |>.symm
        rw [all] at returned
        refine ⟨fun _ _ _ _ => nofun, fun _ _ => ⟨resumed, ?_⟩, smaller.mp returned⟩
        simpa [List.filter_eq_self] using all
      · rintro ⟨_, ends, onward⟩
        obtain ⟨resumed, after⟩ := ends trivial more
        rw [List.filter_eq_self.mpr (by simpa using after)]
        exact ⟨resumed, smaller.mpr onward⟩

theorem forall_split {test : ρ → Prop} : (∀ early row later, front = early ++ row :: later → test row) ↔ ∀ row ∈ front, test row := by
  constructor
  · intro each row member
    obtain ⟨early, later, shape⟩ := List.append_of_mem member
    exact each early row later shape
  · rintro each early row later rfl
    exact each row (by simp)

/-- What holds of a row and of all before it holds of as many rows as stand there. -/
theorem lt_countP_iff {test : ρ → Bool} (sorted : listing.Sorted (front ++ last :: later))
    (downward : ∀ {first second}, ¬ listing.precedes second first → test second = true → test first = true) :
    front.length < (front ++ last :: later).countP test ↔ test last = true := by
  obtain ⟨_, tail, ahead⟩ := List.pairwise_append.mp sorted
  obtain ⟨behind, _⟩ := List.pairwise_cons.mp tail
  rw [List.countP_append]
  constructor
  · intro many
    by_contra fails
    have none : (last :: later).countP test = 0 := by
      rw [List.countP_eq_zero, List.forall_mem_cons]
      exact ⟨fails, fun row member holds => fails (downward (behind row member) holds)⟩
    have few := List.countP_le_length (p := test) (l := front)
    omega
  · intro holds
    have all : front.countP test = front.length :=
      List.countP_eq_length.mpr fun row member => downward (ahead row member last (.head _)) holds
    rw [all, List.countP_cons_of_pos holds]
    omega

/-- The rows before `row` in the listing, and those not after it. -/
def below (listing : Keyset ρ κ ε γ) (rows : List ρ) (row : ρ) : Nat :=
  rows.countP fun other => decide (listing.precedes other row)

def upto (listing : Keyset ρ κ ε γ) (rows : List ρ) (row : ρ) : Nat :=
  rows.countP fun other => !decide (listing.precedes row other)

section Counts

variable (sorted : listing.Sorted (front ++ last :: later))

include sorted

theorem lt_below_iff : front.length < listing.below (front ++ last :: later) row ↔ listing.precedes last row := by
  rw [below, lt_countP_iff sorted, decide_eq_true_eq]
  intro first second notAfter earlier
  exact decide_eq_true (precedes_of_not_precedes notAfter (of_decide_eq_true earlier))

theorem lt_upto_iff : front.length < listing.upto (front ++ last :: later) row ↔ ¬ listing.precedes row last := by
  rw [upto, lt_countP_iff sorted, Bool.not_eq_true', decide_eq_false_iff_not]
  intro first second notAfter notLater
  simp only [Bool.not_eq_true', decide_eq_false_iff_not] at notLater ⊢
  exact fun later => notAfter (precedes_of_not_precedes notLater later)

theorem upto_eq_iff (equal : listing.key row = listing.key last) :
    front.length + 1 = listing.upto (front ++ last :: later) row ↔ ∀ other ∈ later, listing.precedes last other := by
  obtain ⟨_, _, ahead⟩ := List.pairwise_append.mp sorted
  have congr : ∀ other, listing.precedes row other ↔ listing.precedes last other := by
    intro other
    rw [precedes, equal]
    rfl
  have page : ∀ other ∈ front ++ [last], ¬ listing.precedes last other := by
    simp only [List.forall_mem_append, List.forall_mem_singleton]
    exact ⟨fun other member => ahead other member last (.head _), precedes_irrefl last⟩
  simp only [upto, congr]
  rw [List.append_cons, List.countP_append, List.countP_eq_length.mpr (by simpa using page), List.length_append,
    List.length_singleton, Nat.left_eq_add, List.countP_eq_zero]
  simp

end Counts

theorem unbroken_iff (sorted : listing.Sorted rows)
    (keyed : ∀ {first second}, listing.key first = listing.key second → (listing.resumes first ↔ listing.resumes second)) :
    listing.Unbroken rows ↔ ∀ row ∈ rows, ∀ turn, listing.below rows row < turn * listing.limit →
      turn * listing.limit ≤ listing.upto rows row → turn * listing.limit < rows.length →
      turn * listing.limit = listing.upto rows row ∧ listing.resumes row := by
  constructor
  · intro unbroken row _ turn above reached inside
    obtain ⟨front, last, later, rfl, full⟩ := exists_split (by omega : 0 < turn * listing.limit) (Nat.le_of_lt inside)
    have equal : listing.key row = listing.key last := by
      apply key_eq_of_not_precedes
      · exact (lt_upto_iff sorted).mp (by omega)
      · exact mt (lt_below_iff sorted).mpr (by omega)
    have more : later ≠ [] := by
      rintro rfl
      simp at inside
      omega
    obtain ⟨resumed, after⟩ := unbroken front last later rfl (full ▸ Nat.dvd_mul_left _ _) more
    exact ⟨full ▸ (upto_eq_iff sorted equal).mpr after, (keyed equal).mpr resumed⟩
  · rintro unbroken front row later rfl ⟨turn, ends⟩ more
    have some := List.length_pos_iff.mpr more
    have full : turn * listing.limit = front.length + 1 := by rw [ends, Nat.mul_comm]
    have lower := mt (lt_below_iff sorted).mp (precedes_irrefl row)
    have upper := (lt_upto_iff sorted).mpr (precedes_irrefl row)
    obtain ⟨reached, resumed⟩ := unbroken row (by simp) turn (by omega) (by omega) (by simp; omega)
    exact ⟨resumed, (upto_eq_iff sorted rfl).mp (full ▸ reached)⟩

/-! ### Rows with copies -/

section Copies

variable (copies : ρ → Nat)

/-- Each of the rows as often as it has copies. -/
def spread (rows : List ρ) : List ρ := rows.flatMap fun row => List.replicate (copies row) row

/-- A row with copies is the last of a page, so that the others of it are skipped, and
from each page that is followed by another the listing goes on. -/
def Unrepeated (listing : Keyset ρ κ ε γ) : List ρ → Prop :=
  listing.Each fun ends row later => (copies row = 1 ∨ ends) ∧ (ends → later ≠ [] ∨ 1 < copies row → listing.resumes row)

variable {copies} {rest : List ρ}

theorem mem_of_mem_spread (member : row ∈ spread copies rows) : row ∈ rows := by
  obtain ⟨other, inside, copied⟩ := List.mem_flatMap.mp member
  exact List.eq_of_mem_replicate copied ▸ inside

theorem spread_cons (positive : 0 < copies row) :
    spread copies (row :: rest) = row :: (List.replicate (copies row - 1) row ++ spread copies rest) := by
  obtain ⟨fewer, count⟩ := Nat.exists_eq_add_one_of_ne_zero positive.ne'
  rw [spread, List.flatMap_cons, count, List.replicate_succ]
  rfl

theorem spread_cons_eq (positive : 0 < copies row) (fresh : found.head? ≠ some row) :
    spread copies (row :: rest) = row :: found ↔ copies row = 1 ∧ spread copies rest = found := by
  rw [spread_cons positive, List.cons_inj_right]
  constructor
  · intro same
    have once : copies row = 1 := by
      by_contra more
      obtain ⟨fewer, count⟩ := Nat.exists_eq_add_one_of_ne_zero (n := copies row - 1) (by omega)
      rw [count, List.replicate_succ] at same
      exact fresh (by rw [← same]; rfl)
    rw [once] at same
    exact ⟨once, same⟩
  · rintro ⟨once, rfl⟩
    rw [once]
    rfl

theorem spread_eq_self (positive : ∀ row ∈ rows, 0 < copies row) (nodup : rows.Nodup) :
    spread copies rows = rows ↔ ∀ row ∈ rows, copies row = 1 := by
  induction rows with
  | nil => simp [spread]
  | cons row rest ih =>
    obtain ⟨fresh, nodup⟩ := List.nodup_cons.mp nodup
    rw [spread_cons_eq (positive row (.head _)) fun head => fresh (List.mem_of_head? head),
      ih (fun row member => positive row (.tail _ member)) nodup, List.forall_mem_cons]

/-- The rows of a page come back without copies if only the last of them has any. -/
theorem spread_page (positive : ∀ row ∈ front ++ last :: rest, 0 < copies row) (nodup : (front ++ last :: rest).Nodup) :
    spread copies (front ++ last :: rest) = front ++ last :: later ↔
      (∀ row ∈ front, copies row = 1) ∧ List.replicate (copies last - 1) last ++ spread copies rest = later := by
  induction front with
  | nil => simp [spread_cons (positive last (by simp))]
  | cons row front ih =>
    obtain ⟨fresh, nodup⟩ := List.nodup_cons.mp nodup
    have head : (front ++ last :: later).head? ≠ some row := by
      intro head
      rw [List.head?_append, List.head?_cons] at head
      exact fresh (by cases front <;> simp_all)
    rw [List.cons_append, List.cons_append, spread_cons_eq (positive row (by simp)) head,
      ih (fun row member => positive row (.tail _ member)) nodup, List.forall_mem_cons, and_assoc]

theorem unrepeated_short (few : rows.length < listing.limit) :
    listing.Unrepeated copies rows ↔ ∀ row ∈ rows, copies row = 1 := by
  rw [Unrepeated, each_short few]
  simp only [or_false, false_implies, and_true]
  exact forall_split

theorem unrepeated_page (full : front.length + 1 = listing.limit) : listing.Unrepeated copies (front ++ last :: rest) ↔
    (∀ row ∈ front, copies row = 1) ∧ (rest ≠ [] ∨ 1 < copies last → listing.resumes last) ∧ listing.Unrepeated copies rest := by
  rw [Unrepeated, each_page full]
  simp only [or_false, false_implies, and_true, or_true, true_and, forall_const]
  exact and_congr_left fun _ => forall_split

theorem returns_spread_iff (rows : List ρ) (positive : ∀ row ∈ rows, 0 < copies row) (strict : rows.Pairwise listing.precedes) :
    listing.Returns (spread copies rows) rows ↔ listing.Unrepeated copies rows := by
  induction size : rows.length using Nat.strong_induction_on generalizing rows with
  | _ length ih =>
    have nodup : rows.Nodup := strict.imp (by rintro row _ earlier rfl; exact precedes_irrefl row earlier)
    by_cases few : rows.length < listing.limit
    · rw [unrepeated_short few, ← spread_eq_self positive nodup]
      constructor
      · generalize shape : spread copies rows = found
        intro returned
        cases returned with
        | short => rfl
        | page full =>
          simp only [List.length_append, List.length_cons] at few
          omega
      · intro same
        rw [same]
        exact .short (by omega)
    · obtain ⟨front, last, rest, rfl, full⟩ := exists_split listing.positive (Nat.not_lt.mp few)
      obtain ⟨_, tail, _⟩ := List.pairwise_append.mp strict
      obtain ⟨after, strict⟩ := List.pairwise_cons.mp tail
      have smaller := ih rest.length (by rw [← size, List.length_append, List.length_cons]; omega) rest
        (fun row member => positive row (by simp [member])) strict rfl
      rw [unrepeated_page full, ← smaller]
      by_cases alone : ∀ row ∈ front, copies row = 1
      · rw [(spread_page positive nodup).mpr ⟨alone, rfl⟩]
        have onward : (List.replicate (copies last - 1) last ++ spread copies rest).filter (fun row => listing.precedes last row) =
            spread copies rest := by
          rw [List.filter_append, List.filter_replicate_of_neg (by simpa using precedes_irrefl last), List.nil_append,
            List.filter_eq_self]
          exact fun row member => decide_eq_true (after row (mem_of_mem_spread member))
        have left : List.replicate (copies last - 1) last ++ spread copies rest ≠ [] ↔ rest ≠ [] ∨ 1 < copies last := by
          cases rest with
          | nil => simp [spread]; omega
          | cons row rest => simp [spread_cons (positive row (by simp))]
        by_cases more : List.replicate (copies last - 1) last ++ spread copies rest = []
        · obtain ⟨none, single⟩ := not_or.mp (mt left.mpr (not_not.mpr more))
          obtain rfl := not_not.mp none
          rw [more]
          refine iff_of_true (.short (by simp; omega)) ⟨alone, fun onward => ?_, .short (by simp [spread])⟩
          exact absurd onward (not_or.mpr ⟨none, single⟩)
        · rw [returns_page full more, onward]
          exact ⟨fun ⟨resumed, rest⟩ => ⟨alone, fun _ => resumed, rest⟩, fun ⟨_, resumed, rest⟩ => ⟨resumed (left.mp more), rest⟩⟩
      · constructor
        · intro returned
          obtain ⟨later, shape⟩ := returned.first_page full
          exact absurd ((spread_page positive nodup).mp shape).1 alone
        · exact fun listable => absurd listable.1 alone

theorem unrepeated_iff (strict : rows.Pairwise listing.precedes) : listing.Unrepeated copies rows ↔ ∀ row ∈ rows,
    (copies row = 1 ∨ listing.limit ∣ listing.below rows row + 1) ∧ (listing.limit ∣ listing.below rows row + 1 →
      listing.below rows row + 1 < rows.length ∨ 1 < copies row → listing.resumes row) := by
  rw [← forall_split]
  refine forall₄_congr fun front row later shape => ?_
  subst shape
  have sorted : listing.Sorted (front ++ row :: later) :=
    strict.imp fun earlier later => precedes_irrefl _ (precedes_trans earlier later)
  have rank : listing.below (front ++ row :: later) row = front.length := by
    apply Nat.le_antisymm (Nat.not_lt.mp (mt (lt_below_iff sorted).mp (precedes_irrefl row)))
    have all : front.countP (fun other => decide (listing.precedes other row)) = front.length := List.countP_eq_length.mpr
      fun other member => decide_eq_true ((List.pairwise_append.mp strict).2.2 other member row (.head _))
    rw [below, List.countP_append, all]
    exact Nat.le_add_right _ _
  have more : later ≠ [] ↔ front.length + 1 < (front ++ row :: later).length := by
    rw [← List.length_pos_iff, List.length_append, List.length_cons]
    omega
  simp only [rank, more]

section Sorting

variable (keyed : ∀ first ∈ rows, ∀ second ∈ rows, listing.key first = listing.key second → first = second)

include keyed

theorem strict_insertionSort (nodup : rows.Nodup) :
    (rows.insertionSort fun first second => ¬ listing.precedes second first).Pairwise listing.precedes := by
  have reorder := List.perm_insertionSort (fun first second => ¬ listing.precedes second first) rows
  have distinct := reorder.nodup_iff.mpr nodup
  refine List.Pairwise.imp_of_mem ?_ ((sorted_insertionSort rows).and distinct)
  rintro first second firstMember secondMember ⟨notAfter, different⟩
  by_contra notBefore
  exact different (keyed first (reorder.mem_iff.mp firstMember) second (reorder.mem_iff.mp secondMember)
    (key_eq_of_not_precedes notBefore notAfter))

theorem insertionSort_spread : (spread copies rows).insertionSort (fun first second => ¬ listing.precedes second first) =
    spread copies (rows.insertionSort fun first second => ¬ listing.precedes second first) := by
  have reorder := List.perm_insertionSort (fun first second => ¬ listing.precedes second first) rows
  have resort := List.perm_insertionSort (fun first second => ¬ listing.precedes second first) (spread copies rows)
  have copied := reorder.flatMap_right fun row => List.replicate (copies row) row
  refine (resort.trans copied.symm).eq_of_pairwise ?_ (sorted_insertionSort _) ?_
  · intro first second firstMember secondMember notAfter notBefore
    exact keyed first (mem_of_mem_spread (resort.mem_iff.mp firstMember)) second
      (mem_of_mem_spread (copied.mem_iff.mp secondMember)) (key_eq_of_not_precedes notBefore notAfter)
  · refine List.pairwise_flatMap.mpr ⟨fun row _ => List.pairwise_replicate.mpr (.inr (precedes_irrefl row)), ?_⟩
    refine (sorted_insertionSort rows).imp fun {first second} notAfter left copied right again => ?_
    rw [List.eq_of_mem_replicate copied, List.eq_of_mem_replicate again]
    exact notAfter

end Sorting

end Copies

end Keyset

end Library

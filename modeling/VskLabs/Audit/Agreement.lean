import VskLabs.Audit.Weaving

/-! The writer and the verifier agree. What a database reads back of its audit
history is accepted, in whole and in part, exactly when no recovery epoch was
passed over without an event; a checkpoint keeps its range for good. -/

namespace VskLabs.Audit
open Library

/-! ### Ranges of numbered rows -/

def window {ρ : Type} (first last : Int) (rows : List ρ) : List ρ := (rows.take last.toNat).drop (first - 1).toNat

section Window

variable {ρ : Type} {column : ρ → Int} {rows : List ρ} {count : Nat} {first last : Int}

theorem map_window {σ : Type} (f : ρ → σ) : (window first last rows).map f = window first last (rows.map f) := by
  rw [window, window, List.map_drop, List.map_take]

theorem column_numbered (ids : rows.map column = numbering count) {index : Nat} {row : ρ}
    (found : rows[index]? = some row) : column row = index + 1 := by
  have mapped : (rows.map column)[index]? = some (column row) := by rw [List.getElem?_map, found]; rfl
  rw [ids, numbering, List.getElem?_map] at mapped
  obtain ⟨place, inside, same⟩ := Option.map_eq_some_iff.mp mapped
  obtain ⟨_, rfl⟩ := List.getElem?_eq_some_iff.mp inside
  simpa using same.symm

theorem length_window (length : rows.length = count) (positive : 0 < first) (order : first ≤ last)
    (inside : last ≤ count) : ((window first last rows).length : Int) = last - first + 1 := by
  rw [window, List.length_drop, List.length_take]
  omega

theorem orderBy_between (ids : rows.map column = numbering count) (positive : 0 < first) (order : first ≤ last) :
    orderBy column (rows.filter fun row => decide (first ≤ column row) && decide (column row ≤ last)) =
      window first last rows := by
  have split : rows = rows.take (first - 1).toNat ++ (window first last rows ++ rows.drop last.toNat) := by
    have front : (rows.take last.toNat).take (first - 1).toNat = rows.take (first - 1).toNat := by
      rw [List.take_take]
      congr 1
      omega
    rw [window, ← List.append_assoc, ← front, List.take_append_drop, List.take_append_drop]
  have before : (rows.take (first - 1).toNat).filter
      (fun row => decide (first ≤ column row) && decide (column row ≤ last)) = [] := by
    rw [List.filter_eq_nil_iff]
    intro row member
    obtain ⟨index, inside, rfl⟩ := List.mem_take_iff_getElem.mp member
    have number := column_numbered ids (List.getElem?_eq_getElem (by omega : index < rows.length))
    simp only [checks]
    omega
  have after : (rows.drop last.toNat).filter
      (fun row => decide (first ≤ column row) && decide (column row ≤ last)) = [] := by
    rw [List.filter_eq_nil_iff]
    intro row member
    obtain ⟨index, inside, found⟩ := List.mem_drop_iff_getElem.mp member
    have number := column_numbered ids (List.getElem?_eq_some_iff.mpr ⟨by omega, found⟩)
    simp only [checks]
    omega
  have within : (window first last rows).filter
      (fun row => decide (first ≤ column row) && decide (column row ≤ last)) = window first last rows := by
    rw [List.filter_eq_self]
    intro row member
    obtain ⟨index, inside, rfl⟩ := List.mem_drop_iff_getElem.mp member
    rw [List.getElem_take]
    rw [List.length_take] at inside
    have number := column_numbered ids
      (List.getElem?_eq_getElem (by omega : (first - 1).toNat + index < rows.length))
    simp only [checks]
    omega
  have sorted := numbering_sorted count
  rw [← ids, List.pairwise_map] at sorted
  conv_lhs => rw [split]
  rw [List.filter_append, List.filter_append, before, after, within, List.nil_append, List.append_nil]
  exact ((sorted.sublist ((List.drop_sublist _ _).trans (List.take_sublist _ _))).imp fun step => le_of_lt step).insertionSort_eq

theorem head_window (ids : rows.map column = numbering count) (positive : 0 < first) (order : first ≤ last)
    (inside : last ≤ count) : ∃ row, (window first last rows).head? = some row ∧ column row = first := by
  have length := length_numbered ids
  have place : (first - 1).toNat < rows.length := by omega
  refine ⟨rows[(first - 1).toNat], ?_, ?_⟩
  · rw [window, List.head?_drop, List.getElem?_take, if_pos (by omega), List.getElem?_eq_getElem place]
  · rw [column_numbered ids (List.getElem?_eq_getElem place)]
    omega

theorem last_window (ids : rows.map column = numbering count) (positive : 0 < first) (order : first ≤ last)
    (inside : last ≤ count) : ∃ row, (window first last rows).getLast? = some row ∧ column row = last := by
  have length := length_numbered ids
  have place : last.toNat - 1 < rows.length := by omega
  refine ⟨rows[last.toNat - 1], ?_, ?_⟩
  · rw [window, List.getLast?_drop, List.length_take, if_neg (by omega), List.getLast?_take, if_neg (by omega),
      List.getElem?_eq_getElem place, Option.some_or]
  · rw [column_numbered ids (List.getElem?_eq_getElem place)]
    omega

end Window

variable {φ β : Type} [DecidableEq φ] {hash : Hash φ} {database later : Database φ β} {count : Nat} {first last : Int}

def Database.history (database : Database φ β) : List (Event φ) := database.events.rows.map EventRow.event

def Gapless (events : List (Event φ)) : Prop := (events.map Event.recoveryEpoch).IsChain Consecutive

variable {links : List (ChainLink φ)} {events : List (Event φ)}

omit [DecidableEq φ] in
theorem sealed_pairs
    (sealed : List.Forall₂ (Sealed hash) links events) : ∀ pair ∈ links.zip events, Sealed hash pair.1 pair.2 :=
  fun _ member => (List.forall₂_iff_zip.mp sealed).2 member

theorem checkHistory_iff (sealed : List.Forall₂ (Sealed hash) links events) (follows : links.IsChain Follows) :
    checkHistory hash none (links.zip events) = .ok () ↔ Gapless events := by
  have fsts : (links.zip events).map Prod.fst = links := List.map_fst_zip (le_of_eq sealed.length_eq)
  rw [checkHistory_eq_ok, Option.toList_none, List.nil_append, fsts, adjacent_chain_iff follows,
    sealed_epochs sealed]
  constructor
  · rintro ⟨-, epochs⟩
    exact epochs
  · intro epochs
    exact ⟨sealed_pairs sealed, epochs⟩

omit [DecidableEq φ] in
theorem digestChainRange_ok
    (sealed : List.Forall₂ (Sealed hash) links events) (follows : links.IsChain Follows) (some : links ≠ []) :
    ∃ digest, digestChainRange hash links = .some digest := by
  have valid : (links.all fun link => hash.valid link.linkDigest && decide (0 < link.eventID)) = true := by
    rw [List.all_eq_true]
    intro link member
    obtain ⟨index, inside, rfl⟩ := List.mem_iff_getElem.mp member
    have pair := (List.forall₂_iff_get.mp sealed).2 index inside (sealed.length_eq ▸ inside)
    simpa using ⟨pair.digest, pair.positive⟩
  have ascending : (links.map fun link => link.eventID).IsChain (· < ·) := by
    rw [List.isChain_map]
    exact follows.imp fun prior link step => by rw [step.next]; omega
  obtain ⟨head, tail, rfl⟩ := List.exists_cons_of_ne_nil some
  have newest := List.getLast?_eq_some_getLast (List.cons_ne_nil head tail)
  unfold digestChainRange
  rw [List.head?_cons, newest]
  dsimp only
  rw [valid, decide_eq_true ascending]
  exact ⟨_, rfl⟩

omit [DecidableEq φ] in
theorem Woven.chainRange (woven : Woven hash database) (ids : database.events.rows.map EventRow.eventID = numbering count)
    (positive : 0 < first) (order : first ≤ last) (inside : last ≤ count) :
    ∃ digest, digestChainRange hash (window first last database.links.rows) = some digest ∧
      VskLabs.Audit.chainRange hash database first last =
        .ok ⟨first, last, window first last database.links.rows, digest⟩ := by
  have linkIDs := woven.linkIDs ids
  obtain ⟨head, headFound, headID⟩ := head_window linkIDs positive order inside
  obtain ⟨tail, tailFound, tailID⟩ := last_window linkIDs positive order inside
  have sealed : List.Forall₂ (Sealed hash) (window first last database.links.rows)
      (window first last database.history) := List.forall₂_drop _ (List.forall₂_take _ woven.sealed)
  have follows : (window first last database.links.rows).IsChain Follows := (woven.ready.follows.take _).drop _
  obtain ⟨digest, made⟩ := digestChainRange_ok sealed follows (by
    intro empty
    rw [empty] at headFound
    cases headFound)
  refine ⟨digest, made, ?_⟩
  simp [VskLabs.Audit.chainRange, orderBy_between linkIDs positive order, positive, order, headFound, headID, tailFound,
    tailID, made, ensure, require, bind, Except.bind, pure, Except.pure]

theorem Woven.readAuditSuffix_iff (woven : Woven hash database)
    (ids : database.events.rows.map EventRow.eventID = numbering count) (positive : 0 < first) (order : first ≤ last)
    (inside : last ≤ count) (bounded : last - first + 1 ≤ maxRecoveryAuditSuffixEvents) :
    (∃ suffix, readAuditSuffix hash database first last = .ok suffix) ↔ Gapless (window first last database.history) := by
  obtain ⟨digest, -, ranged⟩ := woven.chainRange ids positive order inside
  obtain ⟨head, headFound, headID⟩ := head_window ids positive order inside
  obtain ⟨tail, tailFound, tailID⟩ := last_window ids positive order inside
  rw [EventRow.eventID] at headID tailID
  have length := length_window (length_numbered ids) positive order inside
  have canonical : ((window first last database.events.rows).all fun row =>
      canonicalEvent hash row.event == some row.payloadDigest) = true := by
    rw [List.all_eq_true]
    intro row member
    have present : row ∈ database.events.rows := List.mem_of_mem_take (List.mem_of_mem_drop member)
    obtain ⟨index, within, rfl⟩ := List.mem_iff_getElem.mp present
    have pair := (List.forall₂_iff_get.mp woven.sealed).2 index
      (by rw [woven.sealed.length_eq, List.length_map]; exact within) (by rw [List.length_map]; exact within)
    simp only [List.get_eq_getElem, List.getElem_map] at pair
    rw [beq_iff_eq]
    exact (canonicalEvent_eq_some hash).mpr ⟨pair.makes.canonical, (woven.payloads _ present).symm⟩
  have sealed : List.Forall₂ (Sealed hash) (window first last database.links.rows)
      ((window first last database.events.rows).map EventRow.event) := by
    rw [map_window]
    exact List.forall₂_drop _ (List.forall₂_take _ woven.sealed)
  have follows : (window first last database.links.rows).IsChain Follows := (woven.ready.follows.take _).drop _
  have walk := checkHistory_iff sealed follows
  rw [Database.history, ← map_window, ← walk]
  obtain ⟨newest, found, -⟩ := last_window (woven.linkIDs ids) positive order inside
  have read : (∃ suffix, readAuditSuffix hash database first last = .ok suffix) ↔
      ∃ report, verifyLocal hash (window first last database.links.rows)
        ((window first last database.events.rows).map EventRow.event) [] = .ok report := by
    simp only [readAuditSuffix, orderBy_between ids positive order, ranged, canonical, List.length_map, length,
      List.head?_map, headFound, List.getLast?_map, tailFound, positive, order, bounded]
    cases verified : verifyLocal hash (window first last database.links.rows)
        ((window first last database.events.rows).map EventRow.event) [] with
    | error reason => simp [ensure, bind, Except.bind, headID, tailID, verified]
    | ok report => simp [ensure, bind, Except.bind, headID, tailID, verified]
  rw [read, verifyLocal, found]
  cases walked : checkHistory hash none ((window first last database.links.rows).zip
      ((window first last database.events.rows).map EventRow.event)) with
  | error reason => simp [ensure, sealed.length_eq, bind, Except.bind]
  | ok done => simp [ensure, sealed.length_eq, bind, Except.bind, checkCheckpoints]

/-! ### The whole history and its checkpoints -/

theorem checkCheckpoints_ok {checkpoints : List (Checkpoint φ)} (start : LocalResult φ)
    (ranges : ∀ checkpoint ∈ checkpoints, checkpoint.status = .anchored →
      ∃ range, checkAnchored hash links checkpoint = .ok range) :
    ∃ result, checkCheckpoints hash links checkpoints start = .ok result := by
  induction checkpoints generalizing start with
  | nil => exact ⟨start, rfl⟩
  | cons checkpoint rest ih =>
    have remaining := fun other member => ranges other (.tail checkpoint member)
    unfold checkCheckpoints
    split
    · exact ih start remaining
    · next anchored =>
      obtain ⟨range, passed⟩ := ranges checkpoint (by simp) (by simpa using anchored)
      rw [passed]
      exact ih _ remaining

theorem window_all {ρ : Type} {rows : List ρ} (length : rows.length = count) : window 1 count rows = rows := by
  rw [window, Int.sub_self, Int.toNat_zero, List.drop_zero, Int.toNat_natCast, List.take_of_length_le (by omega)]

theorem Woven.verifyAuditHistory_iff (woven : Woven hash database) {checkpoints : List (Checkpoint φ)}
    (ranges : ∀ checkpoint ∈ checkpoints, checkpoint.status = .anchored →
      ∃ range, checkAnchored hash database.links.rows checkpoint = .ok range) :
    (∃ result, verifyAuditHistory hash database checkpoints = .ok (.ok result)) ↔ Gapless database.history := by
  obtain ⟨count, -, ids⟩ := woven.numbered
  have walk := checkHistory_iff woven.sealed woven.ready.follows
  have length := length_numbered (woven.linkIDs ids)
  have eventLength := length_numbered ids
  simp only [verifyAuditHistory, orderBy_numbered ids]
  cases count with
  | zero =>
    have none : database.events.rows = [] := List.length_eq_zero_iff.mp eventLength
    simp [none, Database.history, Gapless, verifyLocal, pure, Except.pure]
  | succ count =>
    have start : (0 : Int) < 1 := by omega
    have order : (1 : Int) ≤ (count + 1 : Nat) := by omega
    obtain ⟨head, headFound, headID⟩ := head_window ids start order le_rfl
    obtain ⟨tail, tailFound, tailID⟩ := last_window ids start order le_rfl
    obtain ⟨newest, newestFound, -⟩ := last_window (woven.linkIDs ids) start order le_rfl
    obtain ⟨digest, -, ranged⟩ := woven.chainRange ids start order le_rfl
    rw [window_all eventLength] at headFound tailFound
    rw [window_all length] at ranged newestFound
    rw [EventRow.eventID] at headID tailID
    simp only [List.head?_map, headFound, List.getLast?_map, tailFound, Option.map_some, headID, tailID, ranged]
    rw [Database.history, ← walk]
    cases walked : checkHistory hash none (database.links.rows.zip (database.events.rows.map EventRow.event)) with
    | error reason => simp [verifyLocal, newestFound, ensure, length, eventLength, walked, bind, Except.bind, pure, Except.pure]
    | ok done =>
      simpa [verifyLocal, newestFound, ensure, length, eventLength, walked, bind, Except.bind, pure, Except.pure]
        using checkCheckpoints_ok _ ranges

omit [DecidableEq φ] in
theorem Woven.drafted (woven : Woven hash database) {checkpointID : String} {pending : Checkpoint φ}
    (done : auditCheckpointDraft hash database checkpointID first last = .ok pending) :
    ∃ head tail, 0 < first ∧ first ≤ last ∧ last ≤ database.links.rows.length ∧
      (window first last database.links.rows).head? = some head ∧
      (window first last database.links.rows).getLast? = some tail ∧
      digestChainRange hash (window first last database.links.rows) = some pending.chainDigest ∧
      pending = {
        checkpointID := checkpointID
        firstEventID := first
        lastEventID := last
        firstSegmentSequence := head.segmentSequence
        lastSegmentSequence := tail.segmentSequence
        chainDigest := pending.chainDigest
        instanceID := head.instanceID
        recoveryEpoch := head.recoveryEpoch
        signatureDigest := none
        exportReceiptDigest := none
        independentReadDigest := none
        status := .pending
        preAnchor := head.preAnchor } := by
  obtain ⟨count, -, ids⟩ := woven.numbered
  have linkIDs := woven.linkIDs ids
  unfold auditCheckpointDraft at done
  obtain ⟨chain, ranged, done⟩ := bind_eq_ok.mp done
  have read := ranged
  unfold VskLabs.Audit.chainRange at read
  obtain ⟨_, sane, read⟩ := bind_eq_ok.mp read
  obtain ⟨_, ends, -⟩ := bind_eq_ok.mp read
  simp only [peel, checks] at sane
  rw [ensure_eq_ok, orderBy_between linkIDs sane.1 sane.2, Bool.and_eq_true, Option.any_eq_true, Option.any_eq_true] at ends
  obtain ⟨-, newest, newestFound, newestID⟩ := ends
  have inside : last ≤ count := by
    have listed : newest.eventID ∈ database.links.rows.map (fun link => link.eventID) :=
      List.mem_map_of_mem (List.mem_of_mem_take (List.mem_of_mem_drop (List.mem_of_getLast? newestFound)))
    rw [linkIDs, mem_numbering] at listed
    rw [beq_iff_eq] at newestID
    omega
  obtain ⟨digest, made, same⟩ := woven.chainRange ids sane.1 sane.2 inside
  cases same.symm.trans ranged
  obtain ⟨head, headFound, -⟩ := head_window linkIDs sane.1 sane.2 inside
  simp only [headFound, newestFound] at done
  obtain ⟨_, current, done⟩ := bind_eq_ok.mp done
  simp only [peel, checks] at current
  cases pure_eq_ok.mp done
  exact ⟨head, newest, sane.1, sane.2, by rw [length_numbered linkIDs]; exact inside, headFound, newestFound, made,
    by rw [current.1.1]⟩

theorem Woven.anchored_range (woven : Woven hash database) {checkpointID : String} {pending : Checkpoint φ}
    (done : auditCheckpointDraft hash database checkpointID first last = .ok pending)
    (grown : database.links.rows <+: later.links.rows) (signature receipt independent : φ) :
    ∃ range, checkAnchored hash later.links.rows (pending.anchored signature receipt independent) = .ok range := by
  obtain ⟨head, tail, positive, order, inside, headFound, tailFound, made, built⟩ := woven.drafted done
  have same : window first last later.links.rows = window first last database.links.rows := by
    obtain ⟨more, rest⟩ := grown
    rw [window, window, ← rest, List.take_append_of_le_length (by omega)]
  have longer : last ≤ later.links.rows.length := by
    have := grown.length_le
    omega
  rw [built]
  rw [window] at same
  simp only [checkAnchored, Checkpoint.anchored, same, made]
  simp [positive, order, longer, headFound, tailFound, ensure, require, bind, Except.bind, pure, Except.pure]

/-! ### From a legacy database on -/

/-- A database written before links existed: its events are numbered and belong
to ever later epochs, and nothing is chained yet. A new database is one. -/
structure Legacy (database : Database φ β) : Prop where
  numbered : ∃ count : Nat, database.auditSequence = count ∧
    database.events.rows.map EventRow.eventID = numbering count
  unlinked : database.links.rows = []
  ordered : (database.history.map Event.recoveryEpoch).Pairwise (· ≤ ·)
  bounded : ∀ event ∈ database.history, event.recoveryEpoch ≤ database.recoveryEpoch

/-- The state between two steps of the backfill: the events seen so far have
their links, all made by this instance. -/
structure Backfilled (hash : Hash φ) (seen : List (EventRow φ)) (database : Database φ β) : Prop where
  payloads : ∀ row ∈ seen, row.payloadDigest = hash.sum (.event row.event)
  sealed : List.Forall₂ (Sealed hash) database.links.rows (seen.map EventRow.event)
  follows : database.links.rows.IsChain Follows
  home : ∀ link ∈ database.links.rows, link.instanceID = database.instanceID

theorem backfillRows_ok {faults : Faults} {seen rows : List (EventRow φ)}
    (done : backfillRows hash faults rows database = .ok later) (state : Backfilled hash seen database)
    (ids : (seen ++ rows).map EventRow.eventID = numbering count)
    (ordered : ((seen ++ rows).map fun row => row.event.recoveryEpoch).Pairwise (· ≤ ·)) :
    Backfilled hash (seen ++ rows) later ∧
      later = { database with geneses := later.geneses, links := later.links } := by
  induction rows generalizing seen database with
  | nil =>
    cases done
    rw [List.append_nil]
    exact ⟨state, rfl⟩
  | cons row rest ih =>
    unfold backfillRows at done
    obtain ⟨_, canonical, done⟩ := bind_eq_ok.mp done
    obtain ⟨middle, chain, done⟩ := bind_eq_ok.mp done
    obtain ⟨frame, link, chained⟩ := chainEvent_ok chain
    rw [ensure_eq_ok, beq_iff_eq] at canonical
    obtain ⟨-, payload⟩ := (canonicalEvent_eq_some hash).mp canonical
    obtain ⟨_, -, makes⟩ := chained.makes
    have instance_eq : middle.instanceID = database.instanceID := by rw [frame]
    have linkIDs : database.links.rows.map (fun link => link.eventID) = seen.map EventRow.eventID := by
      rw [sealed_ids state.sealed, List.map_map]
      rfl
    have epochs : database.links.rows.map (fun link => link.recoveryEpoch) = seen.map fun row => row.event.recoveryEpoch := by
      rw [sealed_epochs state.sealed, List.map_map]
      rfl
    have next : ∀ last ∈ database.links.rows.getLast?, row.event.eventID = last.eventID + 1 := by
      intro last found
      have mapped : (seen.map EventRow.eventID).getLast? = some last.eventID := by
        rw [← linkIDs, List.getLast?_map, Option.mem_def.mp found]
        rfl
      rw [List.getLast?_map] at mapped
      obtain ⟨newest, newestFound, newestID⟩ := Option.map_eq_some_iff.mp mapped
      have place : (seen ++ row :: rest)[seen.length - 1]? = some newest := by
        rw [List.getLast?_eq_getElem?] at newestFound
        rw [List.getElem?_append_left (List.getElem?_eq_some_iff.mp newestFound).1]
        exact newestFound
      have here : (seen ++ row :: rest)[seen.length]? = some row := by simp
      have some : seen ≠ [] := by
        intro empty
        rw [empty] at newestFound
        cases newestFound
      have positive := List.length_pos_iff.mpr some
      have first := column_numbered ids place
      have second := column_numbered ids here
      rw [EventRow.eventID] at second
      omega
    have ready : Ready database row.event.recoveryEpoch := by
      refine ⟨state.follows, ?_, fun link member _ => state.home link member⟩
      intro link member
      have listed : link.recoveryEpoch ∈ seen.map fun row => row.event.recoveryEpoch :=
        epochs ▸ List.mem_map_of_mem member
      rw [List.map_append, List.pairwise_append] at ordered
      exact ordered.2.2 _ listed _ (by simp)
    have advanced : Backfilled hash (seen ++ [row]) middle := by
      refine ⟨?_, ?_, chained.follows ready next, ?_⟩
      · intro entry member
        obtain old | new := List.mem_append.mp member
        · exact state.payloads entry old
        · cases List.mem_singleton.mp new
          exact payload.symm
      · rw [chained.rows, List.map_append]
        exact List.rel_append state.sealed (.cons chained.sealed .nil)
      · rw [chained.rows, instance_eq]
        intro entry member
        obtain old | new := List.mem_append.mp member
        · exact state.home entry old
        · cases List.mem_singleton.mp new
          rw [makes.body]
    rw [List.append_cons] at ids ordered ⊢
    obtain ⟨finished, rest⟩ := ih done advanced ids ordered
    exact ⟨finished, by rw [rest, frame]⟩

theorem Legacy.woven {faults : Faults} (legacy : Legacy database)
    (done : backfillPreAnchor hash faults database = .ok later) :
    Woven hash later ∧ later.history = database.history := by
  obtain ⟨count, sequence, ids⟩ := legacy.numbered
  have all : database.unlinked = database.events.rows := by
    have every : (database.events.rows.filter fun row => (database.links.find? row.eventID).isNone) =
        database.events.rows := by
      rw [List.filter_eq_self]
      intro row member
      rw [Table.find?_eq_none_iff.mpr (by rw [legacy.unlinked]; simp)]
      rfl
    rw [Database.unlinked, every, orderBy_numbered ids]
  rw [backfillPreAnchor, all] at done
  have start : Backfilled hash [] database := by
    refine ⟨by simp, ?_, ?_, ?_⟩
    · rw [legacy.unlinked]
      exact .nil
    · rw [legacy.unlinked]
      exact List.isChain_nil
    · rw [legacy.unlinked]
      simp
  have ordered := legacy.ordered
  rw [Database.history, List.map_map] at ordered
  obtain ⟨⟨payloads, sealed, follows, home⟩, frame⟩ := backfillRows_ok done start ids ordered
  rw [List.nil_append] at payloads sealed
  have events : later.events = database.events := by rw [frame]
  have epoch : later.recoveryEpoch = database.recoveryEpoch := by rw [frame]
  refine ⟨⟨⟨count, by rw [frame]; exact sequence, by rw [events]; exact ids⟩, by rw [events]; exact payloads,
    by rw [events]; exact sealed, follows, ?_, fun link member _ => home link member⟩, by rw [Database.history, events]; rfl⟩
  intro link member
  have listed : link.recoveryEpoch ∈ database.history.map Event.recoveryEpoch :=
    sealed_epochs sealed ▸ List.mem_map_of_mem member
  obtain ⟨event, present, same⟩ := List.mem_map.mp listed
  rw [← same, epoch]
  exact legacy.bounded event present

/-- A checkpoint document of a database's past: drafted after some of the
actions, and anchored with whatever digests, or not anchored at all. -/
def Recorded (hash : Hash φ) (opened : Database φ β) (actions : List (Action φ β)) (checkpoint : Checkpoint φ) : Prop :=
  checkpoint.status ≠ .anchored ∨
    ∃ earlier rest checkpointID first last pending signature receipt independent, actions = earlier ++ rest ∧
      auditCheckpointDraft hash (unfolds hash opened earlier) checkpointID first last = .ok pending ∧
      checkpoint = pending.anchored signature receipt independent

/-- From any legacy database, over any life of it: the history verifies, with
every checkpoint drafted on the way, exactly when it passes over no epoch; every
range of at most 4096 events reads back exactly when that range passes over
none; and a checkpoint anchored at any later time keeps its range. -/
theorem writer_and_verifier_agree (hash : Hash φ) (legacy opened : Database φ β) (faults : Faults)
    (born : Legacy legacy) (backfilled : backfillPreAnchor hash faults legacy = .ok opened)
    (actions : List (Action φ β)) :
    let database := unfolds hash opened actions
    (∀ checkpoints : List (Checkpoint φ), (∀ checkpoint ∈ checkpoints, Recorded hash opened actions checkpoint) →
      ((∃ result, verifyAuditHistory hash database checkpoints = .ok (.ok result)) ↔ Gapless database.history)) ∧
    (∀ first last, 0 < first → first ≤ last → last ≤ database.auditSequence →
      last - first + 1 ≤ maxRecoveryAuditSuffixEvents →
      ((∃ suffix, readAuditSuffix hash database first last = .ok suffix) ↔
        Gapless (window first last database.history))) ∧
    (∀ earlier rest checkpointID first last pending, actions = earlier ++ rest →
      auditCheckpointDraft hash (unfolds hash opened earlier) checkpointID first last = .ok pending →
      ∀ signature receipt independent, ∃ range,
        checkAnchored hash database.links.rows (pending.anchored signature receipt independent) = .ok range) := by
  intro database
  have woven := (born.woven backfilled).1
  have reached : Woven hash database := (woven.unfolds actions).1
  have keeps : ∀ earlier rest checkpointID first last pending, actions = earlier ++ rest →
      auditCheckpointDraft hash (unfolds hash opened earlier) checkpointID first last = .ok pending →
      ∀ signature receipt independent, ∃ range,
        checkAnchored hash database.links.rows (pending.anchored signature receipt independent) = .ok range := by
    intro earlier rest checkpointID first last pending split drafted signature receipt independent
    have past := (woven.unfolds earlier).1
    have grown : (unfolds hash opened earlier).links.rows <+: database.links.rows := by
      have onward := (past.unfolds rest).2
      simpa only [database, split, unfolds, List.foldl_append] using onward
    exact past.anchored_range drafted grown signature receipt independent
  refine ⟨?_, ?_, keeps⟩
  · intro checkpoints recorded
    apply reached.verifyAuditHistory_iff
    intro checkpoint member anchored
    obtain open_ | ⟨earlier, rest, id, first, last, pending, signature, receipt, independent, split, drafted, rfl⟩ :=
      recorded checkpoint member
    · exact absurd anchored open_
    · exact keeps earlier rest id first last pending split drafted signature receipt independent
  · intro first last positive order inside bounded
    obtain ⟨count, sequence, ids⟩ := reached.numbered
    exact reached.readAuditSuffix_iff ids positive order (by omega) bounded

omit [DecidableEq φ] in
theorem Database.initial_legacy (instanceID : String) (business : β) :
    Legacy (Database.initial φ instanceID business) :=
  ⟨⟨0, rfl, rfl⟩, rfl, List.Pairwise.nil, fun _ member => by cases member⟩

def appendDraft (key : Nat) : Action Nat Nat :=
  let call := (importDraft none).call
  .invoke (.write { call with request := { call.request with idempotency := ⟨"inventory-draft", key, key⟩ } })
    (Store.initial Nat "instance-1" 0).health

def nextEpoch (epoch : Int) : List (Action Nat Nat) := [.prepareEpoch epoch 0 0, .enterEpoch]

def emptyEpoch : List (Action Nat Nat) := appendDraft 1 :: nextEpoch 1 ++ nextEpoch 2 ++ [appendDraft 2]

def twoEpochs : List (Action Nat Nat) := appendDraft 1 :: nextEpoch 1 ++ [appendDraft 2]

/-- An epoch without an event makes the verifier report an incident about a
history the writer accepted. -/
theorem empty_epoch_is_reported :
    let opened := Database.initial Nat "instance-1" 0
    let database := unfolds numberHash opened emptyEpoch
    backfillPreAnchor numberHash (fun _ => none) opened = .ok opened ∧
      database.history.map (fun event => (event.eventID, event.recoveryEpoch)) = [(1, 0), (2, 2)] ∧
      verifyAuditHistory numberHash database [] = .ok (.error "audit-history-epoch") ∧
      readAuditSuffix numberHash database 1 2 = .error (.coded .integrityFailure "audit-recovery-suffix") := by
  refine ⟨rfl, ?_, ?_, ?_⟩
  · decide +kernel
  · decide +kernel
  · decide +kernel

/-- Two epochs with an event each verify and read back across the boundary. -/
theorem two_epochs_verify :
    let database := unfolds numberHash (Database.initial Nat "instance-1" 0) twoEpochs
    (∃ result, verifyAuditHistory numberHash database [] = .ok (.ok result)) ∧
      ∃ suffix, readAuditSuffix numberHash database 1 2 = .ok suffix := by
  intro database
  obtain ⟨whole, part, -⟩ := writer_and_verifier_agree numberHash _ _ (fun _ => none)
    (Database.initial_legacy "instance-1" 0) rfl twoEpochs
  have epochs : database.history.map Event.recoveryEpoch = [0, 1] := by decide +kernel
  have length : database.auditSequence = 2 := by decide +kernel
  have gapless : Gapless database.history := by
    rw [Gapless, epochs]
    decide
  have partly : Gapless (window 1 2 database.history) := by
    rw [Gapless, map_window, epochs]
    decide
  exact ⟨(whole [] (by simp)).mpr gapless, (part 1 2 (by decide) (by decide) (by rw [length]) (by decide)).mpr partly⟩

end VskLabs.Audit

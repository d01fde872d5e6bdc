import VskLabs.Audit.Segments

/-! Over a whole life of the database every event has its link, and the links
follow one another. -/

namespace VskLabs.Audit
open Library

/-! ### Numbered rows -/

theorem numbering_sorted (count : Nat) : (numbering count).Pairwise (· < ·) := by
  rw [numbering, List.pairwise_map]
  exact List.pairwise_lt_range.imp fun step => by omega

theorem mem_numbering {count : Nat} {id : Int} : id ∈ numbering count ↔ 0 < id ∧ id ≤ count := by
  simp only [numbering, List.mem_map, List.mem_range]
  constructor
  · rintro ⟨index, inside, rfl⟩
    omega
  · rintro ⟨positive, bounded⟩
    exact ⟨(id - 1).toNat, by omega, by omega⟩

section Rows

variable {ρ : Type} {column : ρ → Int} {rows : List ρ} {count : Nat}

theorem orderBy_numbered (ids : rows.map column = numbering count) : orderBy column rows = rows := by
  have sorted := numbering_sorted count
  rw [← ids, List.pairwise_map] at sorted
  exact (sorted.imp fun step => le_of_lt step).insertionSort_eq

theorem length_numbered (ids : rows.map column = numbering count) : rows.length = count := by
  simpa [numbering] using congrArg List.length ids

theorem last_numbered (ids : rows.map column = numbering count) {last : ρ} (found : rows.getLast? = some last) :
    column last = count := by
  have mapped : (rows.map column).getLast? = some (column last) := by rw [List.getLast?_map, found]; rfl
  cases count with
  | zero =>
    rw [ids] at mapped
    cases mapped
  | succ count =>
    rw [ids, numbering_succ, List.getLast?_concat] at mapped
    simpa using (Option.some.inj mapped).symm

end Rows

variable {φ β : Type} [DecidableEq φ] {hash : Hash φ} {database before after : Database φ β}

/-- The state of a database between two transactions: every event has its
sealed link, and the next event of the current epoch can be chained. -/
structure Woven (hash : Hash φ) (database : Database φ β) : Prop where
  numbered : ∃ count : Nat, database.auditSequence = count ∧
    database.events.rows.map EventRow.eventID = numbering count
  payloads : ∀ row ∈ database.events.rows, row.payloadDigest = hash.sum (.event row.event)
  sealed : List.Forall₂ (Sealed hash) database.links.rows (database.events.rows.map EventRow.event)
  ready : Ready database database.recoveryEpoch

omit [DecidableEq φ] in
theorem sealed_ids {links : List (ChainLink φ)} {events : List (Event φ)} (sealed : List.Forall₂ (Sealed hash) links events) :
    links.map (fun link => link.eventID) = events.map Event.eventID := by
  induction sealed with
  | nil => rfl
  | cons first rest ih =>
    rw [List.map_cons, List.map_cons, ih, first.makes.body]

omit [DecidableEq φ] in
theorem sealed_epochs {links : List (ChainLink φ)} {events : List (Event φ)}
    (sealed : List.Forall₂ (Sealed hash) links events) :
    links.map (fun link => link.recoveryEpoch) = events.map Event.recoveryEpoch := by
  induction sealed with
  | nil => rfl
  | cons first rest ih =>
    rw [List.map_cons, List.map_cons, ih, first.makes.body]

omit [DecidableEq φ] in
theorem Woven.linkIDs (woven : Woven hash database) {count : Nat}
    (ids : database.events.rows.map EventRow.eventID = numbering count) :
    database.links.rows.map (fun link => link.eventID) = numbering count := by
  rw [sealed_ids woven.sealed, List.map_map]
  exact ids

omit [DecidableEq φ] in
theorem Woven.enter (woven : Woven hash before) (links : after.links = before.links) (events : after.events = before.events)
    (sequence : after.auditSequence = before.auditSequence) (epoch : after.recoveryEpoch = before.recoveryEpoch + 1) :
    Woven hash after := by
  refine ⟨by rw [sequence, events]; exact woven.numbered, by rw [events]; exact woven.payloads,
    by rw [links, events]; exact woven.sealed, by rw [links]; exact woven.ready.follows, ?_, ?_⟩
  · intro link member
    rw [links] at member
    have bound := woven.ready.bounded link member
    omega
  · intro link member same
    rw [links] at member
    have bound := woven.ready.bounded link member
    omega

theorem Woven.create {call : Call φ β} {event : Event φ} {link : ChainLink φ} (woven : Woven hash before)
    (made : Created hash call event link before after) : Woven hash after := by
  obtain ⟨count, sequence, ids⟩ := woven.numbered
  obtain ⟨id, epoch, -, -, -⟩ := eventFromDraft_eq_some hash made.drafted
  have placed := made.place
  simp only [Prod.mk.injEq] at placed
  obtain ⟨row, -, makes⟩ := made.chained.makes
  have moved := made.sequence
  have here : event.recoveryEpoch = before.recoveryEpoch := epoch.trans placed.1
  have linkEpoch : link.recoveryEpoch = before.recoveryEpoch := by rw [makes.body]; exact here
  have next : ∀ last ∈ before.links.rows.getLast?, event.eventID = last.eventID + 1 := by
    intro last found
    have tail : last.eventID = count := last_numbered (woven.linkIDs ids) found
    rw [id, moved, sequence, tail]
  refine ⟨⟨count + 1, by rw [moved, sequence]; rfl, ?_⟩, ?_, ?_, ?_, ?_, ?_⟩
  · rw [made.events, List.map_append, ids, numbering_succ, ← sequence, ← moved, ← id]
    rfl
  · rw [made.events]
    intro row member
    obtain old | new := List.mem_append.mp member
    · exact woven.payloads row old
    · cases List.mem_singleton.mp new
      rfl
  · rw [made.chained.rows, made.events, List.map_append]
    exact List.rel_append woven.sealed (.cons made.chained.sealed .nil)
  · exact made.chained.follows (here ▸ woven.ready) next
  · rw [made.chained.rows, placed.1]
    intro entry member
    obtain old | new := List.mem_append.mp member
    · exact woven.ready.bounded entry old
    · cases List.mem_singleton.mp new
      exact le_of_eq linkEpoch
  · rw [made.chained.rows, placed.1, placed.2.1]
    intro entry member same
    obtain old | new := List.mem_append.mp member
    · exact woven.ready.home entry old same
    · cases List.mem_singleton.mp new
      rw [makes.body]

omit [DecidableEq φ] in
theorem Woven.unlinked (woven : Woven hash database) : database.unlinked = [] := by
  obtain ⟨count, -, ids⟩ := woven.numbered
  have none : (database.events.rows.filter fun row => (database.links.find? row.eventID).isNone) = [] := by
    rw [List.filter_eq_nil_iff]
    intro row member
    have listed : row.eventID ∈ database.links.rows.map (fun link => link.eventID) := by
      rw [woven.linkIDs ids, ← ids]
      exact List.mem_map_of_mem member
    obtain ⟨link, present, same⟩ := List.mem_map.mp listed
    rw [Table.find?_eq_some_iff.mpr ⟨present, same⟩]
    simp
  rw [Database.unlinked, none]
  rfl

theorem prepareRecoveryAuditEpoch_ok {epoch : Int} {priorCheckpoint recoveryDecision : φ}
    (done : prepareRecoveryAuditEpoch hash before epoch priorCheckpoint recoveryDecision = .ok after) :
    ∃ geneses, after = { before with geneses := geneses } := by
  simp only [prepareRecoveryAuditEpoch, peel] at done
  obtain ⟨_, _, _, _, genesis, _, inserted⟩ := done
  obtain ⟨geneses, same, -⟩ := Database.insertGenesis_ok inserted
  exact ⟨geneses, same⟩

theorem prepareRecoveredAuthority_ok {prior next : String} {epoch : Int} {checkpoint decision : φ}
    (done : prepareRecoveredAuthority hash before prior next epoch checkpoint decision = .ok after) :
    after.links = before.links ∧ after.events = before.events ∧ after.auditSequence = before.auditSequence ∧
      after.recoveryEpoch = before.recoveryEpoch + 1 := by
  simp only [prepareRecoveredAuthority, peel] at done
  obtain ⟨_, _, _, _, _, _, genesis, _, bound, inserted, rfl⟩ := done
  obtain ⟨geneses, rfl, -⟩ := Database.insertGenesis_ok inserted
  exact ⟨rfl, rfl, rfl, rfl⟩

theorem Woven.step (woven : Woven hash database) (action : Action φ β) :
    Woven hash (action.run hash database) ∧ database.links.rows <+: (action.run hash database).links.rows := by
  cases action with
  | invoke invocation health =>
    simp only [Action.run]
    have ended := invocation.ended hash ⟨database, health⟩
    generalize invocation.run hash ⟨database, health⟩ = outcome at ended
    cases ended with
    | failed tracks => exact ⟨woven, List.prefix_rfl⟩
    | replayed current tracks found same => exact ⟨woven, List.prefix_rfl⟩
    | created current made tracks reply => exact ⟨woven.create made, made.chained.rows ▸ List.prefix_append _ _⟩
  | reopen faults =>
    simp only [Action.run, backfillPreAnchor, woven.unlinked, backfillRows, orElse]
    exact ⟨woven, List.prefix_rfl⟩
  | prepareEpoch epoch prior decision =>
    simp only [Action.run]
    cases done : prepareRecoveryAuditEpoch hash database epoch prior decision with
    | error failure => exact ⟨woven, List.prefix_rfl⟩
    | ok bound =>
      obtain ⟨geneses, rfl⟩ := prepareRecoveryAuditEpoch_ok done
      exact ⟨⟨woven.numbered, woven.payloads, woven.sealed, woven.ready.follows, woven.ready.bounded, woven.ready.home⟩,
        List.prefix_rfl⟩
  | enterEpoch => exact ⟨woven.enter rfl rfl rfl rfl, List.prefix_rfl⟩
  | recover prior next epoch checkpoint decision =>
    simp only [Action.run]
    cases done : prepareRecoveredAuthority hash database prior next epoch checkpoint decision with
    | error failure => exact ⟨woven, List.prefix_rfl⟩
    | ok recovered =>
      obtain ⟨links, events, sequence, entered⟩ := prepareRecoveredAuthority_ok done
      refine ⟨woven.enter links events sequence entered, ?_⟩
      simp only [orElse, links]
      exact List.prefix_rfl

theorem Woven.unfolds (woven : Woven hash database) (actions : List (Action φ β)) :
    Woven hash (unfolds hash database actions) ∧
      database.links.rows <+: (VskLabs.Audit.unfolds hash database actions).links.rows := by
  induction actions generalizing database with
  | nil => exact ⟨woven, List.prefix_rfl⟩
  | cons action rest ih =>
    obtain ⟨stepped, grown⟩ := woven.step action
    obtain ⟨reached, longer⟩ := ih stepped
    exact ⟨reached, grown.trans longer⟩

end VskLabs.Audit

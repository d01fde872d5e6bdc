import VskLabs.Audit.History
import VskLabs.Audit.ExactlyOnce
import Mathlib.Data.List.Chain

/-! What the writer guarantees about the links it adds: each follows the last
one, within its segment or as the first of a later epoch. -/

namespace VskLabs.Audit
open Library

/-- The writer's rule for two neighbouring links. It is the verifier's rule but
for the epoch a new segment belongs to, which only has to be a later one. -/
structure Follows {φ : Type} (prior link : ChainLink φ) : Prop where
  next : link.eventID = prior.eventID + 1
  same : link.recoveryEpoch = prior.recoveryEpoch → link.instanceID = prior.instanceID ∧
    link.segmentSequence = prior.segmentSequence + 1 ∧ link.previousDigest = prior.linkDigest
  turn : link.recoveryEpoch ≠ prior.recoveryEpoch →
    prior.recoveryEpoch < link.recoveryEpoch ∧ link.segmentSequence = 1

def Consecutive (prior next : Int) : Prop := next = prior ∨ next = prior + 1

instance (prior next : Int) : Decidable (Consecutive prior next) := inferInstanceAs (Decidable (_ ∨ _))

section Links

variable {φ : Type} {prior link last : ChainLink φ} {links : List (ChainLink φ)}

theorem Follows.adjacent_iff (follows : Follows prior link) :
    Adjacent prior link ↔ Consecutive prior.recoveryEpoch link.recoveryEpoch := by
  constructor
  · intro adjacent
    by_cases same : link.recoveryEpoch = prior.recoveryEpoch
    · exact .inl same
    · exact .inr (adjacent.turn same).1
  · intro consecutive
    refine ⟨follows.next, follows.same, fun differs => ?_⟩
    obtain same | turned := consecutive
    · exact absurd same differs
    · exact ⟨turned, (follows.turn differs).2⟩

theorem adjacent_chain_iff (follows : links.IsChain Follows) :
    links.IsChain Adjacent ↔ (links.map fun link => link.recoveryEpoch).IsChain Consecutive := by
  induction links with
  | nil => simp
  | cons first rest ih =>
    cases rest with
    | nil => simp
    | cons second rest =>
      rw [List.isChain_cons_cons] at follows
      simp only [List.map_cons, List.isChain_cons_cons, follows.1.adjacent_iff] at ih ⊢
      rw [ih follows.2]

def Earlier (prior link : ChainLink φ) : Prop :=
  prior.recoveryEpoch < link.recoveryEpoch ∨
    prior.recoveryEpoch = link.recoveryEpoch ∧ prior.segmentSequence < link.segmentSequence

instance : Trans (Earlier (φ := φ)) Earlier Earlier where
  trans first second := by
    unfold Earlier at *
    omega

theorem Follows.earlier (follows : Follows prior link) : Earlier prior link := by
  by_cases same : link.recoveryEpoch = prior.recoveryEpoch
  · have placed := (follows.same same).2.1
    exact .inr ⟨same.symm, by omega⟩
  · exact .inl (follows.turn same).1

theorem last_of_segment (follows : (links ++ [last]).IsChain Follows) :
    greatestLink ((links ++ [last]).filter fun link => link.recoveryEpoch == last.recoveryEpoch) = some last := by
  have ordered : (links ++ [last]).Pairwise Earlier := (follows.imp fun _ _ step => step.earlier).pairwise
  rw [List.filter_append, List.filter_cons_of_pos (by simp), List.filter_nil, greatestLink, List.argmax_concat]
  cases best : greatestLink (links.filter fun link => link.recoveryEpoch == last.recoveryEpoch) with
  | none =>
    unfold greatestLink at best
    rw [best]
  | some link =>
    unfold greatestLink at best
    rw [best]
    obtain ⟨member, epoch⟩ := List.mem_filter.mp (List.argmax_mem best)
    have earlier := (List.pairwise_append.mp ordered).2.2 link member last (by simp)
    simp only [checks] at epoch
    have smaller : link.segmentSequence < last.segmentSequence := by
      unfold Earlier at earlier
      omega
    simp [smaller]

end Links

section Writer

variable {φ β : Type} {hash : Hash φ} {event : Event φ} {ids : ContextIDs} {preAnchor : Bool} {link : ChainLink φ}
  {before after : Database φ β}

theorem Makes.self {instanceID : String} {segmentSequence : Int} {previous : φ}
    (makes : Makes hash event ids instanceID segmentSequence previous preAnchor link) :
    Makes hash event link.context link.instanceID link.segmentSequence link.previousDigest link.preAnchor link := by
  have body := makes.body
  rw [makes.context]
  refine ⟨?_, ?_, ?_, makes.canonical, makes.bounded, ?_, makes.context, makes.sealed⟩
  · rw [body]
    exact makes.token
  · rw [body]
    exact makes.positive
  · rw [body]
    exact makes.follows
  · rw [body]

theorem Chained.sealed (chained : Chained hash event ids preAnchor link before after) : Sealed hash link event := by
  obtain ⟨row, -, makes⟩ := chained.makes
  refine ⟨?_, ?_, makes.self⟩
  · have canonical := makes.canonical
    simp only [Event.canonical, checks] at canonical
    rw [makes.body]
    tauto
  · rw [makes.sealed, hash.sum_valid]

/-- What a database must satisfy so that an event of an epoch can be chained:
no later epoch has been started, and its segment belongs to this instance. -/
structure Ready (database : Database φ β) (epoch : Int) : Prop where
  follows : database.links.rows.IsChain Follows
  bounded : ∀ link ∈ database.links.rows, link.recoveryEpoch ≤ epoch
  home : ∀ link ∈ database.links.rows, link.recoveryEpoch = epoch → link.instanceID = database.instanceID

theorem Chained.follows (chained : Chained hash event ids preAnchor link before after)
    (ready : Ready before event.recoveryEpoch)
    (next : ∀ last ∈ before.links.rows.getLast?, event.eventID = last.eventID + 1) :
    after.links.rows.IsChain Follows := by
  obtain ⟨row, -, makes⟩ := chained.makes
  have body := makes.body
  rw [chained.rows]
  obtain empty | ⟨older, last, split⟩ := List.eq_nil_or_concat' before.links.rows
  · rw [empty]
    exact List.isChain_singleton link
  have followed := ready.follows
  have newest : before.links.rows.getLast? = some last := by rw [split, List.getLast?_concat]
  have member : last ∈ before.links.rows := by rw [split]; simp
  refine List.IsChain.append ready.follows (List.isChain_singleton link) ?_
  intro prior held other head
  cases newest.symm.trans (Option.mem_def.mp held)
  cases Option.mem_def.mp head
  have id := next last newest
  by_cases same : last.recoveryEpoch = event.recoveryEpoch
  · -- The segment goes on: the last link of the epoch is the last of all.
    have found : before.lastLink event.recoveryEpoch = some last := by
      rw [split] at followed
      rw [Database.lastLink, split, ← same]
      exact last_of_segment followed
    refine ⟨by rw [body]; exact id, fun _ => ⟨?_, ?_, ?_⟩, fun differs => ?_⟩
    · rw [body, ready.home last member same]
    · rw [body]
      simp [Database.nextSequence, found]
    · rw [body]
      simp [Database.nextPrevious, found]
    · rw [body] at differs
      exact absurd same.symm differs
  · -- A later epoch starts, so no link of it exists yet.
    have earlier := ready.bounded last member
    have found : before.lastLink event.recoveryEpoch = none := by
      rw [Database.lastLink, greatestLink, List.argmax_eq_none, List.filter_eq_nil_iff]
      intro entry present
      rw [split] at followed present
      have ordered : (older ++ [last]).Pairwise Earlier := (followed.imp fun _ _ step => step.earlier).pairwise
      simp only [checks]
      obtain deeper | newest := List.mem_append.mp present
      · have place := (List.pairwise_append.mp ordered).2.2 entry deeper last (by simp)
        unfold Earlier at place
        omega
      · cases List.mem_singleton.mp newest
        exact same
    refine ⟨by rw [body]; exact id, fun back => ?_, fun _ => ⟨?_, ?_⟩⟩
    · rw [body] at back
      exact absurd back.symm same
    · rw [body]
      dsimp only
      omega
    · rw [body]
      simp [Database.nextSequence, found]

end Writer

end VskLabs.Audit

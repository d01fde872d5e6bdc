import VskLabs.Recovery.Resumption

/-! The pending promotion. `PendingPromotion` refuses to choose between two candidates;
whether there can be two is decided by the calls that make one pending. -/

namespace VskLabs.Recovery
open Library

variable {restores later : Restores} {planID : String}

/-! ### One call -/

variable {binding : RestoreBinding} {expected : Expected}

theorem createPlan_cases (done : restores.createPlan binding expected = .ok later) :
    later = restores ∨ ∃ sessions, restores.sessions.insert? ⟨binding, expected.stateRevision⟩ = some sessions ∧
      later = { restores with sessions := sessions } := by
  unfold Restores.createPlan at done
  simp only [↓ensure_bind, bind_eq_ok, require_eq_ok] at done
  obtain ⟨valid, _, current, plan, planned, row, acknowledged, bound, done⟩ := done
  split at done
  next sessions inserted =>
    cases done
    split at inserted
    · cases inserted
    · exact .inr ⟨sessions, inserted, rfl⟩
  next =>
    simp only [peel] at done
    obtain ⟨_, _, rfl⟩ := done
    exact .inl rfl

theorem appendTransition_cases {row : RestoreTransition} (done : restores.appendTransition row = .ok later) :
    later = restores ∨ (allowedRestoreTransition row.source row.target = true ∧
      (∀ other ∈ restores.transitions, other.planID = row.planID → other.source ≠ row.source) ∧
      later = { restores with transitions := restores.transitions ++ [row] }) := by
  simp only [Restores.appendTransition, peel, checks] at done
  obtain ⟨_, ⟨_, allowed⟩, _, _, _, _, _, _, done⟩ := done
  split at done
  · simp only [peel] at done
    obtain ⟨_, _, rfl⟩ := done
    exact .inl rfl
  · simp only [peel] at done
    obtain ⟨_, unique, rfl⟩ := done
    exact .inr ⟨allowed, by simpa using unique, rfl⟩

variable {row : RecoveryCandidate}

theorem bindCandidate_cases (done : restores.bindCandidate row = .ok later) :
    later = restores ∨ ((restores.sessions.find? row.planID).isSome = true ∧
      ∃ candidates, restores.candidates.insert? row = some candidates ∧ later = { restores with candidates := candidates }) := by
  simp only [Restores.bindCandidate, peel] at done
  obtain ⟨_, _, session, found, _, _, _, _, done⟩ := done
  split at done
  next candidates inserted =>
    cases done
    split at inserted
    · cases inserted
    · exact .inr ⟨by rw [found]; rfl, candidates, inserted, rfl⟩
  next =>
    simp only [peel] at done
    obtain ⟨_, _, rfl⟩ := done
    exact .inl rfl

theorem status_append_other {row : RestoreTransition} (other : row.planID ≠ planID) :
    ({ restores with transitions := restores.transitions ++ [row] } : Restores).status planID = restores.status planID := by
  simp [Restores.status, other]

/-! ### A session that has left `verification-required` -/

/-- The transition into `verification-required` is recorded. -/
def Passed (planID : String) (restores : Restores) : Prop :=
  ∃ row ∈ restores.transitions, row.planID = planID ∧ row.source = .restoring

theorem source_of_allowed {source : RestoreStatus} (allowed : allowedRestoreTransition source .verificationRequired = true) :
    source = .restoring := by
  cases source <;> first | rfl | cases allowed

variable {other : String}

theorem Passed.step (passed : Passed planID restores) (step : restores.Step other later) :
    Passed planID later := by
  cases step with
  | created _ done => obtain rfl | ⟨_, _, rfl⟩ := createPlan_cases done <;> exact passed
  | bound _ done => obtain rfl | ⟨_, _, _, rfl⟩ := bindCandidate_cases done <;> exact passed
  | moved _ done =>
    obtain rfl | ⟨_, _, rfl⟩ := appendTransition_cases done
    · exact passed
    · obtain ⟨row, member, transition⟩ := passed
      exact ⟨row, List.mem_append_left _ member, transition⟩

theorem Passed.elsewhere (passed : Passed planID restores) (elsewhere : restores.status planID ≠ .verificationRequired)
    (step : restores.Step other later) : later.status planID ≠ .verificationRequired := by
  cases step with
  | created _ done => obtain rfl | ⟨_, _, rfl⟩ := createPlan_cases done <;> exact elsewhere
  | bound _ done => obtain rfl | ⟨_, _, _, rfl⟩ := bindCandidate_cases done <;> exact elsewhere
  | @moved row _ done =>
    obtain rfl | ⟨allowed, unique, rfl⟩ := appendTransition_cases done
    · exact elsewhere
    · by_cases same : row.planID = planID
      · -- The one transition into the status starts at `restoring`, which is taken.
        subst same
        obtain ⟨before, member, on, source⟩ := passed
        rw [status_append]
        intro target
        rw [target] at allowed
        exact unique before member on (source.trans (source_of_allowed allowed).symm)
      · rw [status_append_other same]
        exact elsewhere

def Recorded (restores : Restores) : Prop :=
  ∀ row ∈ restores.transitions, allowedRestoreTransition row.source row.target = true

theorem Recorded.step (recorded : Recorded restores) (step : restores.Step other later) : Recorded later := by
  cases step with
  | created _ done => obtain rfl | ⟨_, _, rfl⟩ := createPlan_cases done <;> exact recorded
  | bound _ done => obtain rfl | ⟨_, _, _, rfl⟩ := bindCandidate_cases done <;> exact recorded
  | moved _ done =>
    obtain rfl | ⟨allowed, _, rfl⟩ := appendTransition_cases done
    · exact recorded
    · intro row member
      rcases List.mem_append.mp member with old | new
      · exact recorded row old
      · cases List.mem_singleton.mp new
        exact allowed

theorem Recorded.passed (recorded : Recorded restores) (pending : restores.status planID = .verificationRequired) :
    Passed planID restores := by
  unfold Restores.status at pending
  cases last : (restores.transitions.filter fun row => row.planID == planID).getLast? with
  | none => simp [last] at pending
  | some row =>
    obtain ⟨member, on⟩ := List.mem_filter.mp (List.mem_of_getLast? last)
    have target : row.target = .verificationRequired := by simpa [last] using pending
    have allowed := recorded row member
    rw [target] at allowed
    exact ⟨row, member, beq_iff_eq.mp on, source_of_allowed allowed⟩

/-! ### The candidates that are pending -/

def Lone (planID : String) (restores : Restores) : Prop := ∀ row ∈ restores.pending, row.planID = planID

structure Exclusive (restores : Restores) : Prop where
  backed : ∀ row ∈ restores.candidates.rows, (restores.sessions.find? row.planID).isSome = true
  single : ∀ one ∈ restores.pending, ∀ two ∈ restores.pending, one.planID = two.planID

theorem mem_pending : row ∈ restores.pending ↔ row ∈ restores.candidates.rows ∧
    (restores.sessions.find? row.planID).isSome = true ∧ restores.status row.planID = .verificationRequired := by
  simp [Restores.pending]

theorem Exclusive.pendingPromotion (exclusive : Exclusive restores) : ∃ promotion, restores.pendingPromotion = .ok promotion := by
  have distinct : (restores.pending.map RecoveryCandidate.planID).Nodup :=
    restores.candidates.distinct.sublist (List.filter_sublist.map _)
  have single := exclusive.single
  unfold Restores.pendingPromotion
  split
  · exact ⟨_, rfl⟩
  · exact ⟨_, rfl⟩
  next several one =>
    cases found : restores.pending with
    | nil => exact absurd found several
    | cons first rest =>
      cases rest with
      | nil => exact absurd found (one first)
      | cons second rest =>
        rw [found] at distinct single
        have same := single first (by simp) second (by simp)
        simp [same] at distinct

theorem pending_created (exclusive : Exclusive restores)
    (done : restores.createPlan binding expected = .ok later) : later.pending ⊆ restores.pending := by
  obtain rfl | ⟨_, _, rfl⟩ := createPlan_cases done
  · exact fun _ => id
  · intro row member
    obtain ⟨stored, _, status⟩ := mem_pending.mp member
    exact mem_pending.mpr ⟨stored, exclusive.backed row stored, status⟩

theorem pending_moved {moved : RestoreTransition} (done : restores.appendTransition moved = .ok later)
    (member : row ∈ later.pending) :
    row ∈ restores.pending ∨ (row.planID = moved.planID ∧ moved.target = .verificationRequired) := by
  obtain rfl | ⟨_, _, rfl⟩ := appendTransition_cases done
  · exact .inl member
  · obtain ⟨stored, session, status⟩ := mem_pending.mp member
    by_cases same : moved.planID = row.planID
    · rw [← same, status_append] at status
      exact .inr ⟨same.symm, status⟩
    · rw [status_append_other same] at status
      exact .inl (mem_pending.mpr ⟨stored, session, status⟩)

theorem pending_bound {bound : RecoveryCandidate} (done : restores.bindCandidate bound = .ok later)
    (member : row ∈ later.pending) : row ∈ restores.pending ∨ row.planID = bound.planID := by
  obtain rfl | ⟨_, _, inserted, rfl⟩ := bindCandidate_cases done
  · exact .inl member
  · obtain ⟨stored, session, status⟩ := mem_pending.mp member
    rcases (Table.mem_insert? inserted).mp stored with old | rfl
    · exact .inl (mem_pending.mpr ⟨old, session, status⟩)
    · exact .inr rfl

theorem Exclusive.backed_step (exclusive : Exclusive restores) (step : restores.Step planID later) :
    ∀ row ∈ later.candidates.rows, (later.sessions.find? row.planID).isSome = true := by
  intro row stored
  cases step with
  | created _ done =>
    obtain rfl | ⟨sessions, inserted, rfl⟩ := createPlan_cases done
    · exact exclusive.backed row stored
    · obtain ⟨session, found⟩ := Option.isSome_iff_exists.mp (exclusive.backed row stored)
      exact Option.isSome_iff_exists.mpr ⟨session, (Table.extends_of_insert? inserted).find? found⟩
  | moved _ done =>
    obtain rfl | ⟨_, _, rfl⟩ := appendTransition_cases done <;> exact exclusive.backed row stored
  | bound _ done =>
    obtain rfl | ⟨session, _, inserted, rfl⟩ := bindCandidate_cases done
    · exact exclusive.backed row stored
    · rcases (Table.mem_insert? inserted).mp stored with old | rfl
      · exact exclusive.backed row old
      · exact session

theorem Exclusive.step (exclusive : Exclusive restores) (lone : Lone planID restores) (step : restores.Step planID later) :
    Exclusive later ∧ Lone planID later := by
  have still : Lone planID later := by
    intro row member
    cases step with
    | created _ done => exact lone row (pending_created exclusive done member)
    | moved concerns done =>
      rcases pending_moved done member with old | ⟨same, _⟩
      · exact lone row old
      · exact same.trans concerns
    | bound concerns done =>
      rcases pending_bound done member with old | same
      · exact lone row old
      · exact same.trans concerns
  exact ⟨⟨exclusive.backed_step step, fun one first two second => (still one first).trans (still two second).symm⟩, still⟩

theorem Exclusive.fewer (exclusive : Exclusive restores) (step : restores.Step planID later)
    (fewer : later.pending ⊆ restores.pending) : Exclusive later :=
  ⟨exclusive.backed_step step, fun one first two second => exclusive.single one (fewer first) two (fewer second)⟩

/-! ### Histories -/

/-- What happens to the tables. A run may end in a crash after some of its writes; runs
that overlap are their calls one by one. -/
inductive Event where
  | others (system : SystemMeta) (plans : Table RestorePlan.planID) (acknowledgements : Table Acknowledged.acknowledgementID)
  | createPlan (binding : RestoreBinding) (expected : Expected)
  | appendTransition (row : RestoreTransition)
  | bindCandidate (row : RecoveryCandidate)
  | run (request : RunRequest) (crash : Option Nat)

def World.call (world : World) (change : Restores → Except Failure Restores) : World :=
  match change world.restores with
  | .ok restores => { world with restores }
  | .error _ => world

def World.step (world : World) : Event → World
  | .others system plans acknowledgements =>
    { world with restores := { world.restores with system, plans, acknowledgements } }
  | .createPlan binding expected => world.call fun restores => restores.createPlan binding expected
  | .appendTransition row => world.call fun restores => restores.appendTransition row
  | .bindCandidate row => world.call fun restores => restores.bindCandidate row
  | .run request crash => (Recovery.run request).cutOff world crash

/-- An event that can make a candidate pending happens while no other plan has one. -/
def Alone (world : World) : Event → Prop
  | .appendTransition row => row.target = .verificationRequired → Lone row.planID world.restores
  | .bindCandidate row => Lone row.planID world.restores
  | .run request _ => Lone request.binding.planID world.restores
  | _ => True

instance instDecidableAlone (world : World) : (event : Event) → Decidable (Alone world event)
  | .others _ _ _ => instDecidableTrue
  | .createPlan _ _ => instDecidableTrue
  | .appendTransition row => inferInstanceAs (Decidable (_ → ∀ other ∈ world.restores.pending, other.planID = row.planID))
  | .bindCandidate row => inferInstanceAs (Decidable (∀ other ∈ world.restores.pending, other.planID = row.planID))
  | .run request _ => inferInstanceAs (Decidable (∀ other ∈ world.restores.pending, other.planID = request.binding.planID))

variable {world : World} {property : Restores → Prop}

theorem holds_call {change : Restores → Except Failure Restores} (holds : property world.restores)
    (keeps : ∀ later, change world.restores = .ok later → property later) : property (world.call change).restores := by
  unfold World.call
  split
  next later done => exact keeps later done
  next => exact holds

theorem holds_run (request : RunRequest) (crash : Option Nat) (holds : property world.restores)
    (keeps : ∀ restores later, property restores → restores.Step request.binding.planID later → property later) :
    property (world.step (.run request crash)).restores := by
  have kept := keeps_run (fun before after holds files => by rw [files.restores]; exact holds)
    (fun before restores holds step => keeps before.restores restores holds step) request rfl
  exact kept.cutOff holds crash

theorem holds_execute (property : Restores → Prop) (world : World) (events : List Event) (holds : property world.restores)
    (others : ∀ restores system plans acknowledgements, property restores →
      property { restores with system := system, plans := plans, acknowledgements := acknowledgements })
    (keeps : ∀ restores planID later, property restores → restores.Step planID later → property later) :
    property (execute World.step world events).restores := by
  refine @execute_invariant _ _ _ _ _ (fun world : World => property world.restores) holds fun world event holds => ?_
  cases event with
  | others system plans acknowledgements => exact others _ _ _ _ holds
  | createPlan binding expected => exact holds_call holds fun later done => keeps _ _ later holds (.created rfl done)
  | appendTransition row => exact holds_call holds fun later done => keeps _ _ later holds (.moved rfl done)
  | bindCandidate row => exact holds_call holds fun later done => keeps _ _ later holds (.bound rfl done)
  | run request crash => exact holds_run request crash holds fun restores later => keeps restores _ later

theorem Exclusive.event (exclusive : Exclusive world.restores) {event : Event} (alone : Alone world event) :
    Exclusive (world.step event).restores := by
  cases event with
  | others system plans acknowledgements => exact ⟨exclusive.backed, exclusive.single⟩
  | createPlan binding expected =>
    exact holds_call exclusive fun later done => exclusive.fewer (.created rfl done) (pending_created exclusive done)
  | appendTransition row =>
    refine holds_call exclusive fun later done => ?_
    by_cases promotes : row.target = .verificationRequired
    · exact (exclusive.step (alone promotes) (.moved rfl done)).1
    · refine exclusive.fewer (.moved rfl done) fun candidate member => ?_
      exact (pending_moved done member).resolve_right fun moved => promotes moved.2
  | bindCandidate row => exact holds_call exclusive fun later done => (exclusive.step alone (.bound rfl done)).1
  | run request crash =>
    exact (@holds_run world (fun restores => Exclusive restores ∧ Lone request.binding.planID restores) request crash
      ⟨exclusive, alone⟩ fun restores later both step => both.1.step both.2 step).1

structure Unstarted (world : World) : Prop where
  sessions : world.restores.sessions.rows = []
  transitions : world.restores.transitions = []
  candidates : world.restores.candidates.rows = []

theorem Unstarted.exclusive (unstarted : Unstarted world) : Exclusive world.restores := by
  refine ⟨by simp [unstarted.candidates], fun one first => ?_⟩
  simp [Restores.pending, unstarted.candidates] at first

/-- There is one pending promotion or none, as long as a candidate is only made pending while
no other plan has one. A plan that has left the pending state never returns to it. -/
theorem pending_promotion_is_single (unstarted : Unstarted world) :
    (∀ events, Throughout World.step Alone world events →
      ∃ promotion, (execute World.step world events).restores.pendingPromotion = .ok promotion) ∧
    ∀ events between later planID,
      (execute World.step world events).restores.status planID = .verificationRequired →
      (execute World.step world (events ++ between)).restores.status planID ≠ .verificationRequired →
      (execute World.step world (events ++ between ++ later)).restores.status planID ≠ .verificationRequired := by
  constructor
  · intro events alone
    have exclusive := @Throughout.invariant _ _ _ _ _ _ (fun world => Exclusive world.restores) alone unstarted.exclusive
      fun _ _ exclusive alone => exclusive.event alone
    exact exclusive.pendingPromotion
  · intro events between later planID reached left
    have recorded := holds_execute Recorded world events (by simp [Recorded, unstarted.transitions]) (fun _ _ _ _ => id)
      fun _ _ _ recorded step => recorded.step step
    rw [execute_append] at left
    have passed := holds_execute (Passed planID) _ between (recorded.passed reached) (fun _ _ _ _ => id)
      fun _ _ _ passed step => passed.step step
    rw [execute_append, execute_append]
    exact (holds_execute (fun restores => Passed planID restores ∧ restores.status planID ≠ .verificationRequired) _ later
      ⟨passed, left⟩ (fun _ _ _ _ => id) fun _ _ _ gone step => ⟨gone.1.step step, gone.1.elsewhere gone.2 step⟩).2

theorem lone_restore_is_promoted :
    ∃ promotion, (execute World.step approved [.run firstRun none]).restores.pendingPromotion = .ok promotion :=
  (pending_promotion_is_single ⟨rfl, rfl, rfl⟩).1 [.run firstRun none] (by decide +kernel)

/-- Two approved plans of one epoch run one after the other, and no start may choose. -/
theorem second_restore_blocks_promotion :
    (execute World.step approved [.run firstRun none, .run secondRun none]).restores.pendingPromotion =
      .error (.coded .integrityFailure "recovery-candidate") := by
  decide +kernel

end VskLabs.Recovery

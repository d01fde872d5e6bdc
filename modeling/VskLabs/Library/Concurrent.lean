import VskLabs.Library.Program

/-! Interleaved programs over one shared state. Threads issue their calls one
at a time in any order, a crash discards every continuation, and the history
keeps each answered call with the states around it. -/

namespace Library

/-- How calls act on the shared state. An answer is the environment's choice
for one call: a fault, a clock reading, the outcome of an outside effect. -/
structure Service (Q : Type) (R : Q → Type) where
  (State Answer : Type)
  respond : (query : Q) → Answer → State → Option (R query × State)

variable {Q : Type} {R : Q → Type}

/-- One answered call: who issued it and the shared state around it. -/
structure Entry (service : Service Q R) where
  thread : Nat
  event : Event Q R
  before : service.State
  after : service.State

/-- The threads, `none` after they were lost in a crash, and the answered
calls, newest first. -/
structure System (service : Service Q R) where
  state : service.State
  threads : List (Option (Program Q R Unit))
  history : List (Entry service)

inductive Action (service : Service Q R) (E : Type) where
  | spawn (entry : E)
  | answer (thread : Nat) (choice : service.Answer)
  | crash

/-- Every element of a newest-first list is admitted by what came before it. -/
def Along {ε : Type} (admits : List ε → ε → Prop) : List ε → Prop
  | [] => True
  | last :: earlier => admits earlier last ∧ Along admits earlier

/-- The calls and replies of one thread, newest first. -/
def eventsOf {service : Service Q R} (thread : Nat) : List (Entry service) → List (Event Q R)
  | [] => []
  | last :: earlier =>
    if last.thread = thread then last.event :: eventsOf thread earlier else eventsOf thread earlier

theorem mem_eventsOf {service : Service Q R} {thread : Nat} {history : List (Entry service)} {event : Event Q R}
    (member : event ∈ eventsOf thread history) : ∃ record ∈ history, record.thread = thread ∧ record.event = event := by
  induction history with
  | nil => cases member
  | cons last earlier ih =>
    unfold eventsOf at member
    split at member
    next same =>
      rcases List.mem_cons.mp member with rfl | old
      · exact ⟨last, .head _, same, rfl⟩
      · obtain ⟨record, present, found⟩ := ih old
        exact ⟨record, .tail _ present, found⟩
    next =>
      obtain ⟨record, present, found⟩ := ih member
      exact ⟨record, .tail _ present, found⟩

namespace System

variable {service : Service Q R} {E : Type}

def boot (state : service.State) : System service := ⟨state, [], []⟩

def step (programs : E → Program Q R Unit) (system : System service) :
    Action service E → Option (System service)
  | .spawn entry => some { system with threads := system.threads ++ [some (programs entry)] }
  | .crash => some { system with threads := system.threads.map fun _ => none }
  | .answer thread choice =>
    match system.threads[thread]? with
    | some (some (.request query next)) =>
      match service.respond query choice system.state with
      | some (reply, after) => some {
          state := after
          threads := system.threads.set thread (some (next reply))
          history := ⟨thread, ⟨query, reply⟩, system.state, after⟩ :: system.history }
      | none => none
    | _ => none

def run (programs : E → Program Q R Unit) : System service → List (Action service E) → Option (System service)
  | system, [] => some system
  | system, action :: rest => (system.step programs action).bind fun next => next.run programs rest

variable {credible : (query : Q) → R query → Prop} {allowed : List (Event Q R) → Q → Prop}
  {programs : E → Program Q R Unit}

/-- The calls that did not yet answer are allowed by their thread's past, and
new threads start without one. -/
structure Disciplined (credible : (query : Q) → R query → Prop) (allowed : List (Event Q R) → Q → Prop)
    (system : System service) : Prop where
  recorded : ∀ entry ∈ system.history, entry.thread < system.threads.length
  obeys : ∀ (thread : Nat) (program : Program Q R Unit), system.threads[thread]? = some (some program) →
    program.Obeys credible allowed (fun _ _ => True) (eventsOf thread system.history)

variable {history newer older : List (Entry service)} {system last : System service}
  {actions : List (Action service E)} {state initial final : service.State} {entry : Entry service}

theorem eventsOf_eq_nil {thread : Nat}
    (absent : ∀ entry ∈ history, entry.thread ≠ thread) : eventsOf thread history = [] := by
  induction history with
  | nil => rfl
  | cons last earlier ih =>
    simp only [eventsOf, absent last (.head _), ↓reduceIte]
    exact ih fun entry member => absent entry (.tail _ member)

theorem Disciplined.boot (state : service.State) : Disciplined credible allowed (boot state) :=
  ⟨by simp [System.boot], by simp [System.boot]⟩

/-- What one action can do: start a thread, lose all of them, or answer one
allowed call. -/
theorem step_cases {next : System service} {action : Action service E}
    (disciplined : Disciplined credible allowed system)
    (fresh : ∀ entry, (programs entry).Obeys credible allowed (fun _ _ => True) [])
    (believed : ∀ query choice reply after,
      service.respond query choice system.state = some (reply, after) → credible query reply)
    (stepped : system.step programs action = some next) :
    Disciplined credible allowed next ∧
      ((next.state = system.state ∧ next.history = system.history) ∨
        ∃ thread query choice reply, allowed (eventsOf thread system.history) query ∧
          service.respond query choice system.state = some (reply, next.state) ∧
          next.history = ⟨thread, ⟨query, reply⟩, system.state, next.state⟩ :: system.history) := by
  cases action with
  | spawn entry =>
    simp only [step, Option.some.injEq] at stepped
    subst stepped
    refine ⟨⟨?_, ?_⟩, .inl ⟨rfl, rfl⟩⟩
    · intro old member
      exact Nat.lt_of_lt_of_le (disciplined.recorded old member) (by simp)
    · intro thread program found
      rcases Nat.lt_trichotomy thread system.threads.length with inside | rfl | outside
      · rw [List.getElem?_append_left inside] at found
        exact disciplined.obeys thread program found
      · rw [List.getElem?_append_right (Nat.le_refl _)] at found
        simp only [Nat.sub_self, List.getElem?_cons_zero, Option.some.injEq] at found
        subst found
        rw [eventsOf_eq_nil fun old member => Nat.ne_of_lt (disciplined.recorded old member)]
        exact fresh entry
      · rw [List.getElem?_eq_none (by simpa using Nat.succ_le_of_lt outside)] at found
        cases found
  | crash =>
    simp only [step, Option.some.injEq] at stepped
    subst stepped
    refine ⟨⟨by simpa using disciplined.recorded, ?_⟩, .inl ⟨rfl, rfl⟩⟩
    intro thread program found
    rw [List.getElem?_map, Option.map_eq_some_iff] at found
    obtain ⟨_, _, impossible⟩ := found
    cases impossible
  | answer thread choice =>
    simp only [step] at stepped
    split at stepped
    next query rest waiting =>
      split at stepped
      next reply after responded =>
        cases stepped
        have inside : thread < system.threads.length := (List.getElem?_eq_some_iff.mp waiting).1
        have permitted := disciplined.obeys thread _ waiting
        refine ⟨⟨?_, ?_⟩, .inr ⟨thread, query, choice, reply, permitted.1, responded, rfl⟩⟩
        · intro old member
          rw [List.length_set]
          rcases List.mem_cons.mp member with rfl | earlier
          · exact inside
          · exact disciplined.recorded old earlier
        · intro other program found
          by_cases same : thread = other
          · subst same
            rw [List.getElem?_set_self inside, Option.some.injEq, Option.some.injEq] at found
            subst found
            simpa only [eventsOf, ↓reduceIte] using permitted.2 reply (believed _ _ _ _ responded)
          · rw [List.getElem?_set_ne same] at found
            simpa only [eventsOf, if_neg same] using disciplined.obeys other program found
      next => cases stepped
    next => cases stepped

/-- A recorded call was permitted to its thread, and it is what the service
answered in a state with the given property. -/
structure Recorded (property : service.State → Prop) (allowed : List (Event Q R) → Q → Prop)
    (earlier : List (Entry service)) (entry : Entry service) : Prop where
  before : property entry.before
  permitted : allowed (eventsOf entry.thread earlier) entry.event.call
  answered : ∃ choice, service.respond entry.event.call choice entry.before = some (entry.event.reply, entry.after)

/-- A property that makes replies credible and that permitted calls keep holds
around every recorded call, and every recorded call was permitted. -/
theorem Recorded.of_boot (property : service.State → Prop)
    (believes : ∀ query choice state reply after, property state →
      service.respond query choice state = some (reply, after) → credible query reply)
    (keeps : ∀ past query choice state reply after, property state → allowed past query →
      service.respond query choice state = some (reply, after) → property after)
    (fresh : ∀ entry, (programs entry).Obeys credible allowed (fun _ _ => True) []) (initial : property state)
    (ran : (boot state).run programs actions = some last) :
    property last.state ∧ Along (Recorded property allowed) last.history := by
  suffices reached : ∀ system : System service, Disciplined credible allowed system → property system.state →
      Along (Recorded property allowed) system.history → system.run programs actions = some last →
        property last.state ∧ Along (Recorded property allowed) last.history from
    reached (boot state) (.boot state) initial trivial ran
  clear ran
  intro system disciplined holds recorded ran
  induction actions generalizing system with
  | nil => cases ran; exact ⟨holds, recorded⟩
  | cons action rest ih =>
    obtain ⟨next, stepped, ran⟩ := Option.bind_eq_some_iff.mp ran
    obtain ⟨later, ⟨state, history⟩ | ⟨thread, query, choice, reply, permitted, responded, grown⟩⟩ :=
      step_cases disciplined fresh (fun query choice reply after => believes query choice _ reply after holds) stepped
    · exact ih next later (by rw [state]; exact holds) (by rw [history]; exact recorded) ran
    · refine ih next later (keeps _ _ _ _ _ _ holds permitted responded) ?_ ran
      rw [grown]
      exact ⟨⟨holds, permitted, choice, responded⟩, recorded⟩

/-- What holds along a history holds of each call with the calls before it. -/
theorem along_split {ε : Type} {admits : List ε → ε → Prop} {history newer older : List ε} {entry : ε}
    (along : Along admits history) (split : history = newer ++ entry :: older) :
    admits older entry ∧ Along admits older := by
  induction newer generalizing history with
  | nil =>
    subst split
    exact along
  | cons last rest ih =>
    subst split
    exact ih along.2 rfl

theorem along_and {ε : Type} {admits : List ε → ε → Prop} {property : ε → Prop} {history : List ε}
    (along : Along admits history) (all : ∀ entry ∈ history, property entry) :
    Along (fun earlier entry => admits earlier entry ∧ property entry) history := by
  induction history with
  | nil => trivial
  | cons last earlier ih =>
    obtain ⟨here, others⟩ := List.forall_mem_cons.mp all
    exact ⟨⟨along.1, here⟩, ih along.2 others⟩

/-- A property of states that every answer keeps holds around every recorded
call, and each of them is an answer of the service. -/
theorem run_answered (property : service.State → Prop)
    (keeps : ∀ query choice state reply after, property state →
      service.respond query choice state = some (reply, after) → property after) (initial : property state)
    (ran : (boot state).run programs actions = some last) :
    property last.state ∧ ∀ entry ∈ last.history, property entry.before ∧
      ∃ choice, service.respond entry.event.call choice entry.before = some (entry.event.reply, entry.after) := by
  have trusting : ∀ (query : Q) (_ : R query), True := fun _ _ => trivial
  have reached := Recorded.of_boot property (fun query _ _ reply _ _ _ => trusting query reply)
    (fun _ query choice before reply after holds (_ : True) responded => keeps query choice before reply after holds responded)
    (fun entry => Program.obeys_of_all (fun _ _ => trivial) (programs entry)) initial ran
  refine ⟨reached.1, fun entry member => ?_⟩
  obtain ⟨newer, older, split⟩ := List.append_of_mem member
  have recorded := (along_split reached.2 split).1
  exact ⟨recorded.before, recorded.answered⟩

/-- Each recorded call starts in the state the one before it left. -/
def Linked (initial : service.State) : List (Entry service) → service.State → Prop
  | [], final => final = initial
  | last :: earlier, final => final = last.after ∧ Linked initial earlier last.before

theorem run_linked
    (linked : Linked initial system.history system.state) (ran : system.run programs actions = some last) :
    Linked initial last.history last.state := by
  induction actions generalizing system with
  | nil => cases ran; exact linked
  | cons action rest ih =>
    obtain ⟨next, stepped, ran⟩ := Option.bind_eq_some_iff.mp ran
    refine ih ?_ ran
    cases action with
    | spawn entry => cases stepped; exact linked
    | crash => cases stepped; exact linked
    | answer thread choice =>
      simp only [System.step] at stepped
      split at stepped
      · split at stepped
        · cases stepped
          exact ⟨rfl, linked⟩
        · cases stepped
      · cases stepped

theorem Linked.of_boot
    (ran : (boot state).run programs actions = some last) : Linked state last.history last.state := by
  have start : Linked state (boot state).history (boot state).state := rfl
  exact run_linked start ran

theorem Linked.split (linked : Linked initial (newer ++ entry :: older) final) : Linked initial older entry.before := by
  induction newer generalizing final with
  | nil => exact linked.2
  | cons last rest ih => exact ih linked.2

/-- What holds at first and what every admitted call keeps holds at the end. -/
theorem Linked.invariant {inv : service.State → List (Entry service) → Prop}
    {admits : List (Entry service) → Entry service → Prop} (starts : inv initial [])
    (keeps : ∀ earlier entry, inv entry.before earlier → admits earlier entry → inv entry.after (entry :: earlier))
    (linked : Linked initial history final) (along : Along admits history) : inv final history := by
  induction history generalizing final with
  | nil =>
    cases linked
    exact starts
  | cons last earlier ih =>
    obtain ⟨rfl, before⟩ := linked
    exact keeps earlier last (ih before along.2) along.1

/-- What every single call does to the state, a stretch of calls does: a
reflexive and transitive relation reaches from after a call to the end and to
before any later call. -/
theorem Linked.onward (relation : service.State → service.State → Prop) (refl : ∀ state, relation state state)
    (trans : ∀ {first second third}, relation first second → relation second third → relation first third)
    (linked : Linked initial history final)
    (each : ∀ entry ∈ history, relation entry.before entry.after) (split : history = newer ++ entry :: older) :
    relation entry.after final ∧ ∀ later ∈ newer, relation entry.after later.before := by
  induction newer generalizing history final with
  | nil =>
    subst split
    obtain ⟨rfl, _⟩ := linked
    exact ⟨refl _, by simp⟩
  | cons last rest ih =>
    subst split
    obtain ⟨rfl, before⟩ := linked
    obtain ⟨reached, all⟩ := ih before (fun old member => each old (.tail _ member)) rfl
    refine ⟨trans reached (each last (.head _)), fun later member => ?_⟩
    rcases List.mem_cons.mp member with rfl | old
    · exact reached
    · exact all later old

end System

end Library

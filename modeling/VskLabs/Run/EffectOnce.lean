import VskLabs.Run.ExternalRuns

/-! The effect of a step is asked for once. A thread that has begun a step holds
it alone until it interrupts the step before any effect; the store gives the step
to the next thread only after that. -/

namespace VskLabs
open Library RunRepository

/-! ### Every lease id begins one step -/

def Drawn (history : List Record) (leaseID : String) : Prop :=
  ∃ record ∈ history, ∃ step nonce, record.event = ⟨.drawLease step, .ok (leaseID, nonce)⟩

variable {leaseID runID stepID : String} {last : Record} {earlier : List Record} {resumes : Bool}
  {binding : ExecutionBinding}

variable {history older : List Record}

theorem Drawn.grow (drawn : Drawn history leaseID) (last : Record) :
    Drawn (last :: history) leaseID := by
  obtain ⟨record, member, found⟩ := drawn
  exact ⟨record, .tail _ member, found⟩

def beginKey (runID stepID leaseID : String) (time : Time) : IntentKey :=
  .runMutation runID (.stepIntentRecorded stepID leaseID time)

variable {query : Call} {time : Time}

theorem key_eq_beginKey
    (own : query.key = some (beginKey runID stepID leaseID time)) :
    ∃ request, query = .mutate (.beginStep request) ∧ request.leaseID = leaseID := by
  cases query with
  | mutate mutation =>
    cases mutation with
    | beginStep request =>
      simp only [Call.key, Mutation.event, beginKey, Option.some.injEq, IntentKey.runMutation.injEq,
        RunEvent.stepIntentRecorded.injEq] at own
      exact ⟨request, rfl, own.2.2.1⟩
    | _ => simp [Call.key, Mutation.event, beginKey] at own
  | _ => simp [Call.key, beginKey] at own

theorem holding_cons {event : Event Call Reply} {past : Past}
    (held : holding (event :: past) = some leaseID) :
    (∃ step nonce, event = ⟨.drawLease step, .ok (leaseID, nonce)⟩) ∨
      (holding past = some leaseID ∧ ∀ request, event.call ≠ .mutate (.beginStep request)) := by
  unfold holding at held
  split at held
  next => cases held
  next step drawn nonce _ same =>
    cases same
    cases held
    exact .inl ⟨step, nonce, rfl⟩
  next => cases held
  next other older undrawn unbegun same =>
    obtain ⟨rfl, rfl⟩ := List.cons.inj same
    refine .inr ⟨held, ?_⟩
    intro request asked
    obtain ⟨call, reply⟩ := event
    simp only at asked
    subst asked
    exact unbegun request reply rfl

theorem held_cases {thread : Nat}
    (held : holding (eventsOf thread (last :: earlier)) = some leaseID) :
    (last.thread = thread ∧ ∃ step nonce, last.event = ⟨.drawLease step, .ok (leaseID, nonce)⟩) ∨
      (holding (eventsOf thread earlier) = some leaseID ∧
        (last.thread = thread → ∀ request, last.event.call ≠ .mutate (.beginStep request))) := by
  unfold eventsOf at held
  split at held
  next mine =>
    rcases holding_cons held with drawn | ⟨older, unbegun⟩
    · exact .inl ⟨mine, drawn⟩
    · exact .inr ⟨older, fun _ => unbegun⟩
  next other => exact .inr ⟨held, fun mine => absurd mine other⟩

/-- Lease ids that threads hold are theirs alone, and no step was begun under them. -/
structure Tickets (history : List Record) (store : Store) : Prop where
  drawn : ∀ thread leaseID, holding (eventsOf thread history) = some leaseID → Drawn history leaseID
  unused : ∀ thread leaseID, holding (eventsOf thread history) = some leaseID →
    ∀ runID stepID time, ¬ store.Recorded (beginKey runID stepID leaseID time)
  apart : ∀ first second leaseID, holding (eventsOf first history) = some leaseID →
    holding (eventsOf second history) = some leaseID → first = second
  spent : ∀ runID stepID leaseID time, store.Recorded (beginKey runID stepID leaseID time) → Drawn history leaseID

theorem Tickets.start (plans : Table Plan.planID) (revision epoch : Int) :
    Tickets [] (Store.fresh plans revision epoch) := by
  constructor
  · intro thread leaseID held
    cases held
  · intro thread leaseID held
    cases held
  · intro first second leaseID held
    cases held
  · intro runID stepID leaseID time recorded
    cases recorded

theorem collisionFree.undrawn (unique : collisionFree earlier last)
    {step : RunStep} {nonce : String} (drew : last.event = ⟨.drawLease step, .ok (leaseID, nonce)⟩) :
    ¬ Drawn earlier leaseID := by
  rintro ⟨record, member, other, digest, same⟩
  rw [collisionFree, drew] at unique
  exact unique record member other digest same

theorem Tickets.step (tickets : Tickets earlier last.before)
    (unique : collisionFree earlier last) (took : Took resumes earlier last) : Tickets (last :: earlier) last.after := by
  -- a key that is new was recorded by a thread that holds the lease
  have begun : ∀ runID stepID leaseID time, Store.Recorded last.after (beginKey runID stepID leaseID time) →
      Store.Recorded last.before (beginKey runID stepID leaseID time) ∨
        holding (eventsOf last.thread earlier) = some leaseID ∧
          ∃ request, last.event.call = .mutate (.beginStep request) := by
    intro runID stepID leaseID time recorded
    rcases took.kept.new _ recorded with old | own
    · exact .inl old
    · obtain ⟨request, asked, rfl⟩ := key_eq_beginKey own
      have permitted := took.permitted
      rw [asked] at permitted
      exact .inr ⟨permitted.1, request, asked⟩
  constructor
  · intro thread leaseID held
    rcases held_cases held with ⟨_, step, nonce, drew⟩ | ⟨older, _⟩
    · exact ⟨last, .head _, step, nonce, drew⟩
    · exact (tickets.drawn thread leaseID older).grow last
  · intro thread leaseID held runID stepID time recorded
    rcases held_cases held with ⟨_, step, nonce, drew⟩ | ⟨older, unbegun⟩
    · apply unique.undrawn drew
      rcases begun runID stepID leaseID time recorded with old | ⟨_, request, asked⟩
      · exact tickets.spent runID stepID leaseID time old
      · rw [drew] at asked
        cases asked
    · rcases begun runID stepID leaseID time recorded with old | ⟨mine, request, asked⟩
      · exact tickets.unused thread leaseID older runID stepID time old
      · exact unbegun (tickets.apart _ _ leaseID mine older) request asked
  · intro first second leaseID held again
    rcases held_cases held with ⟨mine, step, nonce, drew⟩ | ⟨older, _⟩
    · rcases held_cases again with ⟨alsoMine, _⟩ | ⟨other, _⟩
      · exact mine.symm.trans alsoMine
      · exact absurd (tickets.drawn second leaseID other) (unique.undrawn drew)
    · rcases held_cases again with ⟨_, step, nonce, drew⟩ | ⟨other, _⟩
      · exact absurd (tickets.drawn first leaseID older) (unique.undrawn drew)
      · exact tickets.apart first second leaseID older other
  · intro runID stepID leaseID time recorded
    rcases begun runID stepID leaseID time recorded with old | ⟨held, _⟩
    · exact (tickets.spent runID stepID leaseID time old).grow last
    · exact (tickets.drawn last.thread leaseID held).grow last

/-! ### One thread at a step -/

def phaseOf (runID stepID : String) (thread : Nat) (history : List Record) : Phase :=
  phase runID stepID (eventsOf thread history)

inductive PhaseChange (runID stepID : String) (last : Record) (thread : Nat) : Phase → Phase → Prop where
  | kept (phase : Phase) : PhaseChange runID stepID last thread phase phase
  | begun (phase : Phase) (mine : last.thread = thread)
      (queued : Store.stage last.before runID stepID = some (.queued, .notStarted))
      (running : Store.stage last.after runID stepID = some (.running, .intentRecorded)) :
    PhaseChange runID stepID last thread phase .held
  | called (mine : last.thread = thread) : PhaseChange runID stepID last thread .held .calling
  | returned (mine : last.thread = thread) (observed : Bool) :
    PhaseChange runID stepID last thread .calling (.returned observed)
  | settled (phase : Phase) (mine : last.thread = thread) (ended : phase = .held ∨ phase = .returned false) :
    PhaseChange runID stepID last thread phase .idle

theorem findStep_writeStep {run : Run} {step : RunStep} (found : findStep run stepID = some step)
    (status : Status) (effectState : EffectState) :
    findStep (run.writeStep stepID status effectState) stepID =
      some { step with status := status, effectState := effectState } := by
  have mine := findStep_stepID found
  rw [findStep_map rfl _ stepID, found]
  · simp [mine]
  · intro other _
    split
    · rfl
    · rfl

variable {store : Store}

theorem Wrote.stage {old new : Run} {step : RunStep} {event : RunEvent} {middle after : Store} {status : Status}
    {effectState : EffectState} (wrote : Wrote store runID event new middle after) (found : findStep old stepID = some step)
    (steps : new.steps = (old.writeStep stepID status effectState).steps) :
    after.stage runID stepID = some (status, effectState) := by
  have written := findStep_writeStep found status effectState
  simp only [findStep] at written
  simp [Store.stage, wrote.document, findStep, steps, written, RunStep.stage]

theorem begin_moves {after : Store} {request : StepBeginRequest} {result : Option Run} (agreed : store.Agreed)
    (unused : ¬ store.Recorded (beginKey request.runID request.stepID request.leaseID request.time))
    (done : beginStep store request = .ok (result, after)) :
    store.stage request.runID request.stepID = some (.queued, .notStarted) ∧
      after.stage request.runID request.stepID = some (.running, .intentRecorded) := by
  rcases (beginStep_law done).wrote agreed with ⟨recorded, _⟩ | ⟨old, run, middle, _, stored, _, _, _, law, wrote⟩
  · exact absurd recorded unused
  · obtain ⟨⟨step, found, _, queued, untouched⟩, _, rfl, _⟩ := law
    refine ⟨?_, ?_⟩
    · simp [Store.stage, stored, found, RunStep.stage, queued, untouched]
    · exact wrote.stage found rfl

theorem Took.phaseChange (took : Took resumes earlier last)
    (tickets : Tickets earlier last.before) (runID stepID : String) (thread : Nat) :
    PhaseChange runID stepID last thread (phaseOf runID stepID thread earlier)
      (phaseOf runID stepID thread (last :: earlier)) := by
  simp only [phaseOf, eventsOf]
  split
  next mine =>
    rw [phase_cons]
    have permitted := took.permitted
    have truthful := took.truthful
    have sane := took.sane
    rw [mine] at permitted
    generalize happened : last.event = event at permitted truthful
    unfold touch
    split
    next request result =>
      split
      next here =>
        obtain ⟨rfl, rfl⟩ := here
        have unused := tickets.unused thread request.leaseID permitted.1 request.runID request.stepID request.time
        obtain ⟨queued, running⟩ := begin_moves sane.agreed unused truthful
        exact .begun _ mine queued running
      next => exact .kept _
    next run step time reply =>
      split
      next here =>
        obtain ⟨rfl, rfl⟩ := here
        exact .settled _ mine permitted
      next => exact .kept _
    next binding reply =>
      split
      next here =>
        obtain ⟨rfl, rfl⟩ := here
        rw [permitted.1]
        exact .called mine
      next => exact .kept _
    next binding outcome =>
      split
      next here =>
        obtain ⟨rfl, rfl⟩ := here
        have calling : phase binding.runID binding.stepID (eventsOf thread earlier) = .calling := permitted
        rw [calling]
        exact .returned mine (observed outcome)
      next => exact .kept _
    next => exact .kept _
  next => exact .kept _

def Dormant (runID stepID : String) (history : List Record) : Prop :=
  ∀ thread, phaseOf runID stepID thread history = .idle

structure Exclusive (runID stepID : String) (history : List Record) (store : Store) : Prop where
  taken : ∀ thread, phaseOf runID stepID thread history ≠ .idle → ∀ stage, store.stage runID stepID = some stage →
    stage.1 ≠ .queued ∧ stage.1 ≠ .interrupted
  alone : ∀ first second, phaseOf runID stepID first history ≠ .idle → phaseOf runID stepID second history ≠ .idle →
    first = second
  made : ∀ thread, phaseOf runID stepID thread history ≠ .idle → ∃ planID, Made history runID planID

section Exclusive

variable {resumes : Bool} {runID stepID : String} {plans : Table Plan.planID} {revision epoch : Int}
  {earlier : List Record} {last : Record}

variable {stage : Stage} {thread : Nat} {old new : Phase} {final : Store} {newer : List Record}

theorem Exclusive.dormant
    (exclusive : Exclusive runID stepID history store) (here : store.stage runID stepID = some stage)
    (free : stage.1 = .queued ∨ stage.1 = .interrupted) : Dormant runID stepID history := by
  intro thread
  by_contra busy
  obtain ⟨unqueued, uninterrupted⟩ := exclusive.taken thread busy stage here
  rcases free with queued | interrupted
  · exact unqueued queued
  · exact uninterrupted interrupted

theorem PhaseChange.busy (change : PhaseChange runID stepID last thread old new)
    (busy : new ≠ .idle) : old ≠ .idle ∨ (last.thread = thread ∧
      Store.stage last.before runID stepID = some (.queued, .notStarted) ∧
      Store.stage last.after runID stepID = some (.running, .intentRecorded)) := by
  cases change with
  | kept => exact .inl busy
  | begun _ mine queued running => exact .inr ⟨mine, queued, running⟩
  | called => exact .inl (by simp)
  | returned => exact .inl (by simp)
  | settled => exact absurd rfl busy

theorem Move.waits {old new : Stage} (move : Move runID stepID query old new)
    (unqueued : old.1 ≠ .queued) (uninterrupted : old.1 ≠ .interrupted) :
    (new.1 ≠ .queued ∧ new.1 ≠ .interrupted) ∨ ∃ time, query = .mutate (.interruptStepBeforeEffect runID stepID time) := by
  cases move with
  | begun | claimed | closed => exact absurd rfl unqueued
  | requeued => exact absurd rfl uninterrupted
  | received | reported | doubted | failed => exact .inl (by simp)
  | finished request _ _ result =>
    left
    constructor
    · intro same
      simp [show request.status = .queued from same] at result
    · intro same
      simp [show request.status = .interrupted from same] at result
  | interrupted time => exact .inr ⟨time, rfl⟩

theorem Move.requeues {old new : Stage} (move : Move runID stepID query old new)
    (waiting : old.1 = .interrupted) : old = (.interrupted, .notStarted) ∧ new = (.queued, .notStarted) := by
  cases move with
  | requeued => exact ⟨rfl, rfl⟩
  | begun | claimed | received | reported | finished | doubted | failed | interrupted | closed => cases waiting

theorem phaseOf_interrupted (asked : last.event.call = .mutate (.interruptStepBeforeEffect runID stepID time)) :
    phaseOf runID stepID last.thread (last :: earlier) = .idle := by
  obtain ⟨thread, ⟨call, reply⟩, before, after⟩ := last
  simp only at asked
  subst asked
  simp [phaseOf, eventsOf, phase_cons, touch]

theorem Took.interrupts (took : Took resumes earlier last)
    (asked : last.event.call = .mutate (.interruptStepBeforeEffect runID stepID time)) :
    phaseOf runID stepID last.thread earlier = .held ∨ phaseOf runID stepID last.thread earlier = .returned false := by
  have permitted := took.permitted
  rw [asked] at permitted
  exact permitted

theorem stage_document (here : store.stage runID stepID = some stage) :
    ∃ run, store.document runID = some run := by
  cases stored : store.document runID with
  | none => simp [Store.stage, stored] at here
  | some run => exact ⟨run, rfl⟩

def Interrupts (runID stepID : String) (record : Record) : Prop :=
  (∃ time, record.event.call = .mutate (.interruptStepBeforeEffect runID stepID time)) ∧
    Store.stage record.before runID stepID = some (.running, .intentRecorded) ∧
    Store.stage record.after runID stepID = some (.interrupted, .notStarted)

theorem Exclusive.next (chronicle : Chronicle resumes (Store.fresh plans revision epoch) earlier last.before)
    (took : Took resumes earlier last) (unique : collisionFree earlier last)
    (exclusive : Exclusive runID stepID earlier last.before)
    (busy : phaseOf runID stepID thread earlier ≠ .idle)
    (here : Store.stage last.after runID stepID = some stage) :
    (stage.1 ≠ .queued ∧ stage.1 ≠ .interrupted) ∨ (last.thread = thread ∧ Interrupts runID stepID last) := by
  cases took.documents.stage runID stepID with
  | kept same =>
    rw [same] at here
    exact .inl (exclusive.taken thread busy stage here)
  | moved old new was now move =>
    rw [now] at here
    cases here
    obtain ⟨unqueued, uninterrupted⟩ := exclusive.taken thread busy old was
    rcases move.waits unqueued uninterrupted with away | ⟨time, asked⟩
    · exact .inl away
    · have other : phaseOf runID stepID last.thread earlier ≠ .idle := by
        rcases took.interrupts asked with held | returned
        · simp [held]
        · simp [returned]
      rw [asked] at move
      cases move
      exact .inr ⟨exclusive.alone _ _ other busy, ⟨time, asked⟩, was, now⟩
  | created request asked law named absent present =>
    obtain ⟨planID, made⟩ := exclusive.made thread busy
    rw [← named] at made
    exact absurd made (chronicle.made_once unique asked law)
  | pruned now asked gone => simp [Store.stage, gone] at here

theorem Exclusive.step (chronicle : Chronicle resumes (Store.fresh plans revision epoch) earlier last.before)
    (took : Took resumes earlier last) (unique : collisionFree earlier last) (tickets : Tickets earlier last.before)
    (exclusive : Exclusive runID stepID earlier last.before) : Exclusive runID stepID (last :: earlier) last.after := by
  have change := took.phaseChange tickets runID stepID
  have older : earlier ⊆ last :: earlier := List.subset_cons_self _ _
  constructor
  · intro thread busy stage here
    rcases (change thread).busy busy with before | ⟨_, _, running⟩
    · rcases exclusive.next chronicle took unique before here with away | ⟨rfl, ⟨time, asked⟩, _⟩
      · exact away
      · exact absurd (phaseOf_interrupted asked) busy
    · rw [running] at here
      cases here
      simp
  · intro first second busy also
    rcases (change first).busy busy with before | ⟨mine, queued, _⟩
    · rcases (change second).busy also with same | ⟨_, queued, _⟩
      · exact exclusive.alone first second before same
      · exact absurd (exclusive.dormant queued (.inl rfl) first) before
    · rcases (change second).busy also with before | ⟨alsoMine, _⟩
      · exact absurd (exclusive.dormant queued (.inl rfl) second) before
      · exact mine.symm.trans alsoMine
  · intro thread busy
    rcases (change thread).busy busy with before | ⟨_, queued, _⟩
    · obtain ⟨planID, made⟩ := exclusive.made thread before
      exact ⟨planID, made.grow older⟩
    · obtain ⟨run, stored⟩ := stage_document queued
      exact ⟨run.planID, (chronicle.stored_made stored).grow older⟩

theorem Chronicle.exclusive
    (chronicle : Chronicle resumes (Store.fresh plans revision epoch) history final)
    (unique : Along collisionFree history) (runID stepID : String) :
    Tickets history final ∧ Exclusive runID stepID history final := by
  induction history generalizing final with
  | nil =>
    have same : final = Store.fresh plans revision epoch := chronicle.linked
    rw [same]
    refine ⟨.start plans revision epoch, ?_, ?_, ?_⟩
    · intro thread busy
      exact absurd rfl busy
    · intro first second busy
      exact absurd rfl busy
    · intro thread busy
      exact absurd rfl busy
  | cons last earlier ih =>
    obtain ⟨rfl, took, before⟩ := chronicle.cons
    obtain ⟨tickets, exclusive⟩ := ih before unique.2
    exact ⟨tickets.step unique.1 took, exclusive.step before took unique.1 tickets⟩

/-! ### Between two calls -/

def Requeues (runID stepID : String) (record : Record) : Prop :=
  Store.stage record.before runID stepID = some (.interrupted, .notStarted) ∧
    Store.stage record.after runID stepID = some (.queued, .notStarted)

/-- Since a call of `Execute` by the thread: the call is not settled, or the step
was interrupted by that thread and waits, or it was queued again after that. -/
inductive Since (runID stepID : String) (thread : Nat) (newer history : List Record) (store : Store) : Prop where
  | pending (calling : phaseOf runID stepID thread history = .calling ∨
      ∃ observed, phaseOf runID stepID thread history = .returned observed)
  | dropped (dormant : Dormant runID stepID history) (planID : String) (made : Made history runID planID)
      (unqueued : ∀ stage, store.stage runID stepID = some stage → stage.1 ≠ .queued)
      (interrupted : ∀ stage, store.stage runID stepID = some stage → stage.1 = .interrupted →
        ∃ settle ∈ newer, settle.thread = thread ∧ Interrupts runID stepID settle)
  | requeued (late early : List Record) (requeue : Record) (split : newer = late ++ requeue :: early)
      (queued : Requeues runID stepID requeue) (settle : Record) (member : settle ∈ early)
      (mine : settle.thread = thread) (settled : Interrupts runID stepID settle)

theorem PhaseChange.unmoved (change : PhaseChange runID stepID last thread old new)
    (other : last.thread ≠ thread) : new = old := by
  cases change with
  | kept => rfl
  | begun _ mine | called mine | returned mine | settled _ mine => exact absurd mine other

theorem PhaseChange.dormant (change : PhaseChange runID stepID last thread old new)
    (idle : old = .idle) (unqueued : ∀ stage, Store.stage last.before runID stepID = some stage → stage.1 ≠ .queued) :
    new = .idle := by
  cases change with
  | kept => exact idle
  | begun _ _ queued => exact absurd rfl (unqueued _ queued)
  | called | returned => cases idle
  | settled => rfl

theorem Dormant.next (took : Took resumes earlier last) (dormant : Dormant runID stepID earlier)
    (unqueued : ∀ stage, Store.stage last.before runID stepID = some stage → stage.1 ≠ .queued)
    (chronicle : Chronicle resumes (Store.fresh plans revision epoch) earlier last.before)
    (unique : collisionFree earlier last) {planID : String} (made : Made earlier runID planID) :
    Requeues runID stepID last ∨ ∀ stage, Store.stage last.after runID stepID = some stage →
      stage.1 ≠ .queued ∧ (stage.1 = .interrupted →
        ∃ old, Store.stage last.before runID stepID = some old ∧ old.1 = .interrupted) := by
  cases took.documents.stage runID stepID with
  | kept same =>
    right
    intro stage here
    rw [same] at here
    exact ⟨unqueued stage here, fun interrupted => ⟨stage, here, interrupted⟩⟩
  | moved old new was now move =>
    by_cases waiting : old.1 = .interrupted
    · obtain ⟨rfl, rfl⟩ := move.requeues waiting
      exact .inl ⟨was, now⟩
    · right
      intro stage here
      rw [now] at here
      cases here
      rcases move.waits (unqueued old was) waiting with ⟨away, settled⟩ | ⟨time, asked⟩
      · exact ⟨away, fun interrupted => absurd interrupted settled⟩
      · rcases took.interrupts asked with held | returned
        · rw [dormant last.thread] at held
          cases held
        · rw [dormant last.thread] at returned
          cases returned
  | created request asked law named absent present =>
    rw [← named] at made
    exact absurd made (chronicle.made_once unique asked law)
  | pruned now asked gone =>
    right
    intro stage here
    simp [Store.stage, gone] at here

theorem Since.step (chronicle : Chronicle resumes (Store.fresh plans revision epoch) earlier last.before)
    (took : Took resumes earlier last) (unique : collisionFree earlier last) (tickets : Tickets earlier last.before)
    (exclusive : Exclusive runID stepID earlier last.before)
    (since : Since runID stepID thread newer earlier last.before) :
    Since runID stepID thread (last :: newer) (last :: earlier) last.after := by
  have change := took.phaseChange tickets runID stepID
  have older : earlier ⊆ last :: earlier := List.subset_cons_self _ _
  cases since with
  | requeued late early requeue split queued settle member mine settled =>
    refine .requeued (last :: late) early requeue ?_ queued settle member mine settled
    rw [split, List.cons_append]
  | dropped dormant planID made unqueued interrupted =>
    rcases dormant.next took unqueued chronicle unique made with queued | calm
    · obtain ⟨settle, member, mine, settled⟩ := interrupted _ queued.1 rfl
      exact .requeued [] newer last rfl queued settle member mine settled
    · refine .dropped (fun other => (change other).dormant (dormant other) unqueued) planID (made.grow older)
        (fun stage here => (calm stage here).1) ?_
      intro stage here waits
      obtain ⟨old, was, waited⟩ := (calm stage here).2 waits
      obtain ⟨settle, member, found⟩ := interrupted old was waited
      exact ⟨settle, .tail _ member, found⟩
  | pending calling =>
    have busy : phaseOf runID stepID thread earlier ≠ .idle := by
      rcases calling with calling | ⟨observed, returned⟩
      · simp [calling]
      · simp [returned]
    have now := change thread
    generalize was : phaseOf runID stepID thread earlier = before at now
    generalize is : phaseOf runID stepID thread (last :: earlier) = after at now
    cases now with
    | kept =>
      rw [was] at calling
      rw [← is] at calling
      exact .pending calling
    | begun _ _ queued => exact absurd (exclusive.dormant queued (.inl rfl) thread) busy
    | called => simp [was] at calling
    | returned _ observed => exact .pending (.inr ⟨observed, is⟩)
    | settled _ mine =>
      -- the thread has let the step go, with or without an interruption of the step
      obtain ⟨planID, made⟩ := exclusive.made thread busy
      refine .dropped ?_ planID (made.grow older) ?_ ?_
      · intro other
        by_cases same : last.thread = other
        · rw [← same, mine]
          exact is
        · rw [(change other).unmoved same]
          by_contra also
          exact same (mine.trans (exclusive.alone _ _ busy also))
      · intro stage here queued
        rcases exclusive.next chronicle took unique busy here with ⟨away, _⟩ | ⟨_, _, _, settled⟩
        · exact away queued
        · rw [settled] at here
          cases here
          cases queued
      · intro stage here waits
        rcases exclusive.next chronicle took unique busy here with ⟨_, away⟩ | ⟨_, settled⟩
        · exact absurd waits away
        · exact ⟨last, .head _, mine, settled⟩

theorem Chronicle.since {first : Record}
    (chronicle : Chronicle resumes (Store.fresh plans revision epoch) (newer ++ first :: older) final)
    (unique : Along collisionFree (newer ++ first :: older))
    (calling : phaseOf runID stepID first.thread (first :: older) = .calling) :
    Since runID stepID first.thread newer (newer ++ first :: older) final := by
  induction newer generalizing final with
  | nil => exact .pending (.inl calling)
  | cons last rest ih =>
    obtain ⟨rfl, took, before⟩ := chronicle.cons
    obtain ⟨tickets, exclusive⟩ := before.exclusive unique.2 runID stepID
    exact (ih before unique.2).step before took unique.1 tickets exclusive

theorem Chronicle.observed_stays
    (chronicle : Chronicle resumes (Store.fresh plans revision epoch) (newer ++ older) final)
    (unique : Along collisionFree (newer ++ older))
    (observed : phaseOf runID stepID thread older = .returned true) :
    phaseOf runID stepID thread (newer ++ older) = .returned true := by
  induction newer generalizing final with
  | nil => exact observed
  | cons last rest ih =>
    obtain ⟨rfl, took, before⟩ := chronicle.cons
    obtain ⟨tickets, exclusive⟩ := before.exclusive unique.2 runID stepID
    have stays := ih before unique.2
    have change : PhaseChange runID stepID last thread (phaseOf runID stepID thread (rest ++ older))
      (phaseOf runID stepID thread (last :: (rest ++ older))) := took.phaseChange tickets runID stepID thread
    rw [stays] at change
    rw [List.cons_append]
    generalize is : phaseOf runID stepID thread (last :: (rest ++ older)) = after at change
    cases change with
    | kept => rfl
    | begun _ _ queued =>
      have idle : phaseOf runID stepID thread (rest ++ older) = .idle := exclusive.dormant queued (.inl rfl) thread
      rw [stays] at idle
      cases idle
    | settled _ _ ended => simp at ended

end Exclusive

theorem phaseOf_called
    (asked : last.event.call = .execute binding) (ofRun : binding.runID = runID) (ofStep : binding.stepID = stepID) :
    phaseOf runID stepID last.thread (last :: earlier) = .calling := by
  obtain ⟨thread, ⟨call, reply⟩, before, after⟩ := last
  simp only at asked
  subst asked
  simp [phaseOf, eventsOf, phase_cons, touch, ofRun, ofStep]

theorem phaseOf_returned
    {outcome : Option (Effect × Option Failure)} (happened : last.event = ⟨.executed binding, outcome⟩) :
    phaseOf binding.runID binding.stepID last.thread (last :: earlier) = .returned (observed outcome) := by
  simp [phaseOf, eventsOf, phase_cons, touch, happened]

theorem Took.executes (took : Took resumes earlier last) (asked : last.event.call = .execute binding) :
    phaseOf binding.runID binding.stepID last.thread earlier = .held := by
  have permitted := took.permitted
  rw [asked] at permitted
  exact permitted.1

/-- In every run, after a call of `Execute` for a step: once it has returned with
an observed effect there is no further call for that step, and a further call
comes only after the thread of the first one interrupted the step before any
effect and the step was queued again. -/
theorem effects_are_observed_at_most_once {config : EngineConfig} {plans : Table Plan.planID} {revision epoch : Int}
    {deeds : List Deed} {system : System world}
    (ran : execute config (Store.fresh plans revision epoch) deeds = some system)
    (unique : Along collisionFree system.history) {newest newer older : List Record} {again : Record}
    {binding : ExecutionBinding} (asked : again.event.call = .execute binding) {first : Record}
    (split : system.history = newest ++ again :: (newer ++ first :: older)) :
    (∀ returned outcome, first.event = ⟨.executed returned, outcome⟩ → returned.runID = binding.runID →
      returned.stepID = binding.stepID → observed outcome = false) ∧
    ∀ called, first.event.call = .execute called → called.runID = binding.runID → called.stepID = binding.stepID →
      ∃ late early requeue settle, newer = late ++ requeue :: early ∧ Requeues binding.runID binding.stepID requeue ∧
        settle ∈ early ∧ settle.thread = first.thread ∧ Interrupts binding.runID binding.stepID settle := by
  have chronicle := Chronicle.of_execute ran
  rw [split] at chronicle unique
  obtain ⟨took, before⟩ := chronicle.split
  have apart := (System.along_split unique rfl).2
  have held := took.executes asked
  obtain ⟨_, exclusive⟩ := before.exclusive apart binding.runID binding.stepID
  refine ⟨?_, ?_⟩
  · intro returned outcome happened ofRun ofStep
    by_contra seen
    rw [Bool.not_eq_false] at seen
    have observed : phaseOf returned.runID returned.stepID first.thread (first :: older) = _ := phaseOf_returned happened
    rw [seen, ofRun, ofStep] at observed
    have stays := before.observed_stays apart observed
    have same := exclusive.alone again.thread first.thread (by simp [held]) (by simp [stays])
    rw [same, stays] at held
    cases held
  · intro called happened ofRun ofStep
    cases before.since apart (phaseOf_called happened ofRun ofStep) with
    | pending calling =>
      have same := exclusive.alone again.thread first.thread (by simp [held]) (by
        rcases calling with calling | ⟨observed, returned⟩
        · simp [calling]
        · simp [returned])
      rw [same] at held
      simp [held] at calling
    | dropped dormant =>
      rw [dormant again.thread] at held
      cases held
    | requeued late early requeue split queued settle member mine settled =>
      exact ⟨late, early, requeue, settle, split, queued, member, mine, settled⟩

/-! The sample plan as a central one. Its step is called, returns without an
effect because the context was cancelled, and is called again by a resumption. -/

def centralPlan : Plan := { samplePlan with executorMode := .central, executorID := none }

def centralStore : Store := Store.fresh ⟨[centralPlan], by decide⟩ 1 1

/-- From the loop's look at the step to its call of `Execute`. -/
def attempts (thread : Nat) (time : Time) (leaseID : String) : List Deed :=
  tell thread [.flag false, .adapter (.ok ⟨false, false, false⟩), .clock time, .lease (.ok (leaseID, zeros)), accepted,
    accepted, .clock time, .done]

def submitsCentral : List Deed :=
  [.spawn (.submit sampleSubmit)] ++
  tell 0 [accepted, passed, passed, passed, .clock 10, accepted, accepted, passed, .clock 10, accepted, accepted, accepted]

def executesTwice : List Deed :=
  submitsCentral ++ attempts 0 10 "first" ++
  tell 0 [.effect (some (Engine.noEffect, some .canceled)), .clock 11, .clock 11, accepted, .clock 11, accepted,
    .clock 11, accepted] ++
  [.spawn (.resumeAs "run")] ++ tell 1 [accepted, accepted, passed, passed, .clock 12, accepted, accepted] ++
  attempts 1 12 "second"

/-- The step a record calls `Execute` for. -/
def calledStep (record : Record) : Option (String × String) :=
  match record.event.call with
  | .execute binding => some (binding.runID, binding.stepID)
  | _ => none

theorem calledStep_eq_some {record : Record} (called : calledStep record = some (runID, stepID)) :
    ∃ binding, record.event.call = .execute binding ∧ binding.runID = runID ∧ binding.stepID = stepID := by
  unfold calledStep at called
  split at called
  next binding asked =>
    cases called
    exact ⟨binding, asked, rfl, rfl⟩
  next => cases called

theorem second_call_follows_interruption :
    ∃ system again newer first older, execute sampleConfig centralStore executesTwice = some system ∧
      system.history = again :: (newer ++ first :: older) ∧ calledStep again = some ("run", "run") ∧
      calledStep first = some ("run", "run") ∧ ∃ late early requeue settle, newer = late ++ requeue :: early ∧
        Requeues "run" "run" requeue ∧ settle ∈ early ∧ settle.thread = first.thread ∧ Interrupts "run" "run" settle := by
  have found : ((execute sampleConfig centralStore executesTwice).any fun system => clashFree system.history &&
      system.history.head?.any (fun again => calledStep again == some ("run", "run")) &&
      system.history.tail.any fun first => calledStep first == some ("run", "run")) = true := by decide +kernel
  simp only [finds, checks] at found
  obtain ⟨system, ran, ⟨free, again, newest, called⟩, first, member, calledFirst⟩ := found
  obtain ⟨newer, older, split⟩ := List.append_of_mem member
  have whole : system.history = again :: (newer ++ first :: older) := by
    rw [← split]
    exact (List.cons_head?_tail newest).symm
  obtain ⟨binding, asked, ofRun, ofStep⟩ := calledStep_eq_some called
  obtain ⟨earlier, askedFirst, ofRunFirst, ofStepFirst⟩ := calledStep_eq_some calledFirst
  have once := (effects_are_observed_at_most_once ran (along_of_clashFree free) asked
    (show system.history = [] ++ again :: (newer ++ first :: older) from whole)).2 earlier askedFirst
    (ofRunFirst.trans ofRun.symm) (ofStepFirst.trans ofStep.symm)
  rw [ofRun, ofStep] at once
  exact ⟨system, again, newer, first, older, ran, whole, called, calledFirst, once⟩

end VskLabs

import VskLabs.Run.EffectOnce

/-! One work item per external executor. `Claim` looks for work in flight in a
reading of the active runs and records its lease in a later transaction, so what
it knows is as old as that reading. -/

namespace VskLabs
open Library RunRepository ExecutorLeaseRepository

abbrev Unresuming := { entry : EntryPoint // entry.resumes = false }

def executeUnresuming (config : EngineConfig) (initial : Store) (deeds : List (Action world Unresuming)) :
    Option (System world) :=
  (System.boot initial : System world).run (fun entry : Unresuming => entry.1.program config) deeds

theorem Chronicle.of_unresuming {config : EngineConfig} {plans : Table Plan.planID} {revision epoch : Int}
    {deeds : List (Action world Unresuming)} {system : System world}
    (ran : executeUnresuming config (Store.fresh plans revision epoch) deeds = some system) :
    Chronicle false (Store.fresh plans revision epoch) system.history system.state :=
  Chronicle.of_run (fun entry : Unresuming => EntryPoint.program_obedient entry.1 fun resumes => by
    rw [entry.2] at resumes
    cases resumes) ran

def RunStep.flying (step : RunStep) : Bool :=
  step.status == .running || step.effectState == .intentRecorded || step.effectState == .receiptRecorded ||
    step.effectState == .effectUnknown

structure WorkItem (store : Store) (executorID : String) (run : Run) (step : RunStep) : Prop where
  stored : store.document run.runID = some run
  running : run.status = .running
  external : run.executorMode = .external
  bound : run.executorID = executorID
  member : step ∈ run.steps
  flying : step.flying = true

def Unemployed (store : Store) (executorID : String) : Prop := ∀ run step, ¬ WorkItem store executorID run step

variable {executorID runID : String} {query : Call} {old new : RunStep} {store : Store}

variable {run : Run}

theorem workActive_iff :
    ExternalExecutor.workActive executorID run = true ↔ run.status = .running ∧ run.executorMode = .external ∧
      run.executorID = executorID ∧ ∃ step ∈ run.steps, step.flying = true := by
  simp only [ExternalExecutor.workActive, Bool.and_eq_true, beq_iff_eq, List.any_eq_true, and_assoc]
  exact Iff.rfl

def RunStep.Untouched (step : RunStep) : Prop := step.status ≠ .running ∧ step.effectState = .notStarted

theorem RunStep.Untouched.not_flying {step : RunStep} (untouched : step.Untouched) : step.flying = false := by
  simp [RunStep.flying, untouched.1, untouched.2]

/-- A step is put in flight by a begin or a claim only. -/
theorem Move.starts {stepID : String} (move : Move runID stepID query old.stage new.stage) :
    ((new.flying = true → old.flying = true) ∧ (old.Untouched → new.Untouched)) ∨
      (∃ request, query = .mutate (.beginStep request) ∧ request.runID = runID) ∨
      ∃ request, query = .claimLease request ∧ request.lease.runID = runID ∧ request.lease.stepID = stepID := by
  generalize before : old.stage = first at move
  generalize after : new.stage = second at move
  simp only [RunStep.stage, Prod.ext_iff] at before after
  cases move with
  | begun request ofRun => exact .inr (.inl ⟨request, rfl, ofRun⟩)
  | claimed request ofRun ofStep => exact .inr (.inr ⟨request, rfl, ofRun, ofStep⟩)
  | received | reported | finished | doubted | failed | interrupted =>
    exact .inl ⟨fun _ => by simp [RunStep.flying, before.1], fun untouched => absurd before.1 untouched.1⟩
  | requeued => exact .inl ⟨by simp [RunStep.flying, after.1, after.2], fun _ => ⟨by simp [after.1], after.2⟩⟩
  | closed request ofRun status effect closing =>
    have stopped : status ≠ .running := by
      rintro rfl
      simp at closing
    simp only at before after
    refine .inl ⟨?_, fun untouched => ⟨by rw [after.1]; exact stopped, by rw [after.2, ← before.2]; exact untouched.2⟩⟩
    simp only [RunStep.flying, before.2, after.1, after.2, checks]
    rintro (((running | flying) | flying) | flying)
    · exact absurd running stopped
    · exact .inl (.inl (.inr flying))
    · exact .inl (.inr flying)
    · exact .inr flying

theorem Committed.starts {after : Store} (committed : Committed query store after)
    (agreed : store.Agreed) {old : Run} (found : store.document old.runID = some old)
    (starts : (∃ request, query = .mutate (.beginStep request) ∧ request.runID = old.runID) ∨
      ∃ request, query = .claimLease request ∧ request.lease.runID = old.runID) :
    after = store ∨ old.status = .running := by
  rcases starts with ⟨request, rfl, ofRun⟩ | ⟨request, rfl, ofRun⟩
  · have done : beginStep store request = .ok (committed.choose, after) := committed.choose_spec
    rcases (beginStep_law done).wrote agreed with ⟨_, _, same⟩ | ⟨stored, _, _, _, document, _, _, _, law, _⟩
    · exact .inl same
    · rw [ofRun, found] at document
      cases document
      exact .inr law.1.choose_spec.2.1
  · obtain ⟨row, step, claimed⟩ := claim_law committed.choose_spec
    have document : store.document old.runID = some row.run := by
      rw [← ofRun, Store.document, claimed.found]
      rfl
    rw [found] at document
    cases document
    exact .inr claimed.running

def Fresh (store : Store) : Prop :=
  ∀ run, store.document run.runID = some run → run.status = .queued → ∀ step ∈ run.steps, step.Untouched

variable {past : Past}

theorem Submitted.untouched {request : RunCreateRequest} {plan : Plan}
    (submitted : Submitted past request plan) {step : RunStep} (member : step ∈ request.run.steps) : step.Untouched := by
  obtain ⟨queued, untouched⟩ := submitted.steps step member
  exact ⟨by simp [queued], untouched⟩

theorem Edited.queued {old new : Run} (law : Edited query old new) (queued : new.status = .queued) :
    old.status = .queued := by
  cases law.shift with
  | kept status =>
    rw [← status]
    exact queued
  | moved request _ allowed _ target =>
    rw [← target, queued] at allowed
    cases source : request.source <;> simp [source, validRunTransition, runTransitions] at allowed

theorem Edited.running {old new : Run} (law : Edited query old new) (running : new.status = .running) :
    old.status = .running ∨ (old.status = .queued ∧ ∃ request, query = .mutate (.transitionRun request)) ∨
      resumptionOf query ≠ none := by
  cases law.shift with
  | kept status =>
    rw [← status]
    exact .inl running
  | moved request _ allowed source target =>
    rw [running] at target
    rw [← target] at allowed
    cases began : request.source with
    | queued => exact .inr (.inl ⟨source.trans began, request, rfl⟩)
    | interrupted => exact .inr (.inr (by simp [resumptionOf, began, ← target]))
    | _ => simp [began, validRunTransition, runTransitions] at allowed

theorem Edited.origin {old new : Run} (law : Edited query old new) {step : RunStep}
    (member : step ∈ new.steps) : ∃ was ∈ old.steps, step.stepID = was.stepID ∧
      (step.stage = was.stage ∨ Move old.runID was.stepID query was.stage step.stage) := by
  obtain ⟨edit, steps, edits⟩ := law.steps
  rw [steps] at member
  obtain ⟨was, present, rfl⟩ := List.mem_map.mp member
  exact ⟨was, present, edits was present⟩

theorem RunStep.Untouched.congr (untouched : old.Untouched) (same : new.stage = old.stage) :
    new.Untouched := by
  simp only [RunStep.stage, Prod.mk.injEq] at same
  rw [RunStep.Untouched, same.1, same.2]
  exact untouched

theorem RunStep.flying_congr (same : new.stage = old.stage) : new.flying = old.flying := by
  simp only [RunStep.stage, Prod.mk.injEq] at same
  simp [RunStep.flying, same.1, same.2]

section Step

variable {resumes : Bool} {earlier : List Record} {last : Record}

theorem Fresh.step (took : Took resumes earlier last) (fresh : Fresh last.before) : Fresh last.after := by
  intro run stored queued step member
  rcases took.effect with same | committed
  · rw [same] at stored
    exact fresh run stored queued step member
  rcases took.documents.stored stored with kept | ⟨request, asked, _, _, rfl⟩ | ⟨old, found, _, law⟩
  · exact fresh run kept queued step member
  · obtain ⟨plan, submitted⟩ := took.submitted asked
    exact submitted.untouched member
  · have waiting := law.queued queued
    obtain ⟨was, present, _, same | move⟩ := law.origin member
    · exact (fresh old found waiting was present).congr same
    rcases move.starts with ⟨_, calm⟩ | starts
    · exact calm (fresh old found waiting was present)
    -- a begin or a claim needs a running run
    have running : last.after = last.before ∨ old.status = .running := by
      apply committed.starts took.sane.agreed found
      rcases starts with begun | ⟨request, asked, ofRun, _⟩
      · exact .inl begun
      · exact .inr ⟨request, asked, ofRun⟩
    rcases running with same | running
    · rw [same] at stored
      exact fresh run stored queued step member
    · rw [waiting] at running
      cases running

end Step

/-! ### Where work comes from -/

variable {history : List Record} {final : Store}

section Origin

variable {plans : Table Plan.planID} {revision epoch : Int} {earlier : List Record} {last : Record}

theorem Chronicle.unresumed {initial : Store}
    (chronicle : Chronicle false initial history final) {record : Record} (member : record ∈ history) :
    resumptionOf record.event.call = none := by
  obtain ⟨newer, older, rfl⟩ := List.append_of_mem member
  have permitted := chronicle.split.1.permitted
  unfold resumptionOf
  split
  next request asked =>
    rw [asked] at permitted
    split
    next resumes => cases permitted.resumption resumes.1 resumes.2
    next => rfl
  next => rfl

theorem Chronicle.stored_external {resumes : Bool}
    (chronicle : Chronicle resumes (Store.fresh plans revision epoch) history final)
    (stored : final.document run.runID = some run) (external : run.executorMode = .external) :
    ExternalRun plans history run.runID := by
  obtain ⟨plan, found, same⟩ := chronicle.stored_mode stored
  have own : plan.planID = run.planID := Table.find?_key found
  refine ⟨plan, ?_, same ▸ external, ?_⟩
  · rw [own]
    exact found
  · rw [own]
    exact chronicle.stored_made stored

def claimant : Call → Option String
  | .claimLease request => some request.request.executorID
  | _ => none

theorem WorkItem.origin (chronicle : Chronicle false (Store.fresh plans revision epoch) (last :: earlier) last.after)
    (unique : Along collisionFree (last :: earlier)) (fresh : Fresh last.before) {executorID : String}
    {step : RunStep} (item : WorkItem last.after executorID run step) :
    (∃ old was, WorkItem last.before executorID old was ∧ old.runID = run.runID ∧ was.stepID = step.stepID) ∨
      (last.after ≠ last.before ∧ ∃ request, last.event.call = .claimLease request ∧
        request.request.executorID = executorID ∧ request.lease.runID = run.runID ∧ request.lease.stepID = step.stepID) := by
  obtain ⟨_, took, before⟩ := chronicle.cons
  have stored := item.stored
  by_cases same : last.after = last.before
  · rw [same] at item
    exact .inl ⟨run, step, item, rfl, rfl⟩
  have committed := took.effect.resolve_left same
  rcases took.documents.stored stored with kept | ⟨request, asked, _, _, rfl⟩ | ⟨old, found, _, law⟩
  · exact .inl ⟨run, step, { item with stored := kept }, rfl, rfl⟩
  · obtain ⟨plan, submitted⟩ := took.submitted asked
    have grounded := (submitted.untouched item.member).not_flying
    rw [item.flying] at grounded
    cases grounded
  · have external : old.executorMode = .external := law.executorMode.symm.trans item.external
    have bound : old.executorID = executorID := law.executorID.symm.trans item.bound
    obtain ⟨was, present, sameStep, origin⟩ := law.origin item.member
    rcases law.running item.running with running | ⟨queued, transition, asked⟩ | resumed
    · have kept (flying : was.flying = true) : WorkItem last.before executorID old was :=
        ⟨found, running, external, bound, present, flying⟩
      rcases origin with same | move
      · have flying : was.flying = true := by
          rw [← RunStep.flying_congr same]
          exact item.flying
        exact .inl ⟨old, was, kept flying, law.runID.symm, sameStep.symm⟩
      · rcases move.starts with ⟨flying, _⟩ | ⟨request, asked, ofRun⟩ | ⟨request, asked, ofRun, ofStep⟩
        · exact .inl ⟨old, was, kept (flying item.flying), law.runID.symm, sameStep.symm⟩
        · -- the engine begins no step of an external run
          have permitted := took.permitted
          rw [asked] at permitted
          have whole : ExternalRun plans (last :: earlier) old.runID := by
            obtain ⟨plan, planned, mode, made⟩ := before.stored_external found external
            exact ⟨plan, planned, mode, made.grow (List.subset_cons_self _ _)⟩
          have central := chronicle.entitled unique
            (fun record member runID resumed => by
              rw [chronicle.unresumed member] at resumed
              cases resumed) (List.nil_append _).symm permitted.2
          rw [ofRun] at central
          exact absurd whole central
        · refine .inr ⟨same, request, asked, ?_, ofRun.trans law.runID.symm, ofStep.trans sameStep.symm⟩
          rw [asked] at committed
          obtain ⟨row, claimedStep, claimed⟩ := claim_law committed.choose_spec
          have document : Store.document last.before old.runID = some row.run := by
            rw [← ofRun, Store.document, claimed.found]
            rfl
          rw [found] at document
          cases document
          rw [claimed.executor, ← claimed.bound]
          exact bound
    · -- nothing of a queued run is in flight
      have untouched : step.Untouched := by
        rcases origin with same | move
        · exact (fresh old found queued was present).congr same
        rcases move.starts with ⟨_, calm⟩ | ⟨request, begun, _⟩ | ⟨request, claimed, _⟩
        · exact calm (fresh old found queued was present)
        · rw [asked] at begun
          cases begun
        · rw [asked] at claimed
          cases claimed
      have grounded := untouched.not_flying
      rw [item.flying] at grounded
      cases grounded
    · exact absurd (chronicle.unresumed (.head _)) resumed

end Origin

/-! ### What a claim knows -/

/-- Work of the executor was claimed after the thread last asked for the active runs. -/
def ClaimedSince (thread : Nat) (executorID : String) : List Record → Prop
  | [] => False
  | last :: earlier =>
    ¬ (last.thread = thread ∧ last.event.call = .activeRuns) ∧
      ((last.after ≠ last.before ∧ claimant last.event.call = some executorID) ∨ ClaimedSince thread executorID earlier)

/-- A claim is asked for while its thread's reading of the active runs still
knows every claim of the executor. -/
def unraced (earlier : List Record) (record : Record) : Prop :=
  ∀ executorID, claimant record.event.call = some executorID → ¬ ClaimedSince record.thread executorID earlier

variable {runs : List Run}

theorem lastRead_cons {event : Event Call Reply}
    (read : lastRead (event :: past) = some runs) :
    event = ⟨.activeRuns, .ok runs⟩ ∨ (lastRead past = some runs ∧ event.call ≠ .activeRuns) := by
  unfold lastRead at read
  split at read
  next => cases read
  next found _ same =>
    obtain ⟨rfl, rfl⟩ := List.cons.inj same
    cases read
    exact .inl rfl
  next => cases read
  next other older answered failed same =>
    obtain ⟨rfl, rfl⟩ := List.cons.inj same
    refine .inr ⟨read, ?_⟩
    intro asked
    obtain ⟨call, reply⟩ := event
    simp only at asked
    subst asked
    cases reply with
    | ok found => exact answered found rfl
    | error failure => exact failed failure rfl

/-- A thread whose reading showed no work knows that there is none until the next claim. -/
def Watched (history : List Record) (store : Store) : Prop :=
  ∀ thread executorID runs, lastRead (eventsOf thread history) = some runs →
    (∀ run ∈ runs, ExternalExecutor.workActive executorID run = false) → ¬ ClaimedSince thread executorID history →
    Unemployed store executorID

def Alone (store : Store) : Prop :=
  ∀ executorID first second step other, WorkItem store executorID first step → WorkItem store executorID second other →
    first.runID = second.runID ∧ step.stepID = other.stepID

theorem activeRuns_unemployed (agreed : store.Agreed)
    (read : activeRuns store = .ok runs) (calm : ∀ run ∈ runs, ExternalExecutor.workActive executorID run = false) :
    Unemployed store executorID := by
  intro run step item
  obtain ⟨row, found, same⟩ := Option.map_eq_some_iff.mp item.stored
  have present := Table.mem_of_find? found
  have listed : run ∈ runs := by
    refine (mem_activeRuns read).mpr ⟨row, present, ?_, same⟩
    rw [← (agreed row present).status, same, item.running]
    rfl
  have busy := workActive_iff.mpr ⟨item.running, item.external, item.bound, step, item.member, item.flying⟩
  rw [calm run listed] at busy
  cases busy

section Run

variable {plans : Table Plan.planID} {revision epoch : Int} {earlier : List Record} {last : Record}

theorem Watched.step (chronicle : Chronicle false (Store.fresh plans revision epoch) (last :: earlier) last.after)
    (unique : Along collisionFree (last :: earlier)) (fresh : Fresh last.before)
    (watched : Watched earlier last.before) : Watched (last :: earlier) last.after := by
  intro thread executorID runs read calm unclaimed
  obtain ⟨_, took, before⟩ := chronicle.cons
  -- unless the reading is this call, it was there before and stays good
  have older (read : lastRead (eventsOf thread earlier) = some runs)
      (other : ¬ (last.thread = thread ∧ last.event.call = .activeRuns)) : Unemployed last.after executorID := by
    have quiet : ¬ ClaimedSince thread executorID earlier := fun claimed => unclaimed ⟨other, .inr claimed⟩
    have idle := watched thread executorID runs read calm quiet
    intro run step item
    rcases item.origin chronicle unique fresh with ⟨old, was, flying, _⟩ | ⟨moved, request, asked, executor, _⟩
    · exact idle old was flying
    · exact unclaimed ⟨other, .inl ⟨moved, by rw [asked, ← executor]; rfl⟩⟩
  unfold eventsOf at read
  split at read
  next mine =>
    rcases lastRead_cons read with happened | ⟨read, other⟩
    · have truthful := took.truthful
      have effect := took.effect
      rw [happened] at truthful
      rw [show last.event.call = .activeRuns by rw [happened]] at effect
      rw [effect.resolve_right id]
      exact activeRuns_unemployed took.sane.agreed truthful calm
    · exact older read fun both => other both.2
  next foreign => exact older read fun both => foreign both.1

theorem Alone.step (chronicle : Chronicle false (Store.fresh plans revision epoch) (last :: earlier) last.after)
    (unique : Along collisionFree (last :: earlier)) (fresh : Fresh last.before) (watched : Watched earlier last.before)
    (settled : unraced earlier last) (alone : Alone last.before) : Alone last.after := by
  obtain ⟨_, took, before⟩ := chronicle.cons
  -- a claim that reaches the store finds its executor without work
  have unemployed (request : ExecutorLeaseClaimRequest) (asked : last.event.call = .claimLease request) :
      Unemployed last.before request.request.executorID := by
    have permitted := took.permitted
    rw [asked] at permitted
    obtain ⟨runs, read, calm⟩ := permitted
    exact watched last.thread request.request.executorID runs read calm (settled _ (by rw [asked]; rfl))
  intro executorID first second step other item also
  rcases item.origin chronicle unique fresh with
    ⟨old, was, flying, sameRun, sameStep⟩ | ⟨_, request, asked, rfl, ofRun, ofStep⟩
  · rcases also.origin chronicle unique fresh with
      ⟨twin, older, alsoFlying, twinRun, twinStep⟩ | ⟨_, request, asked, rfl, _⟩
    · obtain ⟨run, found⟩ := alone executorID old twin was older flying alsoFlying
      exact ⟨sameRun.symm.trans (run.trans twinRun), sameStep.symm.trans (found.trans twinStep)⟩
    · exact absurd flying (unemployed request asked old was)
  · rcases also.origin chronicle unique fresh with
      ⟨twin, older, flying, _⟩ | ⟨_, again, askedAgain, _, alsoRun, alsoStep⟩
    · exact absurd flying (unemployed request asked twin older)
    · rw [asked] at askedAgain
      cases askedAgain
      exact ⟨ofRun.symm.trans alsoRun, ofStep.symm.trans alsoStep⟩

theorem Chronicle.alone
    (chronicle : Chronicle false (Store.fresh plans revision epoch) history final)
    (unique : Along collisionFree history) (settled : Along unraced history) :
    Fresh final ∧ Watched history final ∧ Alone final := by
  induction history generalizing final with
  | nil =>
    have same : final = Store.fresh plans revision epoch := chronicle.linked
    rw [same]
    refine ⟨?_, ?_, ?_⟩
    · intro run stored
      cases stored
    · intro thread executorID runs read
      cases read
    · intro executorID first second step other item
      cases item.stored
  | cons last earlier ih =>
    obtain ⟨rfl, took, before⟩ := chronicle.cons
    obtain ⟨fresh, watched, alone⟩ := ih before unique.2 settled.2
    exact ⟨fresh.step took, watched.step chronicle unique fresh,
      alone.step chronicle unique fresh watched settled.1⟩

end Run

/-- In every run without resumptions whose claims are all asked for on a current
reading, an executor has one step in flight at most. -/
theorem one_work_item_per_executor {config : EngineConfig} {plans : Table Plan.planID} {revision epoch : Int}
    {deeds : List (Action world Unresuming)} {system : System world}
    (ran : executeUnresuming config (Store.fresh plans revision epoch) deeds = some system)
    (unique : Along collisionFree system.history) (settled : Along unraced system.history) : Alone system.state := by
  exact ((Chronicle.of_unresuming ran).alone unique settled).2.2

theorem workItem_of_active (active : ∃ run, store.document runID = some run ∧ run.runID = runID ∧
      ExternalExecutor.workActive executorID run = true) :
    ∃ run step, WorkItem store executorID run step ∧ run.runID = runID := by
  obtain ⟨run, stored, rfl, active⟩ := active
  obtain ⟨running, external, bound, step, member, flying⟩ := workActive_iff.mp active
  exact ⟨run, step, ⟨stored, running, external, bound, member, flying⟩, rfl⟩

/-! Two external plans for two targets of one executor. The first run is the only
one when the first claim reads the active runs; the second one is sorted before
it when the second claim does. -/

def otherPlan : Plan :=
  { samplePlan with planID := "other", operations := [{ sampleOperation with targetID := "elsewhere" }] }

def twoPlans : Store := Store.fresh ⟨[samplePlan, otherPlan], by decide⟩ 1 1

def worker : Principal := ⟨"worker", .localOSPeer, some .policy, ""⟩

def workRequest (nonceDigest : String) : ExecutorClaimRequest := ⟨"worker", "worker", "adapter", 1, nonceDigest, []⟩

def tells (thread : Nat) (answers : List Answer) : List (Action world Unresuming) := answers.map (.answer thread ·)

def submits (thread : Nat) (planID key : String) : List (Action world Unresuming) :=
  .spawn ⟨.submit { sampleSubmit with
    reference := { sampleSubmit.reference with planID := planID, idempotencyKey := key } }, rfl⟩ ::
  tells thread [accepted, passed, passed, passed, .clock 10, accepted, accepted, passed, accepted]

def looksForWork (thread : Nat) (time : Time) (nonceDigest : String) : List (Action world Unresuming) :=
  .spawn ⟨.claim worker (workRequest nonceDigest), rfl⟩ :: tells thread [.clock time, accepted, accepted]

def takesWork (thread : Nat) (leaseID : String) : List (Action world Unresuming) :=
  tells thread [accepted, passed, .adapter (.ok ⟨false, false, true⟩), .clock 12, .lease (.ok (leaseID, zeros)), accepted]

def twoClaims : List (Action world Unresuming) :=
  submits 0 "plan" "second" ++ looksForWork 1 11 ones ++ submits 2 "other" "first" ++ looksForWork 3 12 twos ++
  takesWork 3 "lease" ++ takesWork 1 "other"

theorem racing_claims_take_two_items :
    ∃ system, executeUnresuming sampleConfig twoPlans twoClaims = some system ∧ Along collisionFree system.history ∧
      ¬ Alone system.state := by
  have found : ((executeUnresuming sampleConfig twoPlans twoClaims).any fun system => clashFree system.history &&
      (system.state.document "first").any (fun run => run.runID == "first" && ExternalExecutor.workActive "worker" run) &&
      (system.state.document "second").any fun run =>
        run.runID == "second" && ExternalExecutor.workActive "worker" run) = true := by decide +kernel
  simp only [finds, checks] at found
  obtain ⟨system, ran, ⟨free, first⟩, second⟩ := found
  refine ⟨system, ran, along_of_clashFree free, fun alone => ?_⟩
  obtain ⟨run, step, item, named⟩ := workItem_of_active first
  obtain ⟨other, also, twin, otherwise⟩ := workItem_of_active second
  have same := (alone "worker" run other step also item twin).1
  rw [named, otherwise] at same
  exact absurd same (by decide)

theorem not_claimedSince (unclaimed : ∀ record ∈ history, claimant record.event.call = none)
    (thread : Nat) (executorID : String) : ¬ ClaimedSince thread executorID history := by
  induction history with
  | nil => exact id
  | cons last earlier ih =>
    obtain ⟨here, others⟩ := List.forall_mem_cons.mp unclaimed
    rintro ⟨_, ⟨_, claims⟩ | older⟩
    · rw [here] at claims
      cases claims
    · exact ih others older

theorem along_unraced (unclaimed : ∀ record ∈ history.tail, claimant record.event.call = none) :
    Along unraced history := by
  induction history with
  | nil => trivial
  | cons last earlier ih =>
    refine ⟨fun executorID _ => not_claimedSince unclaimed last.thread executorID, ih ?_⟩
    exact fun record member => unclaimed record (List.mem_of_mem_tail member)

/-- The claim alone, on its own reading. -/
theorem claim_takes_one_item :
    ∃ system run step, executeUnresuming sampleConfig twoPlans
        (submits 0 "plan" "second" ++ looksForWork 1 11 ones ++ takesWork 1 "lease") = some system ∧
      WorkItem system.state "worker" run step ∧ Alone system.state := by
  have found : ((executeUnresuming sampleConfig twoPlans
      (submits 0 "plan" "second" ++ looksForWork 1 11 ones ++ takesWork 1 "lease")).any fun system =>
      clashFree system.history && system.history.tail.all (fun record => claimant record.event.call == none) &&
      (system.state.document "second").any fun run =>
        run.runID == "second" && ExternalExecutor.workActive "worker" run) = true := by decide +kernel
  simp only [finds, checks] at found
  obtain ⟨system, ran, ⟨free, unclaimed⟩, active⟩ := found
  obtain ⟨run, step, item, _⟩ := workItem_of_active active
  exact ⟨system, run, step, ran, item, one_work_item_per_executor ran (along_of_clashFree free) (along_unraced unclaimed)⟩

end VskLabs

import VskLabs.Run.ReceiptAuthority
import VskLabs.Run.StepRows

/-! The consistency of runs and steps: which stages a step can be in, what the
status of a run says about its steps, and that the step rows repeat the document. -/

namespace VskLabs
open Library RunRepository ExecutorLeaseRepository

def stages : List Stage :=
  [(.queued, .notStarted), (.running, .intentRecorded), (.running, .receiptRecorded), (.succeeded, .verified),
    (.failed, .verified), (.partialOutcome, .verified), (.partialOutcome, .effectUnknown), (.failed, .notStarted),
    (.interrupted, .notStarted), (.cancelled, .notStarted)]

variable {step : RunStep}

theorem stages_succeeded (proper : step.stage ∈ stages) (succeeded : step.status = .succeeded) :
    step.stage = (.succeeded, .verified) := by
  simp only [stages, RunStep.stage, succeeded, List.mem_cons, Prod.mk.injEq, reduceCtorEq, false_and, false_or, true_and,
    List.not_mem_nil, or_false] at proper
  rw [RunStep.stage, succeeded, proper]

theorem stages_unknown (proper : step.stage ∈ stages) (unknown : step.effectState = .effectUnknown) :
    step.status = .partialOutcome := by
  simpa [stages, RunStep.stage, unknown] using proper

variable {runID stepID : String} {query : Call} {old new : Stage}

theorem Move.stages (move : Move runID stepID query old new)
    (proper : old ∈ VskLabs.stages) : new ∈ VskLabs.stages := by
  cases move with
  | begun | claimed | received | reported | doubted | failed | interrupted | requeued => decide
  | finished request _ _ result =>
    simp only [List.mem_cons, List.not_mem_nil, or_false] at result
    rcases result with same | same | same
    · rw [same]
      decide
    · rw [same]
      decide
    · rw [same]
      decide
  | closed request _ status effect closing =>
    have untouched : effect = .notStarted := by
      cases effect with
      | notStarted => rfl
      | _ => exact absurd proper (by decide)
    subst untouched
    simp only [List.mem_cons, List.not_mem_nil, or_false] at closing
    rcases closing with rfl | rfl
    · decide
    · decide

theorem Move.unsettled (move : Move runID stepID query old new) :
    old.1 = .queued ∨ old.1 = .running ∨ old.1 = .interrupted := by
  cases move with
  | begun | claimed | closed => exact .inl rfl
  | received | reported | finished | doubted | failed | interrupted => exact .inr (.inl rfl)
  | requeued => exact .inr (.inr rfl)

theorem Edited.ids {old new : Run} (law : Edited query old new) :
    new.steps.map RunStep.stepID = old.steps.map RunStep.stepID := by
  obtain ⟨edit, steps, edits⟩ := law.steps
  rw [steps, List.map_map]
  exact List.map_congr_left fun step member => (edits step member).1

theorem Edited.status {old new : Run} (law : Edited query old new) :
    (new.status = old.status ∧ new.verificationStatus = old.verificationStatus) ∨
      ∃ request, query = .mutate (.transitionRun request) ∧ request.runID = old.runID ∧ new.status = request.target ∧
        new.verificationStatus = request.verificationStatus.getD old.verificationStatus := by
  cases law.shift with
  | kept status verification => exact .inl ⟨status, verification⟩
  | moved request ofRun _ _ target verification => exact .inr ⟨request, rfl, ofRun, target, verification⟩

/-! ### What lasts -/

def HasPartial (run : Run) : Prop := ∃ step ∈ run.steps, step.status = .partialOutcome

def HasDone (stepID : String) (run : Run) : Prop :=
  ∃ step, findStep run stepID = some step ∧ step.stage = (.succeeded, .verified)

theorem lasting_partial : Lasting HasPartial := by
  rintro query old new law ⟨step, member, failed⟩
  obtain ⟨edit, steps, edits⟩ := law.steps
  refine ⟨edit step, by rw [steps]; exact List.mem_map_of_mem member, ?_⟩
  rcases (edits step member).2 with same | move
  · exact (congrArg Prod.fst same).trans failed
  · rcases move.unsettled with queued | running | interrupted
    · cases failed.symm.trans queued
    · cases failed.symm.trans running
    · cases failed.symm.trans interrupted

theorem lasting_done (stepID : String) : Lasting (HasDone stepID) := by
  rintro query old new law ⟨step, found, done⟩
  rcases law.findStep stepID with ⟨absent, _⟩ | ⟨before, after, was, now, same | move⟩
  · rw [found] at absent
    cases absent
  · rw [found] at was
    cases was
    exact ⟨after, now, same.trans done⟩
  · rw [found] at was
    cases was
    rw [done] at move
    rcases move.unsettled with queued | running | interrupted
    · cases queued
    · cases running
    · cases interrupted

def AllSucceeded (run : Run) : Prop := ∀ step ∈ run.steps, step.stage = (.succeeded, .verified)

theorem lasting_succeeded : Lasting AllSucceeded := by
  intro query old new law done step member
  obtain ⟨was, present, _, same | move⟩ := law.origin member
  · rw [same]
    exact done was present
  · rw [done was present] at move
    rcases move.unsettled with queued | running | interrupted
    · cases queued
    · cases running
    · cases interrupted

theorem lasting_stages : Lasting fun run => ∀ step ∈ run.steps, step.stage ∈ stages := by
  intro query old new law proper step member
  obtain ⟨was, present, _, same | move⟩ := law.origin member
  · rw [same]
    exact proper was present
  · exact move.stages (proper was present)

theorem lasting_distinct : Lasting fun run => (run.steps.map RunStep.stepID).Nodup := by
  intro query old new law distinct
  rw [law.ids]
  exact distinct

theorem lasting_ids (ids : List String) : Lasting fun run => run.steps.map RunStep.stepID = ids :=
  fun _ _ _ law same => law.ids.trans same

variable {fact : Run → Prop} {record : Record} {thread : Nat} {run document : Run}

section History

variable {resumes : Bool} {plans : Table Plan.planID} {revision epoch : Int} {history : List Record} {final : Store}

variable {newer older : List Record} {key : IntentKey}

theorem Chronicle.lasting (lasting : Lasting fact)
    (chronicle : Chronicle resumes (Store.fresh plans revision epoch) (newer ++ record :: older) final)
    (unique : Along collisionFree (newer ++ record :: older)) {planID : String}
    (made : Made (record :: older) runID planID) (held : ∀ run, Store.document record.after runID = some run → fact run) :
    ∀ run, final.document runID = some run → fact run := by
  induction newer generalizing final with
  | nil =>
    obtain ⟨rfl, _⟩ := chronicle.cons
    exact held
  | cons last rest ih =>
    obtain ⟨rfl, took, before⟩ := chronicle.cons
    have earlier := ih before unique.2
    intro run stored
    rcases took.documents.stored stored with stored | ⟨request, asked, law, here, _⟩ | ⟨old, found, here, law⟩
    · exact earlier run stored
    · have inside : record :: older ⊆ rest ++ record :: older := List.subset_append_right _ _
      exact absurd (here ▸ made.grow inside) (before.made_once unique.1 asked law)
    · rw [here] at earlier
      exact lasting _ old run law (earlier old found)

theorem Chronicle.stage_lasting (lasting : Lasting fact)
    (chronicle : Chronicle resumes (Store.fresh plans revision epoch) (newer ++ record :: older) final)
    (unique : Along collisionFree (newer ++ record :: older)) {stage : Stage}
    (reached : Store.stage record.after runID stepID = some stage)
    (held : ∀ run step, findStep run stepID = some step → step.stage = stage → fact run) :
    ∀ run, final.document runID = some run → fact run := by
  obtain ⟨run, stored, step, found, same⟩ : ∃ run, Store.document record.after runID = some run ∧
      ∃ step, findStep run stepID = some step ∧ step.stage = stage := by
    simpa [Store.stage, Option.bind_eq_some_iff] using reached
  refine chronicle.lasting lasting unique (chronicle.upto.stored_made stored) ?_
  intro other again
  rw [stored] at again
  cases again
  exact held run step found same

theorem Chronicle.keeps
    (chronicle : Chronicle resumes (Store.fresh plans revision epoch) (newer ++ record :: older) final)
    (recorded : Store.Recorded record.after key) : final.Recorded key := by
  induction newer generalizing final with
  | nil =>
    obtain ⟨rfl, _⟩ := chronicle.cons
    exact recorded
  | cons last rest ih =>
    obtain ⟨rfl, took, before⟩ := chronicle.cons
    exact took.kept.keys key (ih before)

variable (chronicle : Chronicle resumes (Store.fresh plans revision epoch) history final)
include chronicle

theorem Chronicle.saw_lasting (lasting : Lasting fact)
    (unique : Along collisionFree history) (saw : Saw (eventsOf thread history) run)
    (held : fact run) (stored : final.document run.runID = some document) : fact document := by
  obtain ⟨newer, record, older, rfl, delivered⟩ := chronicle.saw_stored saw
  refine chronicle.lasting lasting unique (chronicle.upto.stored_made delivered) ?_ document stored
  intro other same
  rw [delivered] at same
  cases same
  exact held

theorem Chronicle.proper (stored : final.document runID = some run) : ∀ step ∈ run.steps, step.stage ∈ stages := by
  refine chronicle.every lasting_stages ?_ runID run stored
  intro past request plan submitted _ step member
  obtain ⟨queued, untouched⟩ := submitted.steps step member
  rw [RunStep.stage, queued, untouched]
  decide

theorem Chronicle.distinct (stored : final.document runID = some run) : (run.steps.map RunStep.stepID).Nodup := by
  refine chronicle.every lasting_distinct ?_ runID run stored
  intro past request plan submitted _
  have accepted := submitted.admissible
  simp only [RunRepository.admissible, checks] at accepted
  exact validRunDocument_distinct accepted.2

theorem Chronicle.recorded_at (recorded : final.Recorded key) :
    ∃ newer record older, history = newer ++ record :: older ∧ ¬ Store.Recorded record.before key ∧
      Store.Recorded record.after key ∧ record.event.call.key = some key := by
  refine Chronicle.induct (motive := fun history store => store.Recorded key →
    ∃ newer record older, history = newer ++ record :: older ∧ ¬ Store.Recorded record.before key ∧
      Store.Recorded record.after key ∧ record.event.call.key = some key) ?_ ?_ chronicle recorded
  · intro recorded
    cases recorded
  · intro earlier last _ took ih recorded
    by_cases old : Store.Recorded last.before key
    · obtain ⟨newer, record, older, rfl, found⟩ := ih old
      exact ⟨last :: newer, record, older, rfl, found⟩
    · rcases took.kept.new key recorded with past | own
      · exact absurd past old
      · exact ⟨[], last, earlier, rfl, old, recorded, own⟩

end History

/-! ### What a step was finished or marked with -/

def StepFinishRequest.key (request : StepFinishRequest) : IntentKey :=
  .runMutation request.runID (.stepFinished request.receipt.receiptID)

def freshFinish (query : Call) (store : Store) : Prop :=
  ∀ request, query = .mutate (.finishStep request) → ¬ store.Recorded request.key

variable {store after : Store} {request : StepFinishRequest} {result : Option Run}

theorem finish_moves (agreed : store.Agreed)
    (unused : ¬ store.Recorded request.key) (done : finishStep store request = .ok (result, after)) :
    after.stage request.runID request.stepID = some (request.status, .verified) := by
  obtain ⟨verified, _, effected⟩ := finishStep_law done
  rw [verified] at effected
  rcases effected.wrote agreed with ⟨recorded, _⟩ | ⟨old, run, middle, _, stored, _, _, _, law, wrote⟩
  · exact absurd recorded unused
  · obtain ⟨step, found, _, _, _, _, ⟨status, effect, rfl, _⟩ | ⟨_, _, rfl, _⟩⟩ := law
    · simp [Store.stage, wrote.document, found, RunStep.stage, status, effect]
    · exact wrote.stage found rfl

variable {time : Time}

theorem mark_moves
    (agreed : store.Agreed) (unused : ¬ store.Recorded (.runMutation runID (.stepEffectUnknown stepID time)))
    (done : markStepUnknown store runID stepID time = .ok (result, after)) :
    after.stage runID stepID = some (.partialOutcome, .effectUnknown) := by
  rcases (settleStep_law done).wrote agreed with ⟨recorded, _⟩ | ⟨old, run, middle, _, stored, _, _, _, law, wrote⟩
  · exact absurd recorded unused
  · obtain ⟨⟨step, found, _⟩, rfl, _⟩ := law
    exact wrote.stage found rfl

theorem mark_records
    (agreed : store.Agreed) (done : markStepUnknown store runID stepID time = .ok (result, after)) :
    after.Recorded (.runMutation runID (.stepEffectUnknown stepID time)) := by
  rcases (settleStep_law done).wrote agreed with ⟨recorded, _, rfl⟩ | ⟨_, _, _, _, _, _, _, _, _, wrote⟩
  · exact recorded
  · exact (wrote.recorded _).mpr (.inl rfl)

theorem key_eq_mark
    (own : query.key = some (.runMutation runID (.stepEffectUnknown stepID time))) :
    query = .mutate (.markStepUnknown runID stepID time) := by
  cases query with
  | mutate mutation =>
    cases mutation with
    | markStepUnknown =>
      simp only [Call.key, Mutation.event, Mutation.runID, Option.some.injEq, IntentKey.runMutation.injEq,
        RunEvent.stepEffectUnknown.injEq] at own
      obtain ⟨rfl, rfl, rfl⟩ := own
      rfl
    | _ => simp [Call.key, Mutation.event] at own
  | _ => simp [Call.key] at own

/-! ### What a thread knows is still so -/

section Evidence

variable {resumes : Bool} {plans : Table Plan.planID} {revision epoch : Int} {history : List Record} {final : Store}
  (chronicle : Chronicle resumes (Store.fresh plans revision epoch) history final)
include chronicle

theorem Chronicle.saw_proper (saw : Saw (eventsOf thread history) run) : ∀ step ∈ run.steps, step.stage ∈ stages := by
  obtain ⟨newer, record, older, rfl, delivered⟩ := chronicle.saw_stored saw
  exact chronicle.upto.proper delivered

theorem Chronicle.marked (unique : Along collisionFree history)
    (recorded : final.Recorded (.runMutation runID (.stepEffectUnknown stepID time))) :
    ∀ run, final.document runID = some run → HasPartial run := by
  obtain ⟨newer, record, older, rfl, unused, kept, own⟩ := chronicle.recorded_at recorded
  have asked := key_eq_mark own
  have took := chronicle.split.1
  have reached : Store.stage record.after runID stepID = some (.partialOutcome, .effectUnknown) := by
    rcases took.effect with same | committed
    · exact absurd (same ▸ kept) unused
    · rw [asked] at committed
      obtain ⟨result, ran⟩ := committed
      exact mark_moves took.sane.agreed unused ran
  refine chronicle.stage_lasting lasting_partial unique reached ?_
  intro run step found stage
  exact ⟨step, List.mem_of_find?_eq_some found, congrArg Prod.fst stage⟩

theorem Chronicle.mirrored (steady : ∀ record ∈ history, steadyReceipt record.event.call record.before) : final.Mirrored := by
  refine Chronicle.induct (motive := fun history store =>
    (∀ record ∈ history, steadyReceipt record.event.call record.before) → store.Mirrored) ?_ ?_ chronicle steady
  · intro _
    refine ⟨?_, ?_⟩
    · intro runID run stored
      cases stored
    · intro row member
      cases member
  · intro earlier last _ took ih steady
    obtain ⟨here, others⟩ := List.forall_mem_cons.mp steady
    have mirrored := ih others
    rcases took.effect with same | committed
    · rw [same]
      exact mirrored
    · exact committed.mirrored took.sane.agreed mirrored here

variable (unique : Along collisionFree history)
  (fresh : ∀ record ∈ history, freshFinish record.event.call record.before)
include unique fresh

theorem Chronicle.finished (lasting : Lasting fact)
    (done : Done (eventsOf thread history) (.finishStep request))
    (held : ∀ run step, findStep run request.stepID = some step → step.stage = (request.status, .verified) → fact run) :
    ∀ run, final.document request.runID = some run → fact run := by
  obtain ⟨result, member⟩ := done
  obtain ⟨record, present, _, same⟩ := mem_eventsOf member
  have unused := fresh record present request (by rw [same])
  obtain ⟨newer, older, rfl⟩ := List.append_of_mem present
  have took := chronicle.split.1
  have ran := took.truthful
  rw [same] at ran
  exact chronicle.stage_lasting lasting unique (finish_moves took.sane.agreed unused ran) held

theorem Chronicle.stepDone (done : StepDone (eventsOf thread history) runID stepID)
    (stored : final.document runID = some document) (present : stepID ∈ document.steps.map RunStep.stepID) :
    HasDone stepID document := by
  rcases done with ⟨run, step, saw, rfl, found, succeeded⟩ | ⟨request, done, rfl, rfl, succeeded⟩ | ⟨run, saw, rfl, absent⟩
  · refine chronicle.saw_lasting (lasting_done stepID) unique saw ⟨step, found, ?_⟩ stored
    exact stages_succeeded (chronicle.saw_proper saw step (List.mem_of_find?_eq_some found)) succeeded
  · refine chronicle.finished unique fresh (lasting_done request.stepID) done ?_ document stored
    intro run step found stage
    exact ⟨step, found, by rw [stage, succeeded]⟩
  · have ids := chronicle.saw_lasting (lasting_ids _) unique saw rfl stored
    rw [ids] at present
    obtain ⟨step, member, same⟩ := List.mem_map.mp present
    have missing := List.find?_eq_none.mp absent step member
    simp [same] at missing

theorem Chronicle.allDone (done : AllDone (eventsOf thread history) runID)
    (stored : final.document runID = some document) : AllSucceeded document := by
  obtain ⟨run, saw, rfl, each⟩ := done
  intro step member
  have ids := chronicle.saw_lasting (lasting_ids _) unique saw rfl stored
  have listed : step.stepID ∈ document.steps.map RunStep.stepID := List.mem_map_of_mem member
  have known := listed
  rw [ids] at known
  obtain ⟨old, inside, same⟩ := List.mem_map.mp known
  obtain ⟨other, found, stage⟩ := chronicle.stepDone unique fresh (same ▸ each old inside) stored listed
  have mine := findStep_stepID found
  rw [← stage, List.inj_on_of_nodup_map (chronicle.distinct stored) member (List.mem_of_find?_eq_some found) mine.symm]

theorem Chronicle.partialSeen (seen : PartialSeen (eventsOf thread history) runID)
    (stored : final.document runID = some document) : HasPartial document := by
  rcases seen with ⟨run, saw, rfl, step, member, sign⟩ | ⟨stepID, time, result, member⟩ | ⟨request, done, rfl, outcome⟩
  · refine chronicle.saw_lasting lasting_partial unique saw ⟨step, member, ?_⟩ stored
    rcases sign with failed | unknown
    · exact failed
    · exact stages_unknown (chronicle.saw_proper saw step member) unknown
  · obtain ⟨record, present, _, same⟩ := mem_eventsOf member
    obtain ⟨newer, older, rfl⟩ := List.append_of_mem present
    have ran := chronicle.split.1.truthful
    rw [same] at ran
    have recorded := mark_records chronicle.split.1.sane.agreed ran
    exact chronicle.marked unique (chronicle.keeps recorded) document stored
  · refine chronicle.finished unique fresh lasting_partial done ?_ document stored
    intro run step found stage
    refine ⟨step, List.mem_of_find?_eq_some found, ?_⟩
    rw [← outcome]
    exact congrArg Prod.fst stage

structure Run.Backed (run : Run) : Prop where
  succeeded : run.status = .succeeded → AllSucceeded run ∧ run.verificationStatus = .verified
  ambiguous : run.status = .partialOutcome → HasPartial run

theorem Chronicle.backed (stored : final.document runID = some run) : run.Backed := by
  induction history generalizing final runID run with
  | nil =>
    have same : final = Store.fresh plans revision epoch := chronicle.linked
    rw [same] at stored
    cases stored
  | cons last earlier ih =>
    obtain ⟨rfl, took, before⟩ := chronicle.cons
    have past := fun record member => fresh record (.tail _ member)
    have earlierBacked := fun {runID run} => @ih runID run _ before unique.2 past
    rcases took.documents.stored stored with stored | ⟨request, asked, _, _, rfl⟩ | ⟨old, found, _, law⟩
    · exact earlierBacked stored
    · obtain ⟨plan, submitted⟩ := took.submitted asked
      have accepted := submitted.admissible
      simp only [RunRepository.admissible, checks] at accepted
      have queued : request.run.status = .queued := by tauto
      refine ⟨?_, ?_⟩
      · intro succeeded
        cases queued.symm.trans succeeded
      · intro ambiguous
        cases queued.symm.trans ambiguous
    · have backed := earlierBacked found
      rcases law.status with ⟨status, verification⟩ | ⟨request, asked, ofRun, target, verification⟩
      · refine ⟨?_, ?_⟩
        · intro succeeded
          obtain ⟨done, verified⟩ := backed.succeeded (status.symm.trans succeeded)
          exact ⟨lasting_succeeded _ old run law done, verification.trans verified⟩
        · intro ambiguous
          exact lasting_partial _ old run law (backed.ambiguous (status.symm.trans ambiguous))
      · have permitted := took.permitted
        rw [asked] at permitted
        refine ⟨?_, ?_⟩
        · intro succeeded
          obtain ⟨verified, done⟩ := permitted.success (target.symm.trans succeeded)
          rw [ofRun] at done
          refine ⟨lasting_succeeded _ old run law (before.allDone unique.2 past done found), ?_⟩
          rw [verification, verified]
          rfl
        · intro ambiguous
          have seen := permitted.ambiguity (target.symm.trans ambiguous)
          rw [ofRun] at seen
          exact lasting_partial _ old run law (before.partialSeen unique.2 past seen found)

end Evidence

structure Store.Consistent (store : Store) : Prop where
  proper : ∀ runID run, store.document runID = some run → ∀ step ∈ run.steps, step.stage ∈ stages
  backed : ∀ runID run, store.document runID = some run → run.Backed
  mirrored : store.Mirrored

/-- In every run whose external receipts are recorded while their runs are running
and whose steps are finished under fresh receipt ids, the store stays consistent. -/
theorem runs_stay_consistent {config : EngineConfig} {plans : Table Plan.planID} {revision epoch : Int}
    {deeds : List Deed} {system : System world}
    (ran : execute config (Store.fresh plans revision epoch) deeds = some system)
    (unique : Along collisionFree system.history)
    (regular : ∀ record ∈ system.history, steadyReceipt record.event.call record.before ∧
      freshFinish record.event.call record.before) : Store.Consistent system.state := by
  have chronicle := Chronicle.of_execute ran
  refine ⟨?_, ?_, ?_⟩
  · intro runID run stored
    exact chronicle.proper stored
  · intro runID run stored
    exact chronicle.backed unique (fun record member => (regular record member).2) stored
  · exact chronicle.mirrored fun record member => (regular record member).1

/-! The work is claimed after a cancellation has read the run and before the
cancellation interrupts it. The receipt then moves the row of the step alone. -/

def looks : List Deed := .spawn (.claim worker (workRequest ones)) :: tell 1 [.clock 11, accepted, accepted]

def takes : List Deed :=
  tell 1 [accepted, passed, .adapter (.ok ⟨false, false, true⟩), .clock 12, .lease (.ok ("lease", zeros)), accepted]

def reports (thread : Nat) : List Deed :=
  .spawn (.submitReceipt worker ⟨workReceipt, zeros, []⟩) ::
  tell thread [accepted, accepted, accepted, passed, .adapter (.ok ⟨false, false, true⟩), .clock 14, accepted]

def cancelledUnderClaim : List Deed :=
  submitsExternal ++ looks ++ .spawn (.cancelAs "run") :: tell 2 [accepted] ++ takes ++ tell 2 [.clock 13, accepted] ++
  reports 3

def StepRow.shows (runID : String) (step : RunStep) (row : StepRow) : Bool :=
  row.runID == runID && row.stepID == step.stepID && row.stage == step.stage

theorem interrupted_run_splits_step :
    ∃ system, execute sampleConfig sampleStore cancelledUnderClaim = some system ∧ Along collisionFree system.history ∧
      ¬ Store.Consistent system.state := by
  have found : ((execute sampleConfig sampleStore cancelledUnderClaim).any fun system => clashFree system.history &&
      (system.state.document "run").any fun run => run.steps.any fun step =>
        system.state.steps.rows.all fun row => !row.shows "run" step) = true := by decide +kernel
  simp only [finds, checks] at found
  obtain ⟨system, ran, free, run, stored, step, member, unshown⟩ := found
  refine ⟨system, ran, along_of_clashFree free, fun consistent => ?_⟩
  obtain ⟨row, present, ofRun, ofStep, stage⟩ := consistent.mirrored.shown "run" run stored step member
  have hidden := unshown row present
  simp [StepRow.shows, ofRun, ofStep, stage] at hidden

/-- The call records a receipt while its run runs, and finishes under a new receipt id. -/
def regular (record : Record) : Bool :=
  match record.event.call with
  | .recordExternalReceipt request =>
    (Store.document record.before request.request.receipt.runID).all fun run => run.status == .running
  | .mutate (.finishStep request) => ((Store.intents record.before).find? request.key).isNone
  | _ => true

theorem regular_spec (calm : regular record = true) :
    steadyReceipt record.event.call record.before ∧ freshFinish record.event.call record.before := by
  refine ⟨?_, ?_⟩
  · intro request asked _ run stored
    simpa [regular, asked, stored] using calm
  · intro request asked recorded
    rw [Store.Recorded] at recorded
    simp [regular, asked] at calm
    simp [calm] at recorded

/-- The run of the same work without the cancellation, to the end of its step. -/
theorem uncancelled_work_stays_consistent :
    ∃ system run, execute sampleConfig sampleStore
        (submitsExternal ++ looks ++ takes ++ reports 2 ++ tell 2 [.receipt (⟨true, twos, true⟩, none), accepted, accepted,
          accepted]) = some system ∧
      system.state.document "run" = some run ∧ run.status = .succeeded ∧ Store.Consistent system.state := by
  have found : ((execute sampleConfig sampleStore
        (submitsExternal ++ looks ++ takes ++ reports 2 ++ tell 2 [.receipt (⟨true, twos, true⟩, none), accepted, accepted,
          accepted])).any fun system => clashFree system.history && system.history.all regular &&
      (system.state.document "run").any fun run => run.status == .succeeded) = true := by decide +kernel
  simp only [finds, checks] at found
  obtain ⟨system, ran, ⟨free, calm⟩, run, stored, succeeded⟩ := found
  exact ⟨system, run, ran, stored, succeeded, runs_stay_consistent ran (along_of_clashFree free) fun record member =>
    regular_spec (calm record member)⟩

end VskLabs

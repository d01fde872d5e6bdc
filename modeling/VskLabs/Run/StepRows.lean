import VskLabs.Run.Documents

/-! The rows of `plan_run_steps` beside the steps in the documents. Every guarded
update of a row runs next to a write of the document; the rows follow as long as
the document is written too. -/

namespace VskLabs
open Library RunRepository ExecutorLeaseRepository

def StepRow.stage (row : StepRow) : Stage := (row.status, row.effectState)

/-- The row of the step has the stage. -/
def Store.Shows (store : Store) (runID stepID : String) (stage : Stage) : Prop :=
  ∃ row ∈ store.steps.rows, row.runID = runID ∧ row.stepID = stepID ∧ row.stage = stage

structure Store.Mirrored (store : Store) : Prop where
  shown : ∀ runID run, store.document runID = some run → ∀ step ∈ run.steps, store.Shows runID step.stepID step.stage
  rooted : ∀ row ∈ store.steps.rows, ∃ run, store.document row.runID = some run ∧ row.stepID ∈ run.steps.map RunStep.stepID

/-- The rows of some steps of a run follow a rewrite of those steps. -/
structure Carried (runID : String) (steps new : List RunStep) (store after : Store) : Prop where
  ids : new.map RunStep.stepID = steps.map RunStep.stepID
  shown : (steps.map RunStep.stepID).Nodup → (∀ step ∈ steps, store.Shows runID step.stepID step.stage) →
    ∀ step ∈ new, after.Shows runID step.stepID step.stage
  others : ∀ other stepID stage, store.Shows other stepID stage → (other = runID → stepID ∉ steps.map RunStep.stepID) →
    after.Shows other stepID stage
  rows : ∀ row ∈ after.steps.rows, ∃ old ∈ store.steps.rows, old.runID = row.runID ∧ old.stepID = row.stepID

theorem Carried.refl (runID : String) (steps : List RunStep) (store : Store) : Carried runID steps steps store store :=
  ⟨rfl, fun _ shown => shown, fun _ _ _ shown _ => shown, fun row member => ⟨row, member, rfl, rfl⟩⟩

variable {runID stepID : String} {step changed : RunStep} {store middle after : Store}

theorem Carried.cons {rest others : List RunStep}
    (first : Carried runID [step] [changed] store middle) (second : Carried runID rest others middle after) :
    Carried runID (step :: rest) (changed :: others) store after := by
  have same : changed.stepID = step.stepID := by simpa using first.ids
  constructor
  case ids => rw [List.map_cons, List.map_cons, second.ids, same]
  case shown =>
    intro distinct shown
    rw [List.map_cons, List.nodup_cons] at distinct
    obtain ⟨here, later⟩ := List.forall_mem_cons.mp shown
    refine List.forall_mem_cons.mpr ⟨?_, ?_⟩
    · have moved := first.shown (by simp) (by simpa using here) changed (.head _)
      exact second.others _ _ _ moved fun _ => by rw [same]; exact distinct.1
    · apply second.shown distinct.2
      intro other member
      apply first.others _ _ _ (later other member)
      intro _ clash
      rw [List.map_singleton, List.mem_singleton] at clash
      exact distinct.1 (clash ▸ List.mem_map_of_mem member)
  case others =>
    intro other stepID stage shown apart
    simp only [List.map_cons, List.mem_cons, not_or] at apart
    refine second.others _ _ _ (first.others _ _ _ shown fun mine => ?_) fun mine => (apart mine).2
    simpa using (apart mine).1
  case rows =>
    intro row member
    obtain ⟨old, present, sameRun, sameStep⟩ := second.rows row member
    obtain ⟨oldest, before, alsoRun, alsoStep⟩ := first.rows old present
    exact ⟨oldest, before, alsoRun.trans sameRun, alsoStep.trans sameStep⟩

variable {guard : StepRow → Bool}

theorem carried_of_modify
    {change : StepRow → StepRow} (keeps : ∀ row, (change row).stepID = row.stepID)
    (sameRun : ∀ row, (change row).runID = row.runID) (same : changed.stepID = step.stepID)
    (moved : ∀ row : StepRow, row.stage = step.stage → guard row = true ∧ (change row).stage = changed.stage) :
    Carried runID [step] [changed] store { store with
      steps := store.steps.modify (fun row => row.stepID == step.stepID && row.runID == runID && guard row) change keeps } := by
  constructor
  case ids => simp [same]
  case shown =>
    intro _ shown other member
    obtain rfl := List.mem_singleton.mp member
    obtain ⟨row, present, ofRun, ofStep, stage⟩ := shown step (.head _)
    obtain ⟨chosen, now⟩ := moved row stage
    refine ⟨change row, ?_, ?_, ?_, now⟩
    · exact List.mem_map.mpr ⟨row, present, if_pos (by simp [ofRun, ofStep, chosen])⟩
    · rw [sameRun, ofRun]
    · rw [keeps, ofStep, same]
  case others =>
    rintro other stepID stage ⟨row, present, ofRun, ofStep, sameStage⟩ apart
    refine ⟨row, ?_, ofRun, ofStep, sameStage⟩
    refine List.mem_map.mpr ⟨row, present, if_neg ?_⟩
    intro chosen
    simp only [checks] at chosen
    apply apart (ofRun.symm.trans chosen.1.2)
    rw [List.map_singleton, List.mem_singleton]
    exact ofStep.symm.trans chosen.1.1
  case rows =>
    intro row member
    obtain ⟨old, present, rfl⟩ := List.mem_map.mp member
    refine ⟨old, present, ?_⟩
    split
    · exact ⟨(sameRun old).symm, (keeps old).symm⟩
    · exact ⟨rfl, rfl⟩

theorem carried_of_updateStep
    (same : changed.stepID = step.stepID) (accepts : ∀ row : StepRow, row.stage = step.stage → guard row = true) :
    Carried runID [step] [changed] store
      (store.updateStep runID step.stepID guard changed.status changed.effectState) :=
  carried_of_modify _ (fun _ => rfl) same fun row stage => ⟨accepts row stage, rfl⟩

variable {status : Status} {effectState : EffectState}

theorem carried_of_writeStep {run : Run}
    (found : findStep run stepID = some step)
    (accepts : ∀ row : StepRow, row.stage = step.stage → guard row = true) :
    Carried run.runID run.steps (run.writeStep stepID status effectState).steps store
      (store.updateStep run.runID stepID guard status effectState) := by
  have mine := findStep_stepID found
  have inside := List.mem_of_find?_eq_some found
  have row : Carried run.runID [step] [{ step with status := status, effectState := effectState }] store
      (store.updateStep run.runID stepID guard status effectState) := by
    rw [← mine]
    exact carried_of_updateStep rfl accepts
  constructor
  case ids =>
    simp only [Run.writeStep, List.map_map]
    apply List.map_congr_left
    intro other _
    simp only [Function.comp]
    split
    · rfl
    · rfl
  case shown =>
    intro distinct shown changed member
    obtain ⟨other, present, rfl⟩ := List.mem_map.mp member
    split
    next here =>
      have here : other.stepID = stepID := by simpa using here
      obtain rfl : other = step := List.inj_on_of_nodup_map distinct present inside (here.trans mine.symm)
      exact row.shown (by simp) (by simpa using shown other present) _ (.head _)
    next away =>
      apply row.others _ _ _ (shown other present)
      intro _ clash
      rw [List.map_singleton, List.mem_singleton] at clash
      simp [clash, mine] at away
  case others =>
    intro other wanted stage shown apart
    apply row.others _ _ _ shown
    intro same clash
    rw [List.map_singleton, List.mem_singleton] at clash
    exact apart same (clash ▸ List.mem_map_of_mem inside)
  case rows => exact row.rows

theorem requeueSteps_carried {steps requeued : List RunStep}
    (done : requeueSteps runID steps store = .ok (requeued, after)) : Carried runID steps requeued store after := by
  induction steps generalizing store requeued with
  | nil =>
    simp only [requeueSteps, peel, Prod.mk.injEq] at done
    obtain ⟨rfl, rfl⟩ := done
    exact .refl runID [] store
  | cons step rest ih =>
    obtain ⟨others, middle, ran, rfl, ⟨other, rfl⟩ | ⟨interrupted, untouched, rfl⟩⟩ := requeueSteps_cons done
    · rw [requeueStep, if_neg other]
      exact (Carried.refl runID [step] middle).cons (ih ran)
    · rw [requeueStep, if_pos interrupted]
      refine Carried.cons ?_ (ih ran)
      refine carried_of_modify _ (fun _ => rfl) rfl ?_
      intro row stage
      simp only [StepRow.stage, RunStep.stage, Prod.mk.injEq] at stage ⊢
      exact ⟨by simp [stage.1, stage.2, interrupted, untouched], trivial, untouched.symm⟩

theorem closeSteps_carried (runID : String) (status : Status) (steps : List RunStep) (store : Store) :
    Carried runID steps (closeSteps runID status steps store).1 store (closeSteps runID status steps store).2 := by
  induction steps generalizing store with
  | nil => exact .refl runID [] store
  | cons step rest ih =>
    simp only [closeSteps]
    split
    next => exact (Carried.refl runID [step] store).cons (ih store)
    next waiting =>
      have queued : step.status = .queued := by simpa using waiting
      refine Carried.cons ?_ (ih _)
      refine carried_of_modify _ (fun _ => rfl) rfl ?_
      intro row stage
      simp only [StepRow.stage, RunStep.stage, Prod.mk.injEq] at stage ⊢
      exact ⟨by simp [stage.1, queued], trivial, stage.2⟩

theorem transitionMutation_carried {request : RunTransitionRequest} {old moved : Run}
    (done : transitionMutation request old store = .ok (moved, after)) :
    Carried old.runID old.steps moved.steps store after := by
  obtain ⟨_, _, resteps⟩ := transitionMutation_law done
  cases resteps with
  | requeued _ _ ran => exact requeueSteps_carried ran
  | closed status _ ran =>
    have carried := closeSteps_carried old.runID status old.steps store
    rw [ran] at carried
    exact carried
  | kept same still =>
    rw [same, still]
    exact .refl _ _ _

/-! ### Mutations -/

theorem Carried.congr {steps new : List RunStep}
    (carried : Carried runID steps new store middle) (same : after.steps = middle.steps) :
    Carried runID steps new store after := by
  have shows (other stepID : String) (stage : Stage) : after.Shows other stepID stage ↔ middle.Shows other stepID stage := by
    rw [Store.Shows, same]
    rfl
  refine ⟨carried.ids, ?_, ?_, ?_⟩
  · intro distinct shown step member
    exact (shows _ _ _).mpr (carried.shown distinct shown step member)
  · intro other stepID stage shown apart
    exact (shows _ _ _).mpr (carried.others other stepID stage shown apart)
  · rw [same]
    exact carried.rows

theorem Rewrite.carried {mutation : Mutation} {old changed : Run}
    (rewrite : Rewrite mutation old store changed middle) (mine : old.runID = mutation.runID) :
    Carried old.runID old.steps changed.steps store middle := by
  rcases rewrite with
    ⟨_, _, _, ran⟩ | ⟨_, _, rfl, rfl⟩ | ⟨_, _, _, _, _, _, _, found, rfl, accepts, own⟩
  · exact transitionMutation_carried ran
  · exact .refl _ _ _
  · exact (carried_of_writeStep found accepts).congr (own mine).2

/-! ### All calls -/

theorem Store.Mirrored.of_same (mirrored : store.Mirrored) (runs : after.runs = store.runs)
    (steps : after.steps = store.steps) : after.Mirrored := by
  have document (runID : String) : after.document runID = store.document runID := by
    rw [Store.document, runs]
    rfl
  refine ⟨?_, ?_⟩
  · intro runID run stored step member
    rw [document] at stored
    rw [Store.Shows, steps]
    exact mirrored.shown runID run stored step member
  · rw [steps]
    intro row member
    obtain ⟨run, stored, inside⟩ := mirrored.rooted row member
    exact ⟨run, (document _).trans stored, inside⟩

theorem Store.Mirrored.of_carried {old new : Run} (mirrored : store.Mirrored)
    (found : store.document old.runID = some old) (distinct : (old.steps.map RunStep.stepID).Nodup)
    (carried : Carried old.runID old.steps new.steps store after)
    (documents : ∀ wanted, after.document wanted = if wanted = old.runID then some new else store.document wanted) :
    after.Mirrored := by
  refine ⟨?_, ?_⟩
  · intro runID run stored step member
    rw [documents] at stored
    split at stored
    next here =>
      cases stored
      subst here
      exact carried.shown distinct (mirrored.shown old.runID old found) step member
    next other =>
      apply carried.others _ _ _ (mirrored.shown runID run stored step member)
      intro same
      exact absurd same other
  · intro row member
    obtain ⟨before, present, sameRun, sameStep⟩ := carried.rows row member
    obtain ⟨run, stored, inside⟩ := mirrored.rooted before present
    rw [← sameRun, ← sameStep, documents]
    split
    next here =>
      rw [here, found] at stored
      cases stored
      exact ⟨new, rfl, by rw [carried.ids]; exact inside⟩
    next => exact ⟨run, stored, inside⟩

theorem RunRepository.Created.mirrored {request : RunCreateRequest}
    (created : Created request store after) (mirrored : store.Mirrored) : after.Mirrored := by
  have rows := created.steps
  have documents : ∀ wanted, after.document wanted =
      if wanted = request.run.runID then some request.run else store.document wanted := by
    intro wanted
    simp only [Store.document, Table.find?_insert? created.runs]
    by_cases here : wanted = request.run.runID
    · simp [here]
    · simp [here, Ne.symm here]
  refine ⟨?_, ?_⟩
  · intro runID run stored step member
    rw [documents] at stored
    split at stored
    next here =>
      cases stored
      refine ⟨⟨step.stepID, request.run.runID, step.status, step.effectState⟩, ?_, here.symm, rfl, rfl⟩
      rw [rows]
      exact List.mem_append_right _ (List.mem_map_of_mem member)
    next =>
      obtain ⟨row, present, shown⟩ := mirrored.shown runID run stored step member
      refine ⟨row, ?_, shown⟩
      rw [rows]
      exact List.mem_append_left _ present
  · intro row member
    rw [rows, List.mem_append] at member
    rcases member with old | new
    · obtain ⟨run, stored, inside⟩ := mirrored.rooted row old
      refine ⟨run, ?_, inside⟩
      have absent : store.document request.run.runID = none := by
        rw [Store.document, (Table.insert?_eq_some created.runs).1]
        rfl
      rw [documents, if_neg ?_]
      · exact stored
      · intro same
        rw [same, absent] at stored
        cases stored
    · obtain ⟨step, present, rfl⟩ := List.mem_map.mp new
      exact ⟨request.run, by rw [documents, if_pos rfl], List.mem_map_of_mem present⟩

theorem Store.Mirrored.prune (mirrored : store.Mirrored) (now : Time) : (Retention.pruned store now).Mirrored := by
  have steps : (Retention.pruned store now).steps = store.steps.delete fun row => Retention.deletesRun store now row.runID :=
    rfl
  refine ⟨?_, ?_⟩
  · intro runID run stored step member
    rw [pruned_document] at stored
    split at stored
    next => cases stored
    next kept =>
      obtain ⟨row, present, ofRun, shown⟩ := mirrored.shown runID run stored step member
      refine ⟨row, ?_, ofRun, shown⟩
      rw [steps]
      exact Table.mem_delete.mpr ⟨present, by rw [ofRun]; simpa using kept⟩
  · intro row member
    rw [steps] at member
    obtain ⟨present, kept⟩ := Table.mem_delete.mp member
    obtain ⟨run, stored, inside⟩ := mirrored.rooted row present
    refine ⟨run, ?_, inside⟩
    rw [pruned_document, kept]
    exact stored

/-- A terminal receipt of an external lease is recorded while its run is running.
`RecordReceipt` does not check this, and its update of the run is guarded by it. -/
def steadyReceipt (query : Call) (store : Store) : Prop :=
  ∀ request, query = .recordExternalReceipt request → request.request.receipt.status ≠ .running →
    ∀ run, store.document request.request.receipt.runID = some run → run.status = .running

theorem Store.Mirrored.of_writtenBack {row : RunRow}
    {time : Time} (mirrored : store.Mirrored)
    (agreed : store.Agreed) (found : store.runs.find? row.runID = some row) (valid : validRunDocument row.run = true)
    (running : row.run.status = .running) (located : findStep row.run stepID = some step)
    (accepts : ∀ other : StepRow, other.stage = step.stage → guard other = true)
    (runs : after.runs = writtenBack store { row.run.writeStep stepID status effectState with updatedAt := time })
    (steps : after.steps = (store.updateStep row.runID stepID guard status effectState).steps) : after.Mirrored := by
  have own := (agreed row (Table.mem_of_find? found)).runID
  have here : store.runs.find? row.run.runID = some row := by
    rw [own]
    exact found
  have stored : store.document row.run.runID = some row.run := by
    rw [Store.document, here]
    rfl
  have carried : Carried row.run.runID row.run.steps (row.run.writeStep stepID status effectState).steps store after := by
    apply (carried_of_writeStep located accepts).congr
    rw [own]
    exact steps
  have lookup : store.runs.find? (Run.runID { row.run.writeStep stepID status effectState with updatedAt := time }) =
      some row := here
  have documents := document_writtenBack agreed lookup runs
  simp only [running, and_true] at documents
  exact @Store.Mirrored.of_carried store after row.run
    { row.run.writeStep stepID status effectState with updatedAt := time } mirrored stored (validRunDocument_distinct valid)
    carried documents

theorem Committed.mirrored {query : Call} (committed : Committed query store after)
    (agreed : store.Agreed) (mirrored : store.Mirrored) (steady : steadyReceipt query store) : after.Mirrored := by
  cases committed.transacted with
  | created request law => exact law.mirrored mirrored
  | mutated mutation done =>
    rcases (Mutation.apply_rewrites done).wrote agreed with
      ⟨_, _, rfl⟩ | ⟨old, run, middle, _, stored, mine, _, valid, law, wrote⟩
    · exact mirrored
    · refine mirrored.of_carried ?_ (validRunDocument_distinct valid) ((law.carried mine).congr wrote.steps) ?_
      · rw [mine]
        exact stored
      · rw [mine]
        exact wrote.document
  | claimed request claimed =>
    have steps := claimed.steps
    rw [← Table.find?_key claimed.found] at steps
    refine mirrored.of_writtenBack agreed (find?_self claimed.found) claimed.document claimed.running claimed.located ?_
      claimed.runs steps
    intro other stage
    simp only [StepRow.stage, RunStep.stage, Prod.mk.injEq] at stage
    simp [stage.1, stage.2, claimed.queued, claimed.untouched]
  | reported request reported =>
    rcases reported.effect with ⟨_, runs, steps⟩ | ⟨terminal, row, step, found, valid, located, running, intent, _, runs, steps⟩
    · exact mirrored.of_same runs steps
    · have active : row.run.status = .running := by
        apply steady request rfl terminal
        rw [Store.document, found]
        rfl
      rw [← Table.find?_key found] at steps
      refine mirrored.of_writtenBack agreed (find?_self found) valid active located ?_ runs steps
      intro other stage
      simp only [StepRow.stage, RunStep.stage, Prod.mk.injEq] at stage
      simp [stage.1, stage.2, running, intent]
  | pruned now => exact mirrored.prune now
  | renewed request law => exact mirrored.of_same (by rw [law.others]) (by rw [law.others])
  | _ => exact mirrored.of_same rfl rfl

end VskLabs

import VskLabs.Run.Agreement

/-! The stored documents before and after an answered call. -/

namespace VskLabs
open Library RunRepository ExecutorLeaseRepository

inductive Documents (query : Call) (store after : Store) : Prop where
  | kept (same : ∀ runID, after.document runID = store.document runID)
  | created (request : RunCreateRequest) (asked : query = .createRun request) (law : Created request store after)
      (absent : store.document request.run.runID = none)
      (documents : ∀ wanted, after.document wanted =
        if wanted = request.run.runID then some request.run else store.document wanted)
  | edited (old new : Run) (found : store.document old.runID = some old) (law : Edited query old new)
      (documents : ∀ wanted, after.document wanted = if wanted = old.runID then some new else store.document wanted)
  | pruned (now : Time) (asked : query = .pruneRunHistory now)
      (documents : ∀ wanted, after.document wanted = store.document wanted ∨ after.document wanted = none)

variable {query : Call} {store after : Store} {row : RunRow}

theorem Documents.of_runs (same : after.runs = store.runs) :
    Documents query store after := by
  apply Documents.kept
  intro runID
  rw [Store.document, same]
  rfl

theorem Mutation.documents {mutation : Mutation} {result : Option Run}
    (done : mutation.apply store = .ok (result, after)) (agreed : store.Agreed) :
    Documents (.mutate mutation) store after := by
  rcases (Mutation.apply_rewrites done).wrote agreed with
    ⟨_, _, rfl⟩ | ⟨old, run, middle, _, stored, own, _, valid, law, wrote⟩
  · exact .of_runs rfl
  · rw [← own] at stored
    refine .edited old run stored (law.edited valid own) ?_
    rw [own]
    exact wrote.document

theorem document_writtenBack {run : Run} (agreed : store.Agreed)
    (found : store.runs.find? run.runID = some row) (runs : after.runs = writtenBack store run) (wanted : String) :
    after.document wanted =
      if wanted = run.runID ∧ row.run.status = .running then some run else store.document wanted := by
  have status := (agreed row (Table.mem_of_find? found)).status
  have lookup : after.runs.find? wanted = (store.runs.find? wanted).map fun old =>
      if old.runID == run.runID && old.status == .running then { old with run := run, updatedAt := run.updatedAt }
      else old := by
    rw [runs]
    simp only [writtenBack, updateRunningRun, Store.updateRun, Table.find?_modify]
  simp only [Store.document, lookup, Option.map_map]
  by_cases here : wanted = run.runID
  · subst here
    have mine := Table.find?_key found
    simp only [found, Option.map_some, Function.comp, mine, ← status, beq_self_eq_true, Bool.true_and, true_and]
    by_cases running : row.run.status = .running
    · simp [running]
    · simp [running]
  · cases other : store.runs.find? wanted with
    | none => simp [here]
    | some old =>
      have key := Table.find?_key other
      simp [key, here]

theorem Documents.of_writtenBack {run : Run} (agreed : store.Agreed)
    (found : store.runs.find? row.runID = some row) (runs : after.runs = writtenBack store run)
    (edited : Edited query row.run run) : Documents query store after := by
  have own := (agreed row (Table.mem_of_find? found)).runID
  have here : store.runs.find? run.runID = some row := by
    rw [edited.runID, own]
    exact found
  have lookup := document_writtenBack agreed here runs
  by_cases running : row.run.status = .running
  · refine .edited row.run run ?_ edited ?_
    · rw [Store.document, own, found]
      rfl
    · intro wanted
      rw [lookup, edited.runID]
      simp [running]
  · apply Documents.kept
    intro wanted
    rw [lookup]
    simp [running]

theorem RunRepository.Created.documents {request : RunCreateRequest}
    (created : Created request store after) : Documents (.createRun request) store after := by
  have added := created.runs
  refine .created request rfl created ?_ ?_
  · rw [Store.document, (Table.insert?_eq_some added).1]
    rfl
  · intro wanted
    simp only [Store.document, Table.find?_insert? added]
    by_cases here : wanted = request.run.runID
    · simp [here]
    · simp [here, Ne.symm here]

theorem find?_self {runID : String} (found : store.runs.find? runID = some row) :
    store.runs.find? row.runID = some row := by
  rw [Table.find?_key found]
  exact found

theorem pruned_document (now : Time) (runID : String) : (Retention.pruned store now).document runID =
    if Retention.deletesRun store now runID then none else store.document runID := by
  simp only [Store.document, Retention.pruned, Retention.deleteSummaries, Table.find?_delete, Retention.deletesRun]
  rcases Option.eq_none_or_eq_some (store.runs.find? runID) with found | ⟨row, found⟩
  · simp [found]
  · cases old : Retention.expiredSummary now row
    · simp [found, Option.filter, old]
    · simp [found, Option.filter, old]

theorem Committed.documents (committed : Committed query store after)
    (agreed : store.Agreed) : Documents query store after := by
  cases committed.transacted with
  | created request created => exact created.documents
  | mutated mutation done => exact Mutation.documents done agreed
  | claimed request claimed =>
    have own : _ = request.lease.runID := agreed.find?_runID claimed.found
    refine .of_writtenBack agreed (find?_self claimed.found) claimed.runs ⟨rfl, rfl, rfl, rfl, rfl, ?_, .kept rfl rfl⟩
    apply writeStep_edit claimed.document claimed.located
    rw [RunStep.stage, claimed.queued, claimed.untouched]
    exact .inr (.claimed request own.symm rfl)
  | reported request reported =>
    rcases reported.effect with ⟨_, same, _⟩ | ⟨_, row, step, found, valid, located, running, intent, _, runs, _⟩
    · exact .of_runs same
    · have own := agreed.find?_runID found
      refine .of_writtenBack agreed (find?_self found) runs ⟨rfl, rfl, rfl, rfl, rfl, ?_, .kept rfl rfl⟩
      apply writeStep_edit valid located
      rw [RunStep.stage, running, intent]
      exact .inr (.reported request own.symm rfl)
  | pruned now =>
    refine .pruned now rfl fun wanted => ?_
    rw [pruned_document]
    split
    · exact .inr rfl
    · exact .inl rfl
  | renewed request renewed => exact .of_runs (by rw [renewed.others])
  | _ => exact .of_runs rfl

/-- Where a stored document comes from. -/
theorem Documents.stored (documents : Documents query store after) {runID : String} {run : Run}
    (stored : after.document runID = some run) : store.document runID = some run ∨
      (∃ request, query = .createRun request ∧ Created request store after ∧ runID = request.run.runID ∧ run = request.run) ∨
      ∃ old, store.document old.runID = some old ∧ runID = old.runID ∧ Edited query old run := by
  cases documents with
  | kept same => exact .inl (same runID ▸ stored)
  | created request asked law absent documents =>
    rw [documents] at stored
    split at stored
    next here =>
      cases stored
      exact .inr (.inl ⟨request, asked, law, here, rfl⟩)
    next => exact .inl stored
  | edited old new found law documents =>
    rw [documents] at stored
    split at stored
    next here =>
      cases stored
      exact .inr (.inr ⟨old, found, here, law⟩)
    next => exact .inl stored
  | pruned now asked documents =>
    rcases documents runID with same | gone
    · exact .inl (same ▸ stored)
    · rw [gone] at stored
      cases stored

/-! ### One step -/

def Store.stage (store : Store) (runID stepID : String) : Option Stage :=
  (store.document runID).bind fun run => (findStep run stepID).map RunStep.stage

theorem findStep_map {old new : Run} {edit : RunStep → RunStep} (steps : new.steps = old.steps.map edit)
    (same : ∀ step ∈ old.steps, (edit step).stepID = step.stepID) (stepID : String) :
    findStep new stepID = (findStep old stepID).map edit := by
  unfold findStep
  rw [steps]
  generalize old.steps = steps at same
  induction steps with
  | nil => rfl
  | cons step rest ih =>
    obtain ⟨here, others⟩ := List.forall_mem_cons.mp same
    simp only [List.map_cons, List.find?_cons, here, ih others]
    split
    · rfl
    · rfl

theorem Edited.findStep {old new : Run} (edited : Edited query old new) (stepID : String) :
    (VskLabs.findStep old stepID = none ∧ VskLabs.findStep new stepID = none) ∨
      ∃ before after, VskLabs.findStep old stepID = some before ∧ VskLabs.findStep new stepID = some after ∧
        (after.stage = before.stage ∨ Move old.runID stepID query before.stage after.stage) := by
  obtain ⟨edit, steps, law⟩ := edited.steps
  rw [findStep_map steps fun step member => (law step member).1]
  cases found : VskLabs.findStep old stepID with
  | none => exact .inl ⟨rfl, rfl⟩
  | some step =>
    have mine : step.stepID = stepID := by simpa [VskLabs.findStep] using List.find?_some found
    obtain ⟨_, moved⟩ := law step (List.mem_of_find?_eq_some found)
    rw [mine] at moved
    exact .inr ⟨step, edit step, rfl, rfl, moved⟩

inductive StageChange (query : Call) (runID stepID : String) (store after : Store) : Prop where
  | kept (same : after.stage runID stepID = store.stage runID stepID)
      (present : (store.document runID).isSome = (after.document runID).isSome)
  | moved (old new : Stage) (before : store.stage runID stepID = some old) (later : after.stage runID stepID = some new)
      (move : Move runID stepID query old new)
  | created (request : RunCreateRequest) (asked : query = .createRun request) (law : Created request store after)
      (named : request.run.runID = runID) (absent : store.document runID = none)
      (present : after.document runID = some request.run)
  | pruned (now : Time) (asked : query = .pruneRunHistory now) (gone : after.document runID = none)

theorem Documents.stage (documents : Documents query store after)
    (runID stepID : String) : StageChange query runID stepID store after := by
  cases documents with
  | kept same =>
    apply StageChange.kept
    · rw [Store.stage, same]
      rfl
    · rw [same]
  | created request asked law absent documents =>
    by_cases here : runID = request.run.runID
    · subst here
      exact .created request asked law rfl absent (by rw [documents, if_pos rfl])
    · apply StageChange.kept
      · rw [Store.stage, documents, if_neg here]
        rfl
      · rw [documents, if_neg here]
  | edited old new found law documents =>
    by_cases here : runID = old.runID
    · subst here
      have later : after.document old.runID = some new := by rw [documents, if_pos rfl]
      rcases law.findStep stepID with ⟨before, absent⟩ | ⟨step, changed, before, written, same | move⟩
      · apply StageChange.kept
        · simp [Store.stage, found, later, before, absent]
        · rw [found, later]
          rfl
      · apply StageChange.kept
        · simp [Store.stage, found, later, before, written, same]
        · rw [found, later]
          rfl
      · refine .moved step.stage changed.stage ?_ ?_ move
        · simp [Store.stage, found, before]
        · simp [Store.stage, later, written]
    · apply StageChange.kept
      · rw [Store.stage, documents, if_neg here]
        rfl
      · rw [documents, if_neg here]
  | pruned now asked documents =>
    rcases documents runID with same | gone
    · apply StageChange.kept
      · rw [Store.stage, same]
        rfl
      · rw [same]
    · exact .pruned now asked gone

end VskLabs

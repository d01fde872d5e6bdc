import VskLabs.Run.Answers

/-! What a call can do to one document: which step it moves from where to
where, and what stays as it was created. -/

namespace VskLabs
open Library RunRepository ExecutorLeaseRepository

abbrev Stage := Status × EffectState

def RunStep.stage (step : RunStep) : Stage := (step.status, step.effectState)

inductive Move (runID stepID : String) : Call → Stage → Stage → Prop where
  | begun (request : StepBeginRequest) (ofRun : request.runID = runID) (ofStep : request.stepID = stepID) :
    Move runID stepID (.mutate (.beginStep request)) (.queued, .notStarted) (.running, .intentRecorded)
  | claimed (request : ExecutorLeaseClaimRequest) (ofRun : request.lease.runID = runID)
      (ofStep : request.lease.stepID = stepID) :
    Move runID stepID (.claimLease request) (.queued, .notStarted) (.running, .intentRecorded)
  | received (request : ReceiptRecordRequest) (ofRun : request.runID = runID) (ofStep : request.stepID = stepID) :
    Move runID stepID (.mutate (.recordReceipt request)) (.running, .intentRecorded) (.running, .receiptRecorded)
  | reported (request : ExecutorReceiptPersistenceRequest) (ofRun : request.request.receipt.runID = runID)
      (ofStep : request.request.receipt.stepID = stepID) :
    Move runID stepID (.recordExternalReceipt request) (.running, .intentRecorded) (.running, .receiptRecorded)
  | finished (request : StepFinishRequest) (ofRun : request.runID = runID) (ofStep : request.stepID = stepID)
      (result : request.status ∈ [Status.succeeded, .failed, .partialOutcome]) :
    Move runID stepID (.mutate (.finishStep request)) (.running, .receiptRecorded) (request.status, .verified)
  | doubted (time : Time) (effect : EffectState) (flying : effect ∈ [EffectState.intentRecorded, .receiptRecorded]) :
    Move runID stepID (.mutate (.markStepUnknown runID stepID time)) (.running, effect) (.partialOutcome, .effectUnknown)
  | failed (time : Time) :
    Move runID stepID (.mutate (.failStepBeforeEffect runID stepID time)) (.running, .intentRecorded) (.failed, .notStarted)
  | interrupted (time : Time) :
    Move runID stepID (.mutate (.interruptStepBeforeEffect runID stepID time)) (.running, .intentRecorded)
      (.interrupted, .notStarted)
  | requeued (request : RunTransitionRequest) (ofRun : request.runID = runID) (source : request.source = .interrupted)
      (target : request.target = .running) :
    Move runID stepID (.mutate (.transitionRun request)) (.interrupted, .notStarted) (.queued, .notStarted)
  | closed (request : RunTransitionRequest) (ofRun : request.runID = runID) (status : Status) (effect : EffectState)
      (closing : status ∈ [Status.cancelled, .interrupted]) :
    Move runID stepID (.mutate (.transitionRun request)) (.queued, effect) (status, effect)

inductive Shift (old new : Run) : Call → Prop where
  | kept {query : Call} (status : new.status = old.status) (verification : new.verificationStatus = old.verificationStatus) :
    Shift old new query
  | moved (request : RunTransitionRequest) (ofRun : request.runID = old.runID)
      (allowed : validRunTransition request.source request.target = true) (source : old.status = request.source)
      (target : new.status = request.target)
      (verification : new.verificationStatus = request.verificationStatus.getD old.verificationStatus) :
    Shift old new (.mutate (.transitionRun request))

structure Edited (query : Call) (old new : Run) : Prop where
  runID : new.runID = old.runID
  planID : new.planID = old.planID
  executorMode : new.executorMode = old.executorMode
  executorID : new.executorID = old.executorID
  acknowledgementID : new.acknowledgementID = old.acknowledgementID
  steps : ∃ edit : RunStep → RunStep, new.steps = old.steps.map edit ∧ ∀ step ∈ old.steps,
    (edit step).stepID = step.stepID ∧
      ((edit step).stage = step.stage ∨ Move old.runID step.stepID query step.stage (edit step).stage)
  shift : Shift old new query

variable {steps : List RunStep}

theorem sequenced_distinct {index : Int} {seenSteps seenOps : List String}
    (numbered : sequenced index seenSteps seenOps steps = true) :
    (steps.map RunStep.stepID).Nodup ∧ ∀ step ∈ steps, step.stepID ∉ seenSteps := by
  induction steps generalizing index seenSteps seenOps with
  | nil => simp
  | cons step rest ih =>
    simp only [sequenced, checks, List.contains_eq_mem, decide_eq_false_iff_not] at numbered
    obtain ⟨⟨⟨_, unseen⟩, _⟩, others⟩ := numbered
    obtain ⟨distinct, apart⟩ := ih others
    refine ⟨?_, ?_⟩
    · rw [List.map_cons, List.nodup_cons]
      refine ⟨?_, distinct⟩
      intro member
      obtain ⟨other, present, same⟩ := List.mem_map.mp member
      apply apart other present
      simp [same]
    · intro other member
      cases member with
      | head => exact unseen
      | tail _ later =>
        intro seen
        exact apart other later (.tail _ seen)

variable {run : Run} {step : RunStep} {store after : Store} {request : RunTransitionRequest}

theorem validRunDocument_distinct (valid : validRunDocument run = true) :
    (run.steps.map RunStep.stepID).Nodup := by
  simp only [validRunDocument, checks] at valid
  have sorted := List.perm_insertionSort (fun first second : RunStep => first.sequence ≤ second.sequence) run.steps
  exact ((sorted.map RunStep.stepID).nodup_iff).mp (sequenced_distinct valid.2).1

variable {stepID runID : String}

theorem findStep_unique (valid : validRunDocument run = true) {other : RunStep}
    (found : findStep run stepID = some step) (member : other ∈ run.steps) (same : other.stepID = stepID) : other = step := by
  have mine := findStep_stepID found
  exact List.inj_on_of_nodup_map (validRunDocument_distinct valid) member (List.mem_of_find?_eq_some found) (same.trans mine.symm)

variable {status : Status} {effectState : EffectState}

theorem writeStep_edit {query : Call}
    (valid : validRunDocument run = true) (found : findStep run stepID = some step)
    (move : step.stage = (status, effectState) ∨ Move run.runID stepID query step.stage (status, effectState)) :
    ∃ edit : RunStep → RunStep, (run.writeStep stepID status effectState).steps = run.steps.map edit ∧
      ∀ step ∈ run.steps, (edit step).stepID = step.stepID ∧
        ((edit step).stage = step.stage ∨ Move run.runID step.stepID query step.stage (edit step).stage) := by
  refine ⟨_, rfl, ?_⟩
  intro other member
  split
  next mine =>
    have mine : other.stepID = stepID := by simpa using mine
    obtain rfl := findStep_unique valid found member mine
    subst mine
    refine ⟨rfl, ?_⟩
    rcases move with same | moves
    · exact .inl same.symm
    · exact .inr moves
  next => exact ⟨rfl, .inl rfl⟩

theorem Edited.refl (query : Call) (run : Run) : Edited query run run :=
  ⟨rfl, rfl, rfl, rfl, rfl, ⟨id, by simp, fun _ _ => ⟨rfl, .inl rfl⟩⟩, .kept rfl rfl⟩

def Mutation.event : Mutation → RunEvent
  | .transitionRun request => .transitioned request.source request.target request.time
  | .requestCancellation _ time => .cancellationRequested time
  | .beginStep request => .stepIntentRecorded request.stepID request.leaseID request.time
  | .recordReceipt request => .stepReceiptRecorded request.receipt.receiptID
  | .finishStep request => .stepFinished request.receipt.receiptID
  | .markStepUnknown _ stepID time => .stepEffectUnknown stepID time
  | .failStepBeforeEffect _ stepID time => .stepFailedBeforeEffect stepID time
  | .interruptStepBeforeEffect _ stepID time => .stepInterruptedBeforeEffect stepID time

variable {result : Option Run}

theorem RunRepository.Effected.mono {event : RunEvent}
    {law other : Run → Run → Store → Prop} (effected : Effected store runID event result after law)
    (implies : ∀ {old changed middle}, law old changed middle → other old changed middle) :
    Effected store runID event result after other := by
  rcases effected with replay | ⟨run, mutate, same, mutated, body⟩
  · exact .inl replay
  · exact .inr ⟨run, mutate, same, mutated, fun ran => (body ran).imp_right implies⟩

theorem requeueStep_moves
    (ofRun : request.runID = runID) (source : request.source = .interrupted) (target : request.target = .running)
    (untouched : step.status = .interrupted → step.effectState = .notStarted) :
    (requeueStep step).stepID = step.stepID ∧ ((requeueStep step).stage = step.stage ∨
      Move runID step.stepID (.mutate (.transitionRun request)) step.stage (requeueStep step).stage) := by
  unfold requeueStep
  split
  next interrupted =>
    refine ⟨rfl, .inr ?_⟩
    simp only [RunStep.stage, interrupted, untouched interrupted]
    exact .requeued request ofRun source target
  next => exact ⟨rfl, .inl rfl⟩

theorem closeStep_moves (step : RunStep)
    (ofRun : request.runID = runID) (closing : status ∈ [Status.cancelled, .interrupted]) :
    (closeStep status step).stepID = step.stepID ∧ ((closeStep status step).stage = step.stage ∨
      Move runID step.stepID (.mutate (.transitionRun request)) step.stage (closeStep status step).stage) := by
  unfold closeStep
  split
  next queued =>
    refine ⟨rfl, .inr ?_⟩
    simp only [RunStep.stage, queued]
    exact .closed request ofRun status step.effectState closing
  next => exact ⟨rfl, .inl rfl⟩

variable {old changed : Run}

theorem RunRepository.Resteps.edit (own : request.runID = old.runID)
    (resteps : Resteps request old store steps after) :
    ∃ edit : RunStep → RunStep, steps = old.steps.map edit ∧ ∀ step ∈ old.steps, (edit step).stepID = step.stepID ∧
      ((edit step).stage = step.stage ∨
        Move old.runID step.stepID (.mutate (.transitionRun request)) step.stage (edit step).stage) := by
  cases resteps with
  | requeued source target ran =>
    obtain ⟨rfl, untouched, _⟩ := requeueSteps_law ran
    exact ⟨requeueStep, rfl, fun step member => requeueStep_moves own source target (untouched step member)⟩
  | closed status closing ran =>
    have steps := congrArg Prod.fst ran
    rw [(closeSteps_law ..).1] at steps
    exact ⟨_, steps.symm, fun step _ => closeStep_moves step own closing⟩
  | kept same =>
    rw [same]
    exact (Edited.refl _ old).steps

theorem transitionMutation_edits {moved : Run}
    (done : transitionMutation request old store = .ok (moved, after)) (own : old.runID = request.runID)
    (allowed : validRunTransition request.source request.target = true) :
    Edited (.mutate (.transitionRun request)) old moved := by
  obtain ⟨source, document, resteps⟩ := transitionMutation_law done
  rw [document]
  exact ⟨rfl, rfl, rfl, rfl, rfl, resteps.edit own.symm, .moved request own.symm allowed source rfl rfl⟩

/-- What the body of a mutation does: it moves the whole run, sets a flag of the
document, or writes one step in the document and in the step rows. -/
inductive Rewrite (mutation : Mutation) (old : Run) (store : Store) (changed : Run) (middle : Store) : Prop where
  | moved (request : RunTransitionRequest) (asked : mutation = .transitionRun request)
      (allowed : validRunTransition request.source request.target = true)
      (ran : transitionMutation request old store = .ok (changed, middle))
  | flagged (flag : Bool) (time : Time) (document : changed = { old with cancellationRequested := flag, updatedAt := time })
      (same : middle = store)
  | written (stepID : String) (step : RunStep) (status : Status) (effectState : EffectState) (guard : StepRow → Bool)
      (flag : Bool) (time : Time) (found : findStep old stepID = some step)
      (document : changed = { old.writeStep stepID status effectState with changed := flag, updatedAt := time })
      (accepts : ∀ row : StepRow, (row.status, row.effectState) = step.stage → guard row = true)
      (own : old.runID = mutation.runID → Move old.runID stepID (.mutate mutation) step.stage (status, effectState) ∧
        middle.steps = (store.updateStep old.runID stepID guard status effectState).steps)

theorem accepts_stage (stage : step.stage = (status, effectState))
    (row : StepRow) (same : (row.status, row.effectState) = step.stage) :
    (row.status == status && row.effectState == effectState) = true := by
  rw [stage, Prod.mk.injEq] at same
  simp [same.1, same.2]

variable {mutation : Mutation}

theorem settleStep_rewrites {time : Time} {accepted : List EffectState}
    {flag : Bool → Bool}
    (done : settleStep store mutation.runID stepID time mutation.event accepted status effectState flag = .ok (result, after))
    (moves : ∀ effect ∈ accepted, Move mutation.runID stepID (.mutate mutation) (.running, effect) (status, effectState)) :
    Effected store mutation.runID mutation.event result after fun old changed middle =>
      Rewrite mutation old store changed middle := by
  apply (settleStep_law done).mono
  rintro old changed middle ⟨⟨step, found, running, inside⟩, rfl, rfl⟩
  refine .written stepID step _ _ (fun row => row.status == .running && accepted.contains row.effectState) _ _ found rfl ?_
    fun own => ?_
  · intro row same
    simp only [RunStep.stage, running, Prod.mk.injEq] at same
    simp [same.1, same.2, inside]
  · rw [own, RunStep.stage, running]
    exact ⟨moves _ inside, rfl⟩

theorem Mutation.apply_rewrites
    (done : mutation.apply store = .ok (result, after)) :
    Effected store mutation.runID mutation.event result after fun old changed middle =>
      Rewrite mutation old store changed middle := by
  cases mutation with
  | transitionRun request =>
    obtain ⟨allowed, effected⟩ := transitionRun_law done
    apply effected.mono
    intro old changed middle ran
    exact .moved request rfl allowed ran
  | requestCancellation runID time =>
    apply (requestCancellation_law done).mono
    rintro old changed middle ⟨_, rfl, rfl⟩
    exact .flagged true time rfl rfl
  | beginStep request =>
    apply (beginStep_law done).mono
    rintro old changed middle ⟨⟨step, found, _, queued, untouched⟩, _, rfl, rfl⟩
    have stage : step.stage = (.queued, .notStarted) := by rw [RunStep.stage, queued, untouched]
    refine .written request.stepID step _ _ _ _ _ found rfl (accepts_stage stage) fun own => ?_
    rw [stage, own]
    exact ⟨.begun request rfl rfl, rfl⟩
  | recordReceipt request =>
    apply (recordReceipt_law done).mono
    rintro old changed middle ⟨step, found, _, _, ⟨_, rfl, rfl⟩ | ⟨running, intent, rfl, _, _, _, _, _, rfl⟩⟩
    · exact .flagged _ _ rfl rfl
    · have stage : step.stage = (.running, .intentRecorded) := by rw [RunStep.stage, running, intent]
      refine .written request.stepID step _ _ _ _ _ found rfl (accepts_stage stage) fun own => ?_
      rw [stage, running, findStep_stepID found]
      exact ⟨.received request own.symm rfl, rfl⟩
  | finishStep request =>
    obtain ⟨verified, result, effected⟩ := finishStep_law done
    apply effected.mono
    rintro old changed middle ⟨step, found, _, _, _, _, ⟨_, _, rfl, rfl⟩ | ⟨running, recorded, rfl, rfl⟩⟩
    · exact .flagged _ _ rfl rfl
    · have stage : step.stage = (.running, .receiptRecorded) := by rw [RunStep.stage, running, recorded]
      refine .written request.stepID step _ _ _ _ _ found rfl (accepts_stage stage) fun own => ?_
      rw [stage, verified, findStep_stepID found]
      exact ⟨.finished request own.symm rfl result, rfl⟩
  | markStepUnknown runID stepID time =>
    simp only [Mutation.apply] at done
    exact settleStep_rewrites done fun effect flying => .doubted time effect flying
  | failStepBeforeEffect runID stepID time =>
    simp only [Mutation.apply] at done
    exact settleStep_rewrites done fun effect intent => List.mem_singleton.mp intent ▸ .failed time
  | interruptStepBeforeEffect runID stepID time =>
    simp only [Mutation.apply] at done
    exact settleStep_rewrites done fun effect intent => List.mem_singleton.mp intent ▸ .interrupted time

variable {middle : Store}

theorem Rewrite.edited
    (rewrite : Rewrite mutation old store changed middle) (valid : validRunDocument old = true)
    (mine : old.runID = mutation.runID) : Edited (.mutate mutation) old changed := by
  rcases rewrite with
    ⟨_, rfl, allowed, ran⟩ | ⟨_, _, rfl, _⟩ | ⟨_, _, _, _, _, _, _, found, rfl, _, own⟩
  · exact transitionMutation_edits ran mine allowed
  · exact ⟨rfl, rfl, rfl, rfl, rfl, (Edited.refl _ old).steps, .kept rfl rfl⟩
  · exact ⟨rfl, rfl, rfl, rfl, rfl, writeStep_edit valid found (.inr (own mine).1), .kept rfl rfl⟩

end VskLabs

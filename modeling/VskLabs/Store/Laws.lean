import VskLabs.Library.Keyed
import VskLabs.Store.ExecutorLeaseRepository
import VskLabs.Store.Retention

/-! What a committed transaction did. Every invariant is derived from these
laws; no later proof unfolds a transaction. -/

namespace VskLabs
open Library

variable {store : Store} {key : IntentKey} {request : RequestDigest}

theorem executeAuditIntent_cases {α : Type} {after : Store} {expected : Option (Int × Int)}
    {business : Store → Except Failure (α × Store)} {result : Option α}
    (done : executeAuditIntent store expected key request business = .ok (result, after)) :
    (store.Recorded key ∧ result = none ∧ after = store) ∨
      ∃ value middle intents, store.intents.find? key = none ∧ business store = .ok (value, middle) ∧
        middle.intents.insert? ⟨key, request⟩ = some intents ∧ result = some value ∧
        after = { middle with intents := intents } := by
  simp only [executeAuditIntent, peel] at done
  obtain ⟨_, _, _, _, done⟩ := done
  cases found : store.intents.find? key with
  | some row =>
    simp only [found, peel, Prod.mk.injEq] at done
    obtain ⟨_, _, rfl, rfl⟩ := done
    exact .inl ⟨by simp [Store.Recorded, found], rfl, rfl⟩
  | none =>
    simp only [found, peel, Prod.mk.injEq] at done
    obtain ⟨⟨value, middle⟩, ran, intents, added, rfl, rfl⟩ := done
    exact .inr ⟨value, middle, intents, rfl, ran, added, rfl, rfl⟩

def Store.register : Register Store IntentKey RequestDigest (Int × Int) :=
  ⟨fun store => (store.stateRevision, store.recoveryEpoch),
    fun store key => (store.intents.find? key).map IntentRow.request⟩

theorem executeAuditIntent_registered {α : Type} {store after : Store} {expected : Option (Int × Int)} {key : IntentKey}
    {request : RequestDigest} {business : Store → Except Failure (α × Store)} {result : Option α}
    (done : executeAuditIntent store expected key request business = .ok (result, after)) :
    Keyed Store.register expected key request (fun store after => ∃ value middle intents,
      business store = .ok (value, middle) ∧ after = { middle with intents := intents }) store result.isSome after := by
  unfold executeAuditIntent at done
  simp only [↓ensure_bind, Option.all_eq_true, beq_iff_eq] at done
  obtain ⟨epoch, revision, done⟩ := done
  have current : ∀ token ∈ expected, token = Store.register.token store := fun token asked =>
    Prod.ext (revision token asked) (epoch token asked)
  cases found : store.intents.find? key with
  | some row =>
    simp only [found, peel, beq_iff_eq, Prod.mk.injEq] at done
    obtain ⟨_, same, rfl, rfl⟩ := done
    exact ⟨current, fun _ => ⟨by simp [Store.register, found, same], rfl⟩, fun impossible => by cases impossible⟩
  | none =>
    simp only [found, peel, Prod.mk.injEq] at done
    obtain ⟨⟨value, middle⟩, ran, intents, added, rfl, rfl⟩ := done
    refine ⟨current, ?_, fun _ => ⟨by simp [Store.register, found], ⟨value, middle, intents, ran, rfl⟩, ?_⟩⟩
    · intro impossible
      cases impossible
    · simp [Store.register, Table.find?_insert? added]

def Store.Noted (store : Store) (key : IntentKey) (after : Store) : Prop :=
  ∀ wanted, after.Recorded wanted ↔ wanted = key ∨ store.Recorded wanted

theorem Store.Noted.of_insert {middle : Store}
    {intents : Table IntentRow.key} (same : middle.intents = store.intents)
    (added : middle.intents.insert? ⟨key, request⟩ = some intents) (after : Store) (written : after.intents = intents) :
    store.Noted key after := by
  intro wanted
  rw [same] at added
  simp only [Store.Recorded, written, Table.find?_insert? added]
  by_cases here : key = wanted
  · simp [here]
  · simp [here, Ne.symm here]

variable {run moved : Run}

theorem decodeRun_eq_ok {stored : Run} : decodeRun stored = .ok run ↔ validRunDocument stored = true ∧ stored = run := by
  unfold decodeRun
  split <;> simp_all

variable {runID : String} {requeued steps : List RunStep} {time : Time}

namespace RunRepository

theorem written_runID (run : Run) (row : RunRow) :
    { row with status := run.status, run := run, updatedAt := run.updatedAt : RunRow }.runID = row.runID := rfl

def writeRun (store : Store) (run : Run) : Store :=
  (store.updateRun run (fun _ => true) _ (written_runID run)).appendDetail
    run.runID run.updatedAt

structure Mutated (store : Store) (runID : String) (event : RunEvent)
    (mutate : Run → Store → Except Failure (Run × Store)) (run : Run) (after : Store) : Prop where
  fresh : store.intents.find? (.runMutation runID event) = none
  applied : ∃ row middle intents, store.runs.find? runID = some row ∧ validRunDocument row.run = true ∧
    mutate row.run store = .ok (run, middle) ∧ validRunDocument run = true ∧
    (middle.runs.find? run.runID).isSome ∧
    middle.intents.insert? ⟨.runMutation runID event, .runMutation⟩ = some intents ∧
    after = { writeRun middle run with intents := intents }

variable {after : Store} {event : RunEvent} {mutate : Run → Store → Except Failure (Run × Store)}
  {result : Option Run} {request : RunTransitionRequest} {run changed : Run}

theorem mutateRun_cases
    (done : mutateRun store runID event mutate = .ok (result, after)) :
    (store.Recorded (.runMutation runID event) ∧ result = none ∧ after = store) ∨
      ∃ run, result = some run ∧ Mutated store runID event mutate run after := by
  simp only [mutateRun, peel] at done
  obtain ⟨_, _, done⟩ := done
  rcases executeAuditIntent_cases done with replay | ⟨value, middle, intents, fresh, ran, added, rfl, rfl⟩
  · exact .inl replay
  · simp only [peel, decodeRun_eq_ok, Prod.mk.injEq] at ran
    obtain ⟨row, found, _, ⟨valid, rfl⟩, ⟨run, changed⟩, mutated, _, kept, _, present, rfl, rfl⟩ := ran
    exact .inr ⟨run, rfl, fresh, row, changed, intents, found, valid, mutated, kept, present, added, rfl⟩

/-- What a transition makes of the steps of its run. -/
inductive Resteps (request : RunTransitionRequest) (run : Run) (store : Store) (steps : List RunStep) (after : Store) : Prop where
  | requeued (source : request.source = .interrupted) (target : request.target = .running)
      (ran : requeueSteps run.runID run.steps store = .ok (steps, after))
  | closed (status : Status) (closing : status ∈ [Status.cancelled, .interrupted])
      (ran : closeSteps run.runID status run.steps store = (steps, after))
  | kept (same : steps = run.steps) (still : after = store)

theorem transitionMutation_law
    (done : transitionMutation request run store = .ok (moved, after)) :
    run.status = request.source ∧
      moved = { run with
        status := request.target, updatedAt := request.time, steps := moved.steps
        verificationStatus := request.verificationStatus.getD run.verificationStatus
        verificationDigest := moved.verificationDigest, rollbackStatus := moved.rollbackStatus
        changed := moved.changed } ∧
      Resteps request run store moved.steps after := by
  simp only [transitionMutation, peel, beq_iff_eq] at done
  obtain ⟨_, same, done⟩ := done
  split at done
  next resumes =>
    simp only [checks] at resumes
    simp only [peel, Prod.mk.injEq] at done
    obtain ⟨outcome, ran, rfl, rfl⟩ := done
    exact ⟨same, rfl, .requeued resumes.1 resumes.2 (by simp [resumes.2, ran])⟩
  next =>
    simp only [peel, Prod.mk.injEq] at done
    obtain ⟨outcome, rfl, rfl, rfl⟩ := done
    refine ⟨same, rfl, ?_⟩
    dsimp only
    split
    · exact .closed _ (by split <;> simp) rfl
    · exact .kept rfl rfl

/-- What the body of a run mutation leaves alone: every table but the step and
receipt rows, and the identities in the document. -/
structure Framed (run : Run) (store : Store) (changed : Run) (after : Store) : Prop where
  store : after = { store with steps := after.steps, receipts := after.receipts }
  runID : changed.runID = run.runID
  planID : changed.planID = run.planID
  createdAt : changed.createdAt = run.createdAt

theorem Framed.runs (frame : Framed run store changed after) :
    after.runs = store.runs := by
  rw [frame.store]

theorem Framed.intents (frame : Framed run store changed after) :
    after.intents = store.intents := by
  rw [frame.store]

def requeueStep (step : RunStep) : RunStep := if step.status = .interrupted then { step with status := .queued } else step

theorem requeueSteps_cons {step : RunStep} {rest : List RunStep}
    (done : requeueSteps runID (step :: rest) store = .ok (requeued, after)) :
    ∃ others middle, requeueSteps runID rest middle = .ok (others, after) ∧ requeued = requeueStep step :: others ∧
      ((step.status ≠ .interrupted ∧ middle = store) ∨ (step.status = .interrupted ∧ step.effectState = .notStarted ∧
        middle = store.updateStep runID step.stepID
          (fun row => row.status == .interrupted && row.effectState == .notStarted) .queued .notStarted)) := by
  simp only [requeueSteps] at done
  split at done
  next other =>
    simp only [peel, Prod.mk.injEq] at done
    obtain ⟨⟨others, _⟩, ran, rfl, rfl⟩ := done
    have other : step.status ≠ .interrupted := by simpa using other
    exact ⟨others, store, ran, by rw [requeueStep, if_neg other], .inl ⟨other, rfl⟩⟩
  next interrupted =>
    have interrupted : step.status = .interrupted := by simpa using interrupted
    split at done
    · simp at done
    next free =>
      simp only [checks, ne_eq, not_or, Decidable.not_not] at free
      simp only [peel, Prod.mk.injEq] at done
      obtain ⟨⟨others, _⟩, ran, rfl, rfl⟩ := done
      exact ⟨others, _, ran, by rw [requeueStep, if_pos interrupted], .inr ⟨interrupted, free.2, rfl⟩⟩

theorem requeueSteps_law
    (done : requeueSteps runID steps store = .ok (requeued, after)) :
    requeued = steps.map requeueStep ∧ (∀ step ∈ steps, step.status = .interrupted → step.effectState = .notStarted) ∧
      after = { store with steps := after.steps } := by
  induction steps generalizing store requeued with
  | nil =>
    simp only [requeueSteps, peel, Prod.mk.injEq] at done
    obtain ⟨rfl, rfl⟩ := done
    exact ⟨rfl, by simp, rfl⟩
  | cons step rest ih =>
    obtain ⟨others, middle, ran, rfl, ⟨other, rfl⟩ | ⟨_, untouched, rfl⟩⟩ := requeueSteps_cons done
    · obtain ⟨rfl, later, frame⟩ := ih ran
      exact ⟨rfl, List.forall_mem_cons.mpr ⟨fun same => absurd same other, later⟩, frame⟩
    · obtain ⟨rfl, later, frame⟩ := ih ran
      exact ⟨rfl, List.forall_mem_cons.mpr ⟨fun _ => untouched, later⟩, frame⟩

def closeStep (status : Status) (step : RunStep) : RunStep :=
  if step.status = .queued then { step with status := status } else step

theorem closeSteps_law (runID : String) (status : Status) (steps : List RunStep) (store : Store) :
    (closeSteps runID status steps store).1 = steps.map (closeStep status) ∧
      (closeSteps runID status steps store).2 = { store with steps := (closeSteps runID status steps store).2.steps } := by
  induction steps generalizing store with
  | nil => exact ⟨rfl, rfl⟩
  | cons step rest ih =>
    simp only [closeSteps]
    split
    next other =>
      have other : step.status ≠ .queued := by simpa using other
      obtain ⟨closed, frame⟩ := ih store
      exact ⟨by simp [closeStep, other, closed], frame⟩
    next queued =>
      have queued : step.status = .queued := by simpa using queued
      obtain ⟨closed, frame⟩ := ih { store with
        steps := store.steps.modify (fun row => row.stepID == step.stepID && row.runID == runID && row.status == .queued)
                   (fun row => { row with status := status }) fun _ => rfl }
      exact ⟨by simp [closeStep, queued, closed], frame⟩

theorem transitionMutation_frame
    (done : transitionMutation request run store = .ok (moved, after)) : Framed run store moved after := by
  obtain ⟨_, document, resteps⟩ := transitionMutation_law done
  refine ⟨?_, by rw [document], by rw [document], by rw [document]⟩
  cases resteps with
  | requeued _ _ ran => rw [(requeueSteps_law ran).2.2]
  | closed status _ ran =>
    have frame : after = { store with steps := after.steps } := by
      simpa only [ran] using (closeSteps_law run.runID status run.steps store).2
    rw [frame]
  | kept _ still => rw [still]

theorem Mutated.runs
    (mutated : Mutated store runID event mutate run after)
    (frame : ∀ {old changed middle}, mutate old store = .ok (changed, middle) → Framed old store changed middle) :
    ∃ row, store.runs.find? runID = some row ∧ run.runID = row.run.runID ∧ run.planID = row.run.planID ∧
      after.runs = store.runs.modify (fun row => row.runID == run.runID && true)
        (fun row => { row with status := run.status, run := run, updatedAt := run.updatedAt }) fun _ => rfl := by
  obtain ⟨row, middle, intents, found, _, changed, _, _, _, rfl⟩ := mutated.applied
  have kept := frame changed
  refine ⟨row, found, kept.runID, kept.planID, ?_⟩
  simp only [writeRun, Store.updateRun, Store.appendDetail, kept.runs]

def Effected (store : Store) (runID : String) (event : RunEvent) (result : Option Run) (after : Store)
    (law : Run → Run → Store → Prop) : Prop :=
  (store.Recorded (.runMutation runID event) ∧ result = none ∧ after = store) ∨
    ∃ run mutate, result = some run ∧ Mutated store runID event mutate run after ∧
      ∀ {old changed middle}, mutate old store = .ok (changed, middle) → Framed old store changed middle ∧ law old changed middle

theorem Effected.of_mutateRun {law : Run → Run → Store → Prop}
    (done : mutateRun store runID event mutate = .ok (result, after))
    (body : ∀ {old changed middle}, mutate old store = .ok (changed, middle) →
      Framed old store changed middle ∧ law old changed middle) :
    Effected store runID event result after law := by
  rcases mutateRun_cases done with replay | ⟨run, same, mutated⟩
  · exact .inl replay
  · exact .inr ⟨run, mutate, same, mutated, body⟩

theorem requestCancellation_law
    (done : requestCancellation store runID time = .ok (result, after)) :
    Effected store runID (.cancellationRequested time) result after fun old changed middle =>
      terminalRunStatus old.status = false ∧ middle = store ∧
        changed = { old with cancellationRequested := true, updatedAt := time } := by
  simp only [requestCancellation, peel] at done
  obtain ⟨_, _, done⟩ := done
  apply Effected.of_mutateRun done
  intro old changed middle ran
  simp only [peel, Prod.mk.injEq, checks] at ran
  obtain ⟨_, open_, rfl, rfl⟩ := ran
  exact ⟨⟨rfl, rfl, rfl, rfl⟩, open_, rfl, rfl⟩

theorem beginStep_law {request : StepBeginRequest}
    (done : beginStep store request = .ok (result, after)) :
    Effected store request.runID (.stepIntentRecorded request.stepID request.leaseID request.time) result after
      fun old changed middle =>
        (∃ step, findStep old request.stepID = some step ∧ old.status = .running ∧ step.status = .queued ∧
          step.effectState = .notStarted) ∧
        (∃ lease, store.leases.find? request.leaseID = some lease ∧ lease.runID = request.runID ∧
          lease.stepID = request.stepID ∧ lease.status = .active) ∧
        changed = { old.writeStep request.stepID .running .intentRecorded with updatedAt := request.time } ∧
        middle = store.updateStep request.runID request.stepID
          (fun row => row.status == .queued && row.effectState == .notStarted) .running .intentRecorded := by
  simp only [beginStep, peel] at done
  obtain ⟨_, _, done⟩ := done
  apply Effected.of_mutateRun done
  intro old changed middle ran
  simp only [peel, Prod.mk.injEq, checks, Option.any_eq_true] at ran
  obtain ⟨step, found, _, ⟨⟨running, queued⟩, untouched⟩, _, ⟨lease, held, ⟨ofRun, ofStep⟩, active⟩, _, _, rfl, rfl⟩ := ran
  exact ⟨⟨rfl, rfl, rfl, rfl⟩, ⟨step, found, running, queued, untouched⟩, ⟨lease, held, ofRun, ofStep, active⟩, rfl, rfl⟩

theorem settleStep_law {stepID : String}
    {accepted : List EffectState} {status : Status} {effectState : EffectState} {flag : Bool → Bool}
    (done : settleStep store runID stepID time event accepted status effectState flag = .ok (result, after)) :
    Effected store runID event result after fun old changed middle =>
      (∃ step, findStep old stepID = some step ∧ step.status = .running ∧ step.effectState ∈ accepted) ∧
      changed = { old.writeStep stepID status effectState with changed := flag old.changed, updatedAt := time } ∧
      middle = store.updateStep runID stepID
        (fun row => row.status == .running && accepted.contains row.effectState) status effectState := by
  apply Effected.of_mutateRun done
  intro old changed middle ran
  simp only [peel, Prod.mk.injEq, checks, List.contains_iff_mem] at ran
  obtain ⟨step, found, _, ⟨running, inside⟩, rfl, rfl⟩ := ran
  exact ⟨⟨rfl, rfl, rfl, rfl⟩, ⟨step, found, running, inside⟩, rfl, rfl⟩

theorem transitionRun_law
    (done : transitionRun store request = .ok (result, after)) :
    validRunTransition request.source request.target = true ∧
      Effected store request.runID (.transitioned request.source request.target request.time) result after
        fun old changed middle => transitionMutation request old store = .ok (changed, middle) := by
  simp only [transitionRun, peel, checks] at done
  obtain ⟨_, ⟨_, allowed⟩, done⟩ := done
  exact ⟨allowed, Effected.of_mutateRun done fun ran => ⟨transitionMutation_frame ran, ran⟩⟩

theorem finishStep_law {request : StepFinishRequest}
    (done : finishStep store request = .ok (result, after)) :
    request.effectState = .verified ∧ request.status ∈ [Status.succeeded, .failed, .partialOutcome] ∧
      Effected store request.runID (.stepFinished request.receipt.receiptID) result after fun old changed middle =>
        ∃ step, findStep old request.stepID = some step ∧ request.receipt.runID = old.runID ∧
          request.receipt.stepID = step.stepID ∧ request.receipt.leaseID = request.leaseID ∧
          verifyStoredReceipt store request.receipt = .ok () ∧
          ((step.status = request.status ∧ step.effectState = request.effectState ∧ changed = old ∧ middle = store) ∨
            (step.status = .running ∧ step.effectState = .receiptRecorded ∧
              changed = { old.writeStep request.stepID request.status request.effectState with
                changed := old.changed || request.changed, updatedAt := request.time } ∧
              middle = store.updateStep old.runID step.stepID
                (fun row => row.status == .running && row.effectState == .receiptRecorded)
                request.status request.effectState)) := by
  simp only [finishStep, peel, checks, List.contains_iff_mem] at done
  obtain ⟨_, ⟨⟨⟨⟨_, verified⟩, _⟩, _⟩, terminal⟩, done⟩ := done
  refine ⟨verified, terminal, Effected.of_mutateRun done ?_⟩
  intro old changed middle ran
  simp only [peel, checks] at ran
  obtain ⟨step, found, _, ⟨⟨ofRun, ofStep⟩, ofLease⟩, ran⟩ := ran
  split at ran
  next same =>
    simp only [peel, Prod.mk.injEq] at ran
    obtain ⟨_, stored, rfl, rfl⟩ := ran
    exact ⟨⟨rfl, rfl, rfl, rfl⟩, step, found, ofRun, ofStep, ofLease, stored, .inl ⟨same.1, same.2, rfl, rfl⟩⟩
  next =>
    simp only [peel, Prod.mk.injEq, checks] at ran
    obtain ⟨_, ⟨running, recorded⟩, _, stored, rfl, rfl⟩ := ran
    exact ⟨⟨rfl, rfl, rfl, rfl⟩, step, found, ofRun, ofStep, ofLease, stored, .inr ⟨running, recorded, rfl, rfl⟩⟩

theorem recordReceipt_law {request : ReceiptRecordRequest}
    (done : recordReceipt store request = .ok (result, after)) :
    Effected store request.runID (.stepReceiptRecorded request.receipt.receiptID) result after fun old changed middle =>
      ∃ step, findStep old request.stepID = some step ∧ request.receipt.runID = old.runID ∧
        request.receipt.stepID = step.stepID ∧
        ((step.effectState = .receiptRecorded ∧ changed = old ∧ middle = store) ∨
          (step.status = .running ∧ step.effectState = .intentRecorded ∧
            changed = { old.writeStep request.stepID step.status .receiptRecorded with updatedAt := request.time } ∧
            ∃ receipts lease, store.leases.find? request.leaseID = some lease ∧ lease.status = .active ∧
              store.receipts.insert? ⟨request.receipt.receiptID, request.leaseID, old.runID, step.stepID,
                request.receipt.status, request.receipt⟩ = some receipts ∧
              middle = Store.updateStep { store with receipts := receipts } old.runID step.stepID
                (fun row => row.status == .running && row.effectState == .intentRecorded) .running .receiptRecorded)) := by
  simp only [recordReceipt, peel] at done
  obtain ⟨_, _, done⟩ := done
  apply Effected.of_mutateRun done
  intro old changed middle ran
  simp only [peel, checks] at ran
  obtain ⟨step, found, _, ⟨⟨ofRun, ofStep⟩, _⟩, ran⟩ := ran
  split at ran
  next held =>
    simp only [peel, Prod.mk.injEq] at ran
    obtain ⟨_, _, rfl, rfl⟩ := ran
    exact ⟨⟨rfl, rfl, rfl, rfl⟩, step, found, ofRun, ofStep, .inl ⟨held, rfl, rfl⟩⟩
  next =>
    simp only [peel, Prod.mk.injEq, checks, Option.filter_eq_some_iff] at ran
    obtain ⟨_, ⟨running, intent⟩, lease, ⟨leased, ⟨_, active⟩⟩, _, _, _, _, receipts, added, rfl, rfl⟩ := ran
    exact ⟨⟨rfl, rfl, rfl, rfl⟩, step, found, ofRun, ofStep,
      .inr ⟨running, intent, rfl, receipts, lease, leased, active, added, rfl⟩⟩

end RunRepository

namespace RunRepository

theorem insertSteps_law {after : Store}
    (done : insertSteps runID steps store = .ok after) :
    after.steps.rows = store.steps.rows ++ steps.map (fun step => ⟨step.stepID, runID, step.status, step.effectState⟩) ∧
      after = { store with steps := after.steps } := by
  induction steps generalizing store with
  | nil =>
    simp only [insertSteps, peel] at done
    subst done
    exact ⟨by simp, rfl⟩
  | cons step rest ih =>
    simp only [insertSteps, peel] at done
    obtain ⟨rows, added, ran⟩ := done
    obtain ⟨appended, frame⟩ := ih ran
    refine ⟨?_, frame⟩
    rw [appended, (Table.insert?_eq_some added).2]
    simp

theorem persistServiceImportActor_frame (store : Store) (plan : Plan) (run : Run) :
    persistServiceImportActor store plan run =
      { store with references := (persistServiceImportActor store plan run).references } := by
  unfold persistServiceImportActor
  split
  · rfl
  · rfl

structure Created (request : RunCreateRequest) (store after : Store) : Prop where
  fresh : store.intents.find? (.runSubmit request.submitKey) = none
  bound : ∃ plan, store.plans.find? request.run.planID = some plan
  unheld : ∀ row ∈ store.runs.rows, request.run.acknowledgementID = none ∨
    row.run.acknowledgementID ≠ request.run.acknowledgementID
  runs : store.runs.insert? ⟨request.run.runID, request.run.planID, request.run.status, request.submitKey,
    request.request, request.run, request.run.createdAt, request.run.updatedAt⟩ = some after.runs
  steps : after.steps.rows = store.steps.rows ++
    request.run.steps.map fun step => ⟨step.stepID, request.run.runID, step.status, step.effectState⟩
  noted : store.Noted (.runSubmit request.submitKey) after
  others : after = { store with
    runs := after.runs, steps := after.steps, references := after.references, details := after.details
    intents := after.intents }

theorem create_law {after : Store} {request : RunCreateRequest} {result : Option Run}
    (done : create store request = .ok (result, after)) :
    (result = none ∧ after = store) ∨ (result = some request.run ∧ Created request store after) := by
  simp only [create] at done
  rcases executeAuditIntent_cases done with ⟨_, replayed, same⟩ | ⟨run, middle, intents, fresh, ran, recorded, made, rfl⟩
  · exact .inl ⟨replayed, same⟩
  · simp only [verifyPlanBindingInTx, peel, Prod.mk.injEq, checks] at ran
    obtain ⟨plan, ⟨_, stored, _⟩, _, unique, runs, added, inserted, stepped, rfl, rfl⟩ := ran
    obtain ⟨steps, frame⟩ := insertSteps_law stepped
    have actor := persistServiceImportActor_frame { store with runs := runs } plan request.run
    rw [actor] at frame steps
    refine .inr ⟨made, fresh, ⟨_, stored⟩, fun row member => (unique row member).2, ?_, ?_, ?_, ?_⟩
    · rw [frame]
      exact added
    · exact steps
    · exact .of_insert (by rw [frame]; rfl) recorded _ rfl
    · rw [frame]
      rfl

end RunRepository

namespace ExecutorLeaseRepository
open RunRepository

def writtenBack (store : Store) (run : Run) : Table RunRow.runID := (updateRunningRun store run).runs

theorem mem_writtenBack {new : RunRow} :
    new ∈ (writtenBack store run).rows ↔ ∃ old ∈ store.runs.rows,
      (if old.runID == run.runID && old.status == .running then { old with run := run, updatedAt := run.updatedAt }
        else old) = new :=
  List.mem_map

end ExecutorLeaseRepository

namespace RunRepository

variable {selected : LeaseRow → Bool} {status : LeaseStatus}

theorem mem_closeLeases {row : LeaseRow} :
    row ∈ (closeLeases store selected status).leases.rows ↔ ∃ old ∈ store.leases.rows,
      (if selected old && old.status == .active then
        { old with status := status, lease := { old.lease with status := status } } else old) = row :=
  List.mem_map

theorem closeLeases_eq_self
    (inactive : ∀ row ∈ store.leases.rows, selected row = true → row.status ≠ .active) :
    closeLeases store selected status = store := by
  have unselected (row : LeaseRow) (member : row ∈ store.leases.rows) :
      (selected row && row.status == .active) = false := by
    cases chosen : selected row with
    | false => rfl
    | true => simpa using inactive row member chosen
  unfold closeLeases
  rw [Table.modify_eq_self unselected]

end RunRepository

variable {runs : List Run}

theorem decodeRuns_eq_ok {rows : List RunRow}
    (decoded : (rows.mapM fun row => decodeRun row.run) = .ok runs) :
    runs = rows.map RunRow.run ∧ ∀ row ∈ rows, validRunDocument row.run = true := by
  induction rows generalizing runs with
  | nil =>
    simp only [List.mapM_nil, peel] at decoded
    subst decoded
    simp
  | cons row rest ih =>
    simp only [List.mapM_cons, peel, decodeRun_eq_ok] at decoded
    obtain ⟨run, ⟨valid, rfl⟩, others, decoded, rfl⟩ := decoded
    obtain ⟨rfl, all⟩ := ih decoded
    exact ⟨rfl, List.forall_mem_cons.mpr ⟨valid, all⟩⟩

theorem mem_activeRuns (read : RunRepository.activeRuns store = .ok runs) :
    run ∈ runs ↔ ∃ row ∈ store.runs.rows, RunRepository.activeStatus row.status = true ∧ row.run = run := by
  obtain ⟨rfl, _⟩ := decodeRuns_eq_ok read
  simp only [List.mem_map, List.mem_insertionSort, List.mem_filter, and_assoc]

theorem activeRuns_valid (read : RunRepository.activeRuns store = .ok runs)
    (member : run ∈ runs) : validRunDocument run = true := by
  obtain ⟨rfl, valid⟩ := decodeRuns_eq_ok read
  obtain ⟨row, present, rfl⟩ := List.mem_map.mp member
  exact valid row present

end VskLabs

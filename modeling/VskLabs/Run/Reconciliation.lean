import VskLabs.Run.Startup

/-! What startup reconciliation makes of the runs a crash left behind. -/

namespace VskLabs
open Library

instance (store : Store) (key : IntentKey) : Decidable (store.Recorded key) :=
  inferInstanceAs (Decidable (_ = true))

def RunStep.unsettled (step : RunStep) : Bool :=
  step.status == .partialOutcome || step.effectState == .effectUnknown ||
    (step.status == .running && (step.effectState == .intentRecorded || step.effectState == .receiptRecorded))

def outcomeOf (steps : List RunStep) : Status :=
  if steps.any RunStep.unsettled then .partialOutcome
  else if steps.any fun step => step.status == .failed then .failed
  else if steps.all fun step => step.status == .succeeded && step.effectState == .verified then .succeeded
  else .interrupted

/-! ### The classification loop -/

def Engine.Verdict.judge (verdict : Engine.Verdict) (step : RunStep) : Engine.Verdict where
  ambiguous := verdict.ambiguous || step.unsettled
  failed := verdict.failed || (!(step.status == .partialOutcome || step.effectState == .effectUnknown) &&
    step.status == .failed)
  allSucceeded := verdict.allSucceeded && step.status == .succeeded && step.effectState == .verified

theorem judge_ambiguous (steps : List RunStep) (verdict : Engine.Verdict) :
    (steps.foldl Engine.Verdict.judge verdict).ambiguous = (verdict.ambiguous || steps.any RunStep.unsettled) := by
  induction steps generalizing verdict with
  | nil => simp
  | cons step rest ih => simp [ih, Engine.Verdict.judge, Bool.or_assoc]

theorem judge_failed (steps : List RunStep) (verdict : Engine.Verdict) (settled : steps.any RunStep.unsettled = false) :
    (steps.foldl Engine.Verdict.judge verdict).failed =
      (verdict.failed || steps.any fun step => step.status == .failed) := by
  induction steps generalizing verdict with
  | nil => simp
  | cons step rest ih =>
    simp only [List.any_cons, Bool.or_eq_false_iff] at settled
    have known : (step.status == .partialOutcome || step.effectState == .effectUnknown) = false := by
      have here := settled.1
      simp only [RunStep.unsettled, Bool.or_eq_false_iff] at here ⊢
      exact here.1
    rw [List.foldl_cons, ih _ settled.2]
    simp [Engine.Verdict.judge, known, Bool.or_assoc]

theorem judge_allSucceeded (steps : List RunStep) (verdict : Engine.Verdict) :
    (steps.foldl Engine.Verdict.judge verdict).allSucceeded =
      (verdict.allSucceeded && steps.all fun step => step.status == .succeeded && step.effectState == .verified) := by
  induction steps generalizing verdict with
  | nil => simp
  | cons step rest ih => simp [ih, Engine.Verdict.judge, Bool.and_assoc]

variable {config : EngineConfig} {runID : String} {now : Time} {readings later : List Time} {store after : Store}
  {run : Run} {done : Unit} {runs : List Run}

theorem Verdict.transition_target {steps : List RunStep}
    (stepped : steps ≠ []) :
    ((steps.foldl Engine.Verdict.judge ⟨false, false, !steps.isEmpty⟩).transition config runID now).target =
      outcomeOf steps := by
  have nonempty : (!steps.isEmpty) = true := by simpa using stepped
  unfold Engine.Verdict.transition outcomeOf
  rw [judge_ambiguous, judge_allSucceeded, nonempty]
  cases unsettled : steps.any RunStep.unsettled with
  | true => simp
  | false =>
    rw [judge_failed steps _ unsettled]
    simp only [Bool.false_or, Bool.true_and, Bool.false_eq_true, if_false]
    split
    · rfl
    · split
      · rfl
      · rfl

theorem Verdict.transition_rest (config : EngineConfig) (verdict : Engine.Verdict) (runID : String) (now : Time) :
    (verdict.transition config runID now).runID = runID ∧ (verdict.transition config runID now).source = .running ∧
      (verdict.transition config runID now).time = now := by
  unfold Engine.Verdict.transition
  split
  · exact ⟨rfl, rfl, rfl⟩
  · split
    · exact ⟨rfl, rfl, rfl⟩
    · split
      · exact ⟨rfl, rfl, rfl⟩
      · exact ⟨rfl, rfl, rfl⟩

/-! ### One process alone -/

theorem mutateRun_alone {mutation : Mutation}
    (done : (mutateRun mutation).eval alone (readings, store) = some (.ok run, (later, after))) :
    later = readings ∧ ∃ result, mutation.apply store = .ok (result, after) := by
  simp only [mutateRun, issue, Program.eval_call_bind, alone, storeCall, commit, Option.map_some, Option.bind_some] at done
  cases applied : mutation.apply store with
  | error failure => simp [applied] at done
  | ok pair =>
    obtain ⟨result, written⟩ := pair
    rw [applied] at done
    cases result with
    | some changed =>
      simp only [Program.eval_pure, Option.some.injEq, Prod.mk.injEq] at done
      obtain ⟨_, rfl, rfl⟩ := done
      exact ⟨rfl, some changed, rfl⟩
    | none =>
      -- the replayed document is read back without a change
      simp only [getRun, issue, Program.call, Program.eval, alone, storeCall, readState, Option.map_some,
        Option.bind_some, Option.some.injEq, Prod.mk.injEq] at done
      obtain ⟨_, rfl, rfl⟩ := done
      exact ⟨rfl, none, rfl⟩

/-- What the classification of a run may do: no status and no lease moves, and
only keys of unknown effects of that run appear. -/
structure Quiet (runID : String) (before after : Store) : Prop where
  agreed : after.Agreed
  status : ∀ wanted, after.statusOf wanted = before.statusOf wanted
  leases : after.leases = before.leases
  recorded : ∀ key, (∀ stepID time, key ≠ .runMutation runID (.stepEffectUnknown stepID time)) →
    (after.Recorded key ↔ before.Recorded key)

theorem Quiet.refl (agreed : store.Agreed) : Quiet runID store store :=
  ⟨agreed, fun _ => rfl, rfl, fun _ _ => Iff.rfl⟩

theorem Quiet.trans {before middle : Store} (first : Quiet runID before middle)
    (second : Quiet runID middle after) : Quiet runID before after where
  agreed := second.agreed
  status wanted := (second.status wanted).trans (first.status wanted)
  leases := second.leases.trans first.leases
  recorded key other := (second.recorded key other).trans (first.recorded key other)

theorem markStepUnknown_quiet {stepID : String} {time : Time} {result : Option Run}
    (done : RunRepository.markStepUnknown store runID stepID time = .ok (result, after)) (agreed : store.Agreed) :
    Quiet runID store after := by
  have kept : after.Agreed := @Mutation.apply_agreed (.markStepUnknown runID stepID time) _ _ _ done agreed
  rcases (RunRepository.settleStep_law done).wrote agreed with ⟨_, _, rfl⟩ | ⟨old, run, middle, _, stored, _, _, _, ⟨_, rfl, _⟩, wrote⟩
  · exact Quiet.refl agreed
  · refine ⟨kept, fun wanted => ?_, wrote.leases, fun key other => ?_⟩
    · simp only [Store.statusOf, wrote.document]
      split
      next here =>
        subst here
        simp [stored, Run.writeStep]
      next => rfl
    · rw [wrote.recorded, or_iff_right (other stepID time)]

theorem classify_alone {steps : List RunStep} {verdict final : Engine.Verdict} (agreed : store.Agreed)
    (done : (Engine.classify runID now steps verdict).eval alone (readings, store) = some (.ok final, (later, after))) :
    later = readings ∧ final = steps.foldl Engine.Verdict.judge verdict ∧ Quiet runID store after := by
  induction steps generalizing verdict store with
  | nil =>
    simp only [Engine.classify, Program.eval_pure, Option.some.injEq, Prod.mk.injEq, Except.ok.injEq] at done
    obtain ⟨rfl, rfl, rfl⟩ := done
    exact ⟨rfl, rfl, Quiet.refl agreed⟩
  | cons step rest ih =>
    simp only [Engine.classify] at done
    split at done
    next unknown =>
      obtain ⟨same, rfl, quiet⟩ := ih agreed done
      refine ⟨same, ?_, quiet⟩
      simp [Engine.Verdict.judge, RunStep.unsettled, unknown]
    next known =>
      rw [Bool.not_eq_true] at known
      split at done
      next failed =>
        obtain ⟨same, rfl, quiet⟩ := ih agreed done
        refine ⟨same, ?_, quiet⟩
        have still : (step.status == Status.running) = false := by
          rw [beq_iff_eq] at failed
          simp [failed]
        simp [Engine.Verdict.judge, RunStep.unsettled, known, failed, still]
      next passed =>
        rw [Bool.not_eq_true] at passed
        split at done
        next flying =>
          rw [Program.eval_bind, Option.bind_eq_some_iff] at done
          obtain ⟨⟨reply, clock, marked⟩, ran, done⟩ := done
          cases reply with
          | error failure => simp at done
          | ok run =>
            obtain ⟨rfl, result, wrote⟩ := mutateRun_alone ran
            have quiet := markStepUnknown_quiet wrote agreed
            obtain ⟨same, rfl, rest⟩ := ih quiet.agreed done
            refine ⟨same, ?_, quiet.trans rest⟩
            simp [Engine.Verdict.judge, RunStep.unsettled, known, passed, flying]
        next resting =>
          rw [Bool.not_eq_true] at resting
          obtain ⟨same, rfl, quiet⟩ := ih agreed done
          refine ⟨same, ?_, quiet⟩
          simp [Engine.Verdict.judge, RunStep.unsettled, known, passed, resting]

/-! ### One run of the loop -/

def visitKey (run : Run) (now : Time) : IntentKey :=
  .runMutation run.runID (.transitioned .running (outcomeOf run.steps) now)

structure Visited (run : Run) (now : Time) (before after : Store) : Prop where
  agreed : after.Agreed
  others : ∀ wanted, wanted ≠ run.runID → after.statusOf wanted = before.statusOf wanted
  moved : run.status = .running → ¬ before.Recorded (visitKey run now) →
    after.statusOf run.runID = some (outcomeOf run.steps)
  stayed : (run.status = .running → before.Recorded (visitKey run now)) →
    after.statusOf run.runID = before.statusOf run.runID
  leases : ∀ lease ∈ after.leases.rows, lease.status = .active → lease ∈ before.leases.rows ∧ lease.runID ≠ run.runID
  recorded : ∀ wanted event, wanted ≠ run.runID →
    (after.Recorded (.runMutation wanted event) ↔ before.Recorded (.runMutation wanted event))

theorem releaseRunLeases_active {time : Time}
    (released : RunRepository.releaseRunLeases store runID time = .ok (done, after)) :
    after = { store with leases := after.leases } ∧
      ∀ lease ∈ after.leases.rows, lease.status = .active → lease ∈ store.leases.rows ∧ lease.runID ≠ runID := by
  obtain rfl := RunRepository.releaseRunLeases_law released
  refine ⟨rfl, fun lease member active => ?_⟩
  obtain ⟨old, present, rfl⟩ := RunRepository.mem_closeLeases.mp member
  split at active
  next => cases active
  next kept =>
    rw [if_neg kept]
    refine ⟨present, fun mine => kept ?_⟩
    simp [mine, active]

theorem Visited.of_release (agreed : store.Agreed)
    (released : RunRepository.releaseRunLeases store run.runID now = .ok (done, after))
    (resting : run.status ≠ .running) : Visited run now store after := by
  obtain ⟨frame, active⟩ := releaseRunLeases_active released
  have status (wanted : String) : after.statusOf wanted = store.statusOf wanted := by
    rw [frame]
    rfl
  refine ⟨agreed.of_runs (by rw [frame]), fun wanted _ => status wanted, fun running => absurd running resting,
    fun _ => status run.runID, active, fun wanted event _ => ?_⟩
  rw [frame]
  rfl

theorem Visited.of_transition {request : RunTransitionRequest} {released quiet : Store} {result : Option Run}
    (freed : RunRepository.releaseRunLeases store run.runID now = .ok (done, released))
    (classified : Quiet run.runID released quiet)
    (transitioned : RunRepository.transitionRun quiet request = .ok (result, after))
    (named : request.key = visitKey run now) (running : run.status = .running) : Visited run now store after := by
  obtain ⟨frame, active⟩ := releaseRunLeases_active freed
  have kept : after.Agreed := @Mutation.apply_agreed (.transitionRun request) _ _ _ transitioned classified.agreed
  have before (wanted : String) : quiet.statusOf wanted = store.statusOf wanted := by
    rw [classified.status, frame]
    rfl
  have unmarked (wanted : String) (event : RunEvent) (other : ∀ stepID time, event ≠ .stepEffectUnknown stepID time ∨
      wanted ≠ run.runID) :
      quiet.Recorded (.runMutation wanted event) ↔ store.Recorded (.runMutation wanted event) := by
    rw [classified.recorded, frame]
    · rfl
    · rintro stepID time same
      cases same
      rcases other stepID time with different | different
      · exact different rfl
      · exact different rfl
  have key : quiet.Recorded request.key ↔ store.Recorded (visitKey run now) := by
    rw [named]
    exact unmarked _ _ fun _ _ => .inl (by simp)
  have same : request.runID = run.runID := by
    simp only [RunTransitionRequest.key, visitKey, IntentKey.runMutation.injEq] at named
    exact named.1
  have target : request.target = outcomeOf run.steps := by
    simp only [RunTransitionRequest.key, visitKey, IntentKey.runMutation.injEq, RunEvent.transitioned.injEq] at named
    exact named.2.2.1
  rcases (RunRepository.transitionRun_law transitioned).2.wrote classified.agreed with
    ⟨recorded, _, rfl⟩ | ⟨old, moved, middle, _, _, _, _, _, law, wrote⟩
  · refine ⟨kept, fun wanted _ => before wanted, fun _ fresh => absurd (key.mp recorded) fresh,
      fun _ => before run.runID, ?_, fun wanted event other => unmarked wanted event fun _ _ => .inr other⟩
    rw [classified.leases]
    exact active
  · have status (wanted : String) : after.statusOf wanted =
        if wanted = run.runID then some (outcomeOf run.steps) else store.statusOf wanted := by
      have reached : moved.status = request.target := by rw [(RunRepository.transitionMutation_law law).2.1]
      rw [← before wanted, ← target, ← reached, Store.statusOf, wrote.document, same]
      split
      · rfl
      · rfl
    refine ⟨kept, fun wanted other => by rw [status, if_neg other], fun _ _ => by rw [status, if_pos rfl],
      fun recorded => absurd (key.mpr (recorded running)) wrote.fresh, ?_, fun wanted event other => ?_⟩
    · rw [wrote.leases, classified.leases]
      exact active
    · rw [wrote.recorded, ← unmarked wanted event fun _ _ => .inr other, or_iff_right]
      intro clash
      rw [IntentKey.runMutation.injEq, same] at clash
      exact other clash.1

theorem reconcileRun_alone
    (agreed : store.Agreed) (active : RunRepository.activeStatus run.status = true) (stepped : run.steps ≠ [])
    (done : (Engine.reconcileRun config run).eval alone (readings, store) = some (.ok (), (later, after))) :
    ∃ now, readings = now :: later ∧ Visited run now store after := by
  cases readings with
  | nil => simp [Engine.reconcileRun, clock, issue, Program.eval_call_bind, alone] at done
  | cons now rest =>
    simp only [Engine.reconcileRun, clock, issue, Program.eval_call_bind, alone, storeCall, commit, Option.map_some,
      Option.bind_some] at done
    cases freed : RunRepository.releaseRunLeases store run.runID now with
    | error failure => simp [freed] at done
    | ok pair =>
      obtain ⟨freeing, released⟩ := pair
      simp only [freed] at done
      split at done
      next resting =>
        simp only [Program.eval_pure, Option.some.injEq, Prod.mk.injEq] at done
        obtain ⟨_, rfl, rfl⟩ := done
        refine ⟨now, rfl, Visited.of_release agreed freed ?_⟩
        intro running
        simp [running] at resting
      next busy =>
        have running : run.status = .running := by
          cases status : run.status <;> simp [status, RunRepository.activeStatus] at active busy ⊢
        have unlocked : released.Agreed := agreed.of_runs (by rw [(releaseRunLeases_active freed).1])
        rw [Program.eval_bind, Option.bind_eq_some_iff] at done
        obtain ⟨⟨reply, clock, quiet⟩, ran, done⟩ := done
        cases reply with
        | error failure => simp at done
        | ok verdict =>
          obtain ⟨rfl, rfl, classified⟩ := classify_alone unlocked ran
          rw [Program.eval_bind, Option.bind_eq_some_iff] at done
          obtain ⟨⟨reply, clock, moved⟩, ran, done⟩ := done
          cases reply with
          | error failure => simp at done
          | ok final =>
            simp only [Program.eval_pure, Option.some.injEq, Prod.mk.injEq] at done
            obtain ⟨_, rfl, rfl⟩ := done
            obtain ⟨rfl, result, transitioned⟩ := mutateRun_alone ran
            refine ⟨now, rfl, Visited.of_transition freed classified transitioned ?_ running⟩
            obtain ⟨runID, source, time⟩ := Verdict.transition_rest config
              (run.steps.foldl Engine.Verdict.judge ⟨false, false, !run.steps.isEmpty⟩) run.runID now
            rw [RunTransitionRequest.key, visitKey, runID, source, time, Verdict.transition_target stepped]

/-! ### The loop over the active runs -/

theorem activeRuns_distinct (agreed : store.Agreed)
    (read : RunRepository.activeRuns store = .ok runs) : (runs.map Run.runID).Nodup := by
  obtain ⟨rfl, _⟩ := decodeRuns_eq_ok read
  have sorted := List.perm_insertionSort RunRepository.activeBefore
    (store.runs.rows.filter fun row => RunRepository.activeStatus row.status)
  have named : ((store.runs.rows.filter fun row => RunRepository.activeStatus row.status).map RunRow.run).map Run.runID =
      (store.runs.rows.filter fun row => RunRepository.activeStatus row.status).map RunRow.runID := by
    rw [List.map_map]
    apply List.map_congr_left
    intro row member
    exact (agreed row (List.mem_filter.mp member).1).runID
  rw [((sorted.map RunRow.run).map Run.runID).nodup_iff, named]
  exact store.runs.distinct.sublist (List.filter_sublist.map _)

structure Swept (runs : List Run) (readings : List Time) (before after : Store) : Prop where
  agreed : after.Agreed
  others : ∀ wanted, (∀ run ∈ runs, wanted ≠ run.runID) → after.statusOf wanted = before.statusOf wanted
  moved : ∀ visit ∈ runs.zip readings, visit.1.status = .running → ¬ before.Recorded (visitKey visit.1 visit.2) →
    after.statusOf visit.1.runID = some (outcomeOf visit.1.steps)
  stayed : ∀ visit ∈ runs.zip readings, (visit.1.status = .running → before.Recorded (visitKey visit.1 visit.2)) →
    after.statusOf visit.1.runID = before.statusOf visit.1.runID
  leases : ∀ lease ∈ after.leases.rows, lease.status = .active →
    lease ∈ before.leases.rows ∧ ∀ run ∈ runs, lease.runID ≠ run.runID
  timed : runs.length ≤ readings.length

theorem Swept.nil (agreed : store.Agreed) : Swept [] readings store store :=
  ⟨agreed, fun _ _ => rfl, by simp, by simp, fun _ member _ => ⟨member, by simp⟩, by simp⟩

theorem Swept.cons {rest : List Run} {before middle : Store}
    (first : Visited run now before middle) (others : Swept rest readings middle after)
    (distinct : ∀ other ∈ rest, other.runID ≠ run.runID) : Swept (run :: rest) (now :: readings) before after := by
  have own : after.statusOf run.runID = middle.statusOf run.runID :=
    others.others run.runID fun other member => (distinct other member).symm
  have keys (visit : Run × Time) (member : visit ∈ rest.zip readings) :
      middle.Recorded (visitKey visit.1 visit.2) ↔ before.Recorded (visitKey visit.1 visit.2) :=
    first.recorded _ _ (distinct visit.1 (List.of_mem_zip member).1)
  have status (visit : Run × Time) (member : visit ∈ rest.zip readings) :
      middle.statusOf visit.1.runID = before.statusOf visit.1.runID :=
    first.others _ (distinct visit.1 (List.of_mem_zip member).1)
  constructor
  case agreed => exact others.agreed
  case others =>
    intro wanted apart
    rw [List.forall_mem_cons] at apart
    rw [others.others wanted apart.2, first.others wanted apart.1]
  case moved =>
    intro visit member running fresh
    rw [List.zip_cons_cons, List.mem_cons] at member
    rcases member with rfl | member
    · rw [own]
      exact first.moved running fresh
    · exact others.moved visit member running (by rwa [keys visit member])
  case stayed =>
    intro visit member recorded
    rw [List.zip_cons_cons, List.mem_cons] at member
    rcases member with rfl | member
    · rw [own]
      exact first.stayed recorded
    · rw [others.stayed visit member (by rwa [keys visit member]), status visit member]
  case leases =>
    intro lease member active
    obtain ⟨present, apart⟩ := others.leases lease member active
    obtain ⟨old, mine⟩ := first.leases lease present active
    exact ⟨old, List.forall_mem_cons.mpr ⟨mine, apart⟩⟩
  case timed => simpa using others.timed

theorem reconcileRuns_alone
    (agreed : store.Agreed) (active : ∀ run ∈ runs, RunRepository.activeStatus run.status = true ∧ run.steps ≠ [])
    (distinct : (runs.map Run.runID).Nodup)
    (done : (Engine.reconcileRuns config runs).eval alone (readings, store) = some (.ok (), (later, after))) :
    Swept runs readings store after := by
  induction runs generalizing readings store with
  | nil =>
    simp only [Engine.reconcileRuns, Program.eval_pure, Option.some.injEq, Prod.mk.injEq] at done
    obtain ⟨_, rfl, rfl⟩ := done
    exact Swept.nil agreed
  | cons run rest ih =>
    rw [List.forall_mem_cons] at active
    rw [List.map_cons, List.nodup_cons] at distinct
    rw [Engine.reconcileRuns, Program.eval_bind, Option.bind_eq_some_iff] at done
    obtain ⟨⟨reply, times, middle⟩, ran, done⟩ := done
    cases reply with
    | error failure => simp at done
    | ok _ =>
      obtain ⟨now, rfl, visited⟩ := reconcileRun_alone agreed active.1.1 active.1.2 ran
      refine Swept.cons visited (ih visited.agreed active.2 distinct.2 done) fun other member same => ?_
      exact distinct.1 (List.mem_map.mpr ⟨other, member, same⟩)

theorem reconcile_alone (agreed : store.Agreed)
    (done : (Engine.reconcile config).eval alone (readings, store) = some (.ok (), (later, after))) :
    ∃ runs, RunRepository.activeRuns store = .ok runs ∧ Swept runs readings store after := by
  simp only [Engine.reconcile, issue, Program.eval_call_bind, alone, storeCall, readState, Option.map_some,
    Option.bind_some] at done
  cases read : RunRepository.activeRuns store with
  | error failure => simp [read] at done
  | ok runs =>
    rw [read] at done
    refine ⟨runs, rfl, reconcileRuns_alone agreed (fun run member => ?_) (activeRuns_distinct agreed read) done⟩
    obtain ⟨row, present, active, rfl⟩ := (mem_activeRuns read).mp member
    refine ⟨by rw [(agreed row present).status]; exact active, ?_⟩
    have valid := activeRuns_valid read member
    simp only [validRunDocument, checks, List.isEmpty_eq_false_iff] at valid
    exact valid.1.2

/-! ### Reconciling again -/

def Rests (store : Store) (run : Run) : Prop :=
  (run.status = .queued ∨ run.status = .interrupted) ∧
    ∀ lease ∈ store.leases.rows, lease.runID = run.runID → lease.status ≠ .active

theorem reconcileRuns_rests {result : Except Failure Unit} (resting : ∀ run ∈ runs, Rests store run)
    (done : (Engine.reconcileRuns config runs).eval alone (readings, store) = some (result, (later, after))) :
    after = store := by
  induction runs generalizing readings with
  | nil =>
    simp only [Engine.reconcileRuns, Program.eval_pure, Option.some.injEq, Prod.mk.injEq] at done
    exact done.2.2.symm
  | cons run rest ih =>
    obtain ⟨here, others⟩ := List.forall_mem_cons.mp resting
    have skipped : (run.status == .queued || run.status == .interrupted) = true := by simpa using here.1
    cases readings with
    | nil =>
      rw [Engine.reconcileRuns, Program.eval_bind] at done
      simp [Engine.reconcileRun, clock, issue, Program.eval_call_bind, alone] at done
    | cons now times =>
      rw [Engine.reconcileRuns, Program.eval_bind] at done
      simp only [Engine.reconcileRun, clock, issue, Program.eval_call_bind, alone, storeCall, commit, Option.map_some,
        Option.bind_some, skipped, if_true] at done
      cases freed : RunRepository.releaseRunLeases store run.runID now with
      | error failure =>
        simp only [freed, Program.eval_pure, Option.bind_some, Option.some.injEq, Prod.mk.injEq] at done
        exact done.2.2.symm
      | ok pair =>
        have same : pair.2 = store := by
          rw [RunRepository.releaseRunLeases_law freed]
          exact RunRepository.closeLeases_eq_self fun row member mine => here.2 row member (by simpa using mine)
        simp only [freed, Program.eval_pure, Option.bind_some, same] at done
        exact ih others done

theorem reconcile_rests {result : Except Failure Unit}
    (resting : ∀ row ∈ store.runs.rows, RunRepository.activeStatus row.status = true → Rests store row.run)
    (done : (Engine.reconcile config).eval alone (readings, store) = some (result, (later, after))) : after = store := by
  simp only [Engine.reconcile, issue, Program.eval_call_bind, alone, storeCall, readState, Option.map_some,
    Option.bind_some] at done
  cases read : RunRepository.activeRuns store with
  | error failure =>
    simp only [read, Program.eval_pure, Option.some.injEq, Prod.mk.injEq] at done
    exact done.2.2.symm
  | ok runs =>
    rw [read] at done
    refine reconcileRuns_rests (fun run member => ?_) done
    obtain ⟨row, present, active, rfl⟩ := (mem_activeRuns read).mp member
    exact resting row present active

/-! ### The result -/

/-- What reconciliation is for: the runs it read are settled by their steps, and
a second pass finds nothing to do. -/
structure Reconciled (config : EngineConfig) (runs : List Run) (after : Store) : Prop where
  stopped : ∀ row ∈ after.runs.rows, row.status ≠ .running ∧ row.run.status ≠ .running
  released : ∀ run ∈ runs, ∀ lease ∈ after.leases.rows, lease.runID = run.runID → lease.status ≠ .active
  classified : ∀ run ∈ runs, run.status = .running → after.statusOf run.runID = some (outcomeOf run.steps)
  stable : ∀ {readings result later again},
    (Engine.reconcile config).eval alone (readings, after) = some (result, (later, again)) → again = after

theorem statusOf_row {row : RunRow} (member : row ∈ store.runs.rows) :
    store.statusOf row.runID = some row.run.status := by
  have found := Table.find?_eq_some_iff.mpr ⟨member, rfl⟩
  simp [Store.statusOf, Store.document, found]

theorem row_of_statusOf {status : Status} (found : store.statusOf runID = some status) :
    ∃ row ∈ store.runs.rows, row.runID = runID ∧ row.run.status = status := by
  simp only [Store.statusOf, Store.document, Option.map_map, Option.map_eq_some_iff] at found
  obtain ⟨row, found, rfl⟩ := found
  exact ⟨row, Table.mem_of_find? found, Table.find?_key found, rfl⟩

theorem Swept.visited (agreed : store.Agreed)
    (read : RunRepository.activeRuns store = .ok runs) (swept : Swept runs readings store after) {row : RunRow}
    (member : row ∈ after.runs.rows) (active : RunRepository.activeStatus row.status = true) :
    ∃ run ∈ runs, run.runID = row.runID := by
  by_contra missing
  simp only [not_exists, not_and] at missing
  have same := swept.others row.runID fun run present => Ne.symm (missing run present)
  rw [statusOf_row member] at same
  obtain ⟨old, present, named, status⟩ := row_of_statusOf same.symm
  refine missing old.run ((mem_activeRuns read).mpr ⟨old, present, ?_, rfl⟩) ((agreed old present).runID.trans named)
  rw [← (agreed old present).status, status, (swept.agreed row member).status]
  exact active

theorem outcomeOf_ne_running (steps : List RunStep) : outcomeOf steps ≠ .running := by
  unfold outcomeOf
  split
  · simp
  · split
    · simp
    · split
      · simp
      · simp

theorem Swept.visit (swept : Swept runs readings store after) (member : run ∈ runs) :
    ∃ now, (run, now) ∈ runs.zip readings := by
  rw [← List.map_fst_zip swept.timed] at member
  obtain ⟨⟨_, now⟩, visit, rfl⟩ := List.mem_map.mp member
  exact ⟨now, visit⟩

theorem statusOf_active (agreed : store.Agreed)
    (read : RunRepository.activeRuns store = .ok runs) (member : run ∈ runs) :
    store.statusOf run.runID = some run.status := by
  obtain ⟨row, present, _, rfl⟩ := (mem_activeRuns read).mp member
  rw [(agreed row present).runID]
  exact statusOf_row present

theorem Swept.reconciled_iff
    (agreed : store.Agreed) (read : RunRepository.activeRuns store = .ok runs) (swept : Swept runs readings store after) :
    Reconciled config runs after ↔ ∀ visit ∈ runs.zip readings, visit.1.status = .running →
      ¬ store.Recorded (visitKey visit.1 visit.2) := by
  constructor
  · -- a replayed transition leaves the run running
    intro reconciled visit member running recorded
    have kept := swept.stayed visit member fun _ => recorded
    rw [statusOf_active agreed read (List.of_mem_zip member).1] at kept
    obtain ⟨row, present, _, status⟩ := row_of_statusOf kept
    exact (reconciled.stopped row present).2 (status.trans running)
  · intro fresh
    have stopped (row : RunRow) (member : row ∈ after.runs.rows) : row.run.status ≠ .running := by
      intro running
      have active : RunRepository.activeStatus row.status = true := by
        rw [← (swept.agreed row member).status, running]
        rfl
      obtain ⟨run, present, same⟩ := swept.visited agreed read member active
      obtain ⟨now, visit⟩ := swept.visit present
      have status := statusOf_row member
      rw [← same] at status
      by_cases was : run.status = .running
      · rw [swept.moved _ visit was (fresh _ visit was), running] at status
        exact outcomeOf_ne_running _ (Option.some.inj status)
      · rw [swept.stayed _ visit fun claimed => absurd claimed was, statusOf_active agreed read present, running] at status
        exact was (Option.some.inj status)
    have released (run : Run) (member : run ∈ runs) (lease : LeaseRow) (present : lease ∈ after.leases.rows)
        (mine : lease.runID = run.runID) : lease.status ≠ .active :=
      fun active => (swept.leases lease present active).2 run member mine
    constructor
    case stopped =>
      intro row member
      rw [← (swept.agreed row member).status]
      exact ⟨stopped row member, stopped row member⟩
    case released => exact released
    case classified =>
      intro run member running
      obtain ⟨now, visit⟩ := swept.visit member
      exact swept.moved _ visit running (fresh _ visit running)
    case stable =>
      intro times result later again done
      refine reconcile_rests (fun row member active => ⟨?_, fun lease present mine => ?_⟩) done
      · have idle := stopped row member
        rw [← (swept.agreed row member).status] at active
        cases status : row.run.status <;> simp [status, RunRepository.activeStatus] at active idle ⊢
      · obtain ⟨run, visited, same⟩ := swept.visited agreed read member active
        refine released run visited lease present ?_
        rw [mine, (swept.agreed row member).runID, same]

/-- From every state a crash can leave, a reconciliation that returns without
error settles the runs it read exactly when no running one of them has made the
transition to its outcome before in the second in which it is visited. -/
theorem reconciled_iff_unrecorded {config : EngineConfig} {plans : Table Plan.planID} {revision epoch : Int}
    {deeds : List Deed} {system : System world}
    (ran : execute config (Store.fresh plans revision epoch) deeds = some system)
    {readings later : List Time} {after : Store}
    (done : (Engine.reconcile config).eval alone (readings, system.state) = some (.ok (), (later, after))) :
    ∃ runs, RunRepository.activeRuns system.state = .ok runs ∧
      (Reconciled config runs after ↔ ∀ visit ∈ runs.zip readings, visit.1.status = .running →
        ¬ Store.Recorded system.state (visitKey visit.1 visit.2)) := by
  obtain ⟨agreed, _⟩ := history_agreed ran
  obtain ⟨runs, read, swept⟩ := reconcile_alone agreed done
  exact ⟨runs, read, swept.reconciled_iff agreed read⟩

/-- Whether a lone program succeeded, used all its clock readings and left a store that passes. -/
def leaves (outcome : Option (Except Failure Unit × List Time × Store)) (check : Store → Bool) : Bool :=
  match outcome with
  | some (.ok (), [], after) => check after
  | _ => false

theorem of_leaves {outcome : Option (Except Failure Unit × List Time × Store)} {check : Store → Bool}
    (left : leaves outcome check = true) : ∃ after, outcome = some (.ok (), ([], after)) ∧ check after = true := by
  unfold leaves at left
  split at left
  next after => exact ⟨after, rfl, left⟩
  next => cases left

def submittedRun : List Deed := submitsExternal ++ [.crash]

/-- Reconciled ten seconds later, the run is interrupted. -/
theorem submitted_run_reconciled :
    ∃ system runs after, execute sampleConfig sampleStore submittedRun = some system ∧
      (Engine.reconcile sampleConfig).eval alone ([20], system.state) = some (.ok (), ([], after)) ∧
      RunRepository.activeRuns system.state = .ok runs ∧ runs.map Run.status = [.running] ∧
      Reconciled sampleConfig runs after := by
  have found : ((execute sampleConfig sampleStore submittedRun).any fun system =>
      leaves ((Engine.reconcile sampleConfig).eval alone ([20], system.state)) fun _ =>
        (RunRepository.activeRuns system.state).toOption.any fun runs => decide (runs.map Run.status = [.running]) &&
          (runs.zip [20]).all fun visit => visit.1.status != .running ||
            !decide (Store.Recorded system.state (visitKey visit.1 visit.2))) = true := by decide +kernel
  obtain ⟨system, ran, found⟩ := (Option.any_eq_true ..).mp found
  obtain ⟨after, done, found⟩ := of_leaves found
  obtain ⟨runs, read, settled⟩ := reconciled_iff_unrecorded ran done
  simp only [read, Except.toOption, Option.any_some, checks, decide_eq_false_iff_not] at found
  refine ⟨system, runs, after, ran, done, read, found.1, settled.mpr fun visit member running => ?_⟩
  exact (found.2 visit member).resolve_left (not_not_intro running)

/-- Within one second a run is submitted, interrupted by a cancellation and
resumed; then the process crashes. -/
def resumedRun : List Deed :=
  cancelsExternal ++
  [.spawn (.resumeAs "run")] ++ tell 2 [accepted, accepted, passed, passed, .clock 10, accepted] ++ [.crash]

/-- Reconciled in that same second, the run is still running. -/
theorem resumed_run_left_running :
    ∃ system after, execute sampleConfig sampleStore resumedRun = some system ∧
      (Engine.reconcile sampleConfig).eval alone ([10], system.state) = some (.ok (), ([], after)) ∧
      after.statusOf "run" = some .running := by
  have found : ((execute sampleConfig sampleStore resumedRun).any fun system =>
      leaves ((Engine.reconcile sampleConfig).eval alone ([10], system.state)) fun after =>
        decide (after.statusOf "run" = some .running)) = true := by decide +kernel
  obtain ⟨system, ran, found⟩ := (Option.any_eq_true ..).mp found
  obtain ⟨after, done, status⟩ := of_leaves found
  exact ⟨system, after, ran, done, of_decide_eq_true status⟩

end VskLabs

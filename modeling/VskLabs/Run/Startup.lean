import VskLabs.Run.Transitions

/-! Startup: history pruning and the reconciliation of what a crash left. No
other thread is running yet, so the two are evaluated alone. -/

namespace VskLabs
open Library

/-- One process alone. The clock gives its readings in order and no store call
is disturbed from outside. -/
def alone (query : Call) (state : List Time × Store) : Option (Reply query × (List Time × Store)) :=
  match query with
  | .clock =>
    match state.1 with
    | now :: later => some (now, (later, state.2))
    | [] => none
  | query => (storeCall query .none state.2).map fun outcome => (outcome.1, (state.1, outcome.2))

theorem startup_continues {config : EngineConfig} {store after : Store} {now : Time} {later : List Time}
    {result : RunPruneResult} (done : Retention.pruneRunHistory store now = .ok (result, after)) :
    (Engine.startup config).eval alone (now :: later, store) = (Engine.reconcile config).eval alone (later, after) := by
  simp only [Engine.startup, clock, issue, Program.eval_call_bind, alone, Option.bind_some, storeCall, commit, done,
    Option.map_some]

theorem startup_stops {config : EngineConfig} {store : Store} {now : Time} {later : List Time} {failure : Failure}
    (failed : Retention.pruneRunHistory store now = .error failure) :
    (Engine.startup config).eval alone (now :: later, store) = some (.error failure, (later, store)) := by
  simp only [Engine.startup, clock, issue, Program.eval_call_bind, alone, Option.bind_some, storeCall, commit, failed,
    Option.map_some, Program.eval_pure]

open Retention in
/-- Pruning deletes exactly the expired terminal runs with their rows and lets
startup go on, exactly when nothing references a row it deletes and no
interrupted run is past the retention. -/
theorem startup_prunes_exactly_iff {config : EngineConfig} {store : Store} {now : Time} {later : List Time} :
    (∃ result after, pruneRunHistory store now = .ok (result, after) ∧ Prunes store now after ∧
        (Engine.startup config).eval alone (now :: later, store) =
          (Engine.reconcile config).eval alone (later, after)) ↔
      now.isZero = false ∧ NoneInterrupted store now ∧
        ∀ row ∈ store.references, ¬ GoneTarget store now row.target := by
  rw [← prunes_iff]
  constructor
  · rintro ⟨result, after, done, prunes, _⟩
    exact ⟨result, after, done, prunes⟩
  · rintro ⟨result, after, done, prunes⟩
    exact ⟨result, after, done, prunes, startup_continues done⟩

def deploymentPlan : Plan :=
  { samplePlan with
    operations := [{ sampleOperation with operationType := "service.deploy", adapterID := "core.service-deployment" }]
    executorMode := .central
    executorID := none
    requests := { serviceDeployment := true } }

def deploymentStore : Store := Store.fresh ⟨[deploymentPlan], by decide⟩ 1 1

/-- A deployment is submitted, the process crashes before it starts, and the
queued run is cancelled. -/
def cancelledDeployment : List Deed :=
  [.spawn (.submit sampleSubmit)] ++ tell 0 [accepted, passed, passed, passed, .clock 10, accepted, accepted] ++
  [.crash, .spawn (.cancelAs "run")] ++ tell 1 [accepted, .clock 11, accepted]

def halfYearLater : Time := 11 + 181 * 24 * 60 * 60

/-- The recorded actor of the cancelled deployment stops every later startup. -/
theorem deployment_actor_blocks_startup :
    ∃ system, execute sampleConfig deploymentStore cancelledDeployment = some system ∧
      system.state.statusOf "run" = some .cancelled ∧
      Retention.pruneRunHistory system.state halfYearLater = .error constraintViolated ∧
      (Engine.startup sampleConfig).eval alone ([halfYearLater], system.state) =
        some (.error constraintViolated, ([], system.state)) := by
  have found : ((execute sampleConfig deploymentStore cancelledDeployment).any fun system =>
      decide (system.state.statusOf "run" = some .cancelled) &&
        match Retention.pruneRunHistory system.state halfYearLater with
        | .error failure => decide (failure = constraintViolated)
        | .ok _ => false) = true := by decide +kernel
  rw [Option.any_eq_true] at found
  obtain ⟨system, ran, found⟩ := found
  rw [Bool.and_eq_true, decide_eq_true_eq] at found
  cases failed : Retention.pruneRunHistory system.state halfYearLater with
  | ok pair => simp [failed] at found
  | error failure =>
    simp only [failed, checks] at found
    obtain ⟨cancelled, rfl⟩ := found
    exact ⟨system, ran, cancelled, failed, startup_stops failed⟩

end VskLabs

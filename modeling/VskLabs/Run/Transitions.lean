import VskLabs.Run.Agreement

/-! When a transition of a run is the compare-and-set its callers take it for.
The key it is recorded under holds the two statuses and the second of its time,
and a recorded key answers without looking at the run. -/

namespace VskLabs
open Library

def Store.statusOf (store : Store) (runID : String) : Option Status := (store.document runID).map Run.status

def transitionOf (record : Record) : Option RunTransitionRequest :=
  match record.event with
  | ⟨.mutate (.transitionRun request), .ok _⟩ => some request
  | _ => none

/-- The stored run was in the source status before the call and is in the target
status after it. -/
def Swaps (record : Record) (request : RunTransitionRequest) : Prop :=
  record.before.statusOf request.runID = some request.source ∧
    record.after.statusOf request.runID = some request.target

instance (record : Record) (request : RunTransitionRequest) : Decidable (Swaps record request) :=
  inferInstanceAs (Decidable (_ ∧ _))

def RunTransitionRequest.key (request : RunTransitionRequest) : IntentKey :=
  .runMutation request.runID (.transitioned request.source request.target request.time)

theorem transitionOf_eq_some {record : Record} {request : RunTransitionRequest}
    (answered : transitionOf record = some request) :
    ∃ result, record.event = ⟨.mutate (.transitionRun request), .ok result⟩ := by
  unfold transitionOf at answered
  split at answered
  next found _ result same =>
    cases answered
    exact ⟨result, same⟩
  next => cases answered

theorem validRunTransition_ne {source target : Status} (allowed : validRunTransition source target = true) :
    source ≠ target := by
  rintro rfl
  cases source <;> revert allowed <;> decide

theorem Store.fresh_agreed (plans : Table Plan.planID) (revision epoch : Int) : (Store.fresh plans revision epoch).Agreed := by
  intro row member
  cases member

theorem history_agreed {config : EngineConfig} {plans : Table Plan.planID} {revision epoch : Int} {deeds : List Deed}
    {system : System world} (ran : execute config (Store.fresh plans revision epoch) deeds = some system) :
    Store.Agreed system.state ∧ ∀ record ∈ system.history, Store.Agreed record.before ∧
      ∃ choice, respond record.event.call choice record.before = some (record.event.reply, record.after) :=
  System.run_answered Store.Agreed (fun _ _ _ _ _ agreed responded => respond_agreed responded agreed)
    (Store.fresh_agreed plans revision epoch) ran

/-- In every run, a transition answered without an error swapped the stored
status exactly when its key had not been recorded before. -/
theorem transition_swaps_iff_unrecorded {config : EngineConfig} {plans : Table Plan.planID} {revision epoch : Int}
    {deeds : List Deed} {system : System world}
    (ran : execute config (Store.fresh plans revision epoch) deeds = some system)
    {record : Record} (member : record ∈ system.history) {request : RunTransitionRequest}
    (answered : transitionOf record = some request) :
    Swaps record request ↔ ¬ record.before.Recorded request.key := by
  obtain ⟨agreed, choice, responded⟩ := (history_agreed ran).2 record member
  obtain ⟨thread, event, before, after⟩ := record
  obtain ⟨result, same⟩ := transitionOf_eq_some answered
  simp only at same
  subst same
  have done := respond_mutate_ok responded
  obtain ⟨allowed, effected⟩ := RunRepository.transitionRun_law done
  rcases effected.wrote agreed with ⟨recorded, _, kept⟩ | ⟨old, run, middle, _, stored, _, _, _, law, wrote⟩
  · -- a replay leaves the status, and no transition starts where it ends
    simp only at kept
    subst kept
    refine iff_of_false ?_ (not_not_intro recorded)
    rintro ⟨source, target⟩
    exact validRunTransition_ne allowed (Option.some.inj (source.symm.trans target))
  · obtain ⟨source, moved, _⟩ := RunRepository.transitionMutation_law law
    refine iff_of_true ⟨?_, ?_⟩ wrote.fresh
    · simp [Store.statusOf, stored, source]
    · simp [Store.statusOf, wrote.document, congrArg Run.status moved]

/-! One external plan with one idempotent operation, for runs on fixed inputs. -/

def zeros : String := "sha256:0000000000000000000000000000000000000000000000000000000000000000"

def sampleOperation : PlanOperation := ⟨1, "op", "service.check", "adapter", "worker", "target", zeros, zeros, true⟩

def samplePlan : Plan where
  planID := "plan"
  planDigest := zeros
  binding := ⟨1, 1, "1.0.0"⟩
  operations := [sampleOperation]
  status := .planned
  authorizationBranch := .preauthorized
  executorMode := .external
  executorID := some "worker"
  expiresAt := 1000
  requests := {}
  extensions := []

def sampleStore : Store := Store.fresh ⟨[samplePlan], by decide⟩ 1 1

def sampleConfig : EngineConfig where
  core := false
  retentionCore := false
  credentialCore := false
  credentialStep := false
  scheduled := false
  managedPlans := false
  deploymentAdmission := false
  runID := fun _ key => key
  stepID := fun runID _ => runID
  receiptID := fun leaseID => leaseID
  digest := fun _ => zeros

def sampleSubmit : SubmitRequest :=
  ⟨⟨"plan", zeros, 1, "run", []⟩, ⟨"decision", "human", "execute", "target", true, some .preauthorized, 1, 1, zeros⟩, none⟩

def accepted : Answer := .store .none
def passed : Answer := .check (.ok ())

def tell (thread : Nat) (answers : List Answer) : List Deed := answers.map (.answer thread ·)

def submitsExternal : List Deed :=
  [.spawn (.submit sampleSubmit)] ++
  tell 0 [accepted, passed, passed, passed, .clock 10, accepted, accepted, passed, accepted]

def cancelsExternal : List Deed :=
  submitsExternal ++ [.spawn (.cancelAs "run")] ++ tell 1 [accepted, .clock 10, accepted]

def twoResumes : List Deed :=
  cancelsExternal ++
  [.spawn (.resumeAs "run"), .spawn (.resumeAs "run")] ++
  tell 2 [accepted, accepted, passed, passed, .clock 10] ++ tell 3 [accepted, accepted, passed, passed, .clock 10] ++
  tell 2 [accepted] ++ tell 3 [accepted, accepted]

def resumption : RunTransitionRequest := { runID := "run", source := .interrupted, target := .running, time := 10 }

/-- The second resumption is told that it resumed a run that was running. -/
theorem second_resumption_swaps_nothing :
    ∃ system record, execute sampleConfig sampleStore twoResumes = some system ∧ record ∈ system.history ∧
      transitionOf record = some resumption ∧ record.before.statusOf "run" = some .running ∧
      ¬ Swaps record resumption := by
  have found : ((execute sampleConfig sampleStore twoResumes).any fun system => system.history.any fun record =>
      decide (transitionOf record = some resumption) && decide (record.before.statusOf "run" = some .running) &&
        !decide (Swaps record resumption)) = true := by decide +kernel
  simp only [finds, checks, decide_eq_false_iff_not] at found
  obtain ⟨system, ran, record, member, found⟩ := found
  exact ⟨system, record, ran, member, found.1.1, found.1.2, found.2⟩

/-- The first resumption does move the run, under a key not used before. -/
theorem first_resumption_swaps :
    ∃ system record, execute sampleConfig sampleStore twoResumes = some system ∧ record ∈ system.history ∧
      Swaps record resumption ∧ ¬ record.before.Recorded resumption.key := by
  have found : ((execute sampleConfig sampleStore twoResumes).any fun system => system.history.any fun record =>
      decide (transitionOf record = some resumption) && decide (Swaps record resumption)) = true := by decide +kernel
  simp only [finds, checks] at found
  obtain ⟨system, ran, record, member, found⟩ := found
  exact ⟨system, record, ran, member, found.2, (transition_swaps_iff_unrecorded ran member found.1).mp found.2⟩

end VskLabs

import VskLabs.Run.Lineage

/-! External plans and the central engine. A run of an external plan is begun by
claims alone as long as nobody resumes it: the step loop that resumption enters
does not ask for the executor mode. -/

namespace VskLabs
open Library RunRepository

def resumptionOf : Call → Option String
  | .mutate (.transitionRun request) =>
    if request.source = .interrupted ∧ request.target = .running then some request.runID else none
  | _ => none

def ExternalRun (plans : Table Plan.planID) (history : List Record) (runID : String) : Prop :=
  ∃ plan, plans.find? plan.planID = some plan ∧ plan.executorMode = .external ∧ Made history runID plan.planID

def Begins (record : Record) (runID stepID : String) : Prop :=
  ∃ old new : Stage, Store.stage record.before runID stepID = some old ∧ Store.stage record.after runID stepID = some new ∧
    old.1 ≠ .running ∧ new.1 = .running

theorem Move.begins {runID stepID : String} {query : Call} {old new : Stage} (move : Move runID stepID query old new)
    (waiting : old.1 ≠ .running) (running : new.1 = .running) :
    (∃ request, query = .mutate (.beginStep request) ∧ request.runID = runID) ∨ ∃ request, query = .claimLease request := by
  cases move with
  | begun request ofRun ofStep => exact .inl ⟨request, rfl, ofRun⟩
  | claimed request ofRun ofStep => exact .inr ⟨request, rfl⟩
  | received | reported | doubted | failed | interrupted => exact absurd rfl waiting
  | finished request ofRun ofStep result => exact absurd rfl waiting
  | requeued => cases running
  | closed request ofRun status effect closing =>
    cases running
    simp at closing

section

variable {resumes : Bool} {plans : Table Plan.planID} {revision epoch : Int} {history newer older : List Record}
  {final : Store}

theorem Chronicle.entitled (chronicle : Chronicle resumes (Store.fresh plans revision epoch) history final)
    (unique : Along collisionFree history)
    (unresumed : ∀ record ∈ history, ∀ runID, resumptionOf record.event.call = some runID → ¬ ExternalRun plans history runID)
    {record : Record} (split : history = newer ++ record :: older) {runID : String}
    (entitled : Entitled (eventsOf record.thread older) runID) : ¬ ExternalRun plans history runID := by
  have inside : older ⊆ history := by
    rw [split]
    exact fun old member => List.mem_append_right _ (.tail _ member)
  have before : Chronicle resumes (Store.fresh plans revision epoch) older record.before := by
    rw [split] at chronicle
    exact chronicle.split.2
  rcases entitled with ⟨plan, run, read, central, saw, rfl, planID⟩ | ⟨request, done, rfl, source, target⟩
  · rintro ⟨other, found, external, made⟩
    have own := (before.saw_made saw).grow inside
    have same := chronicle.made_unique unique own made
    rw [← same, planID, before.read_plan read] at found
    cases found
    rw [central] at external
    cases external
  · obtain ⟨result, event⟩ := done
    obtain ⟨resumption, member, _, same⟩ := mem_eventsOf event
    apply unresumed resumption (inside member)
    rw [same]
    simp [resumptionOf, source, target]

end

/-- In every run in which no run of an external plan is resumed, the engine
calls no `Execute` for such a run, and its steps begin by claims. -/
theorem external_runs_begin_by_claim {config : EngineConfig} {plans : Table Plan.planID} {revision epoch : Int}
    {deeds : List Deed} {system : System world}
    (ran : execute config (Store.fresh plans revision epoch) deeds = some system)
    (unique : Along collisionFree system.history)
    (unresumed : ∀ record ∈ system.history, ∀ runID, resumptionOf record.event.call = some runID →
      ¬ ExternalRun plans system.history runID) {record : Record} (member : record ∈ system.history) {runID : String}
    (external : ExternalRun plans system.history runID) :
    (∀ binding, record.event.call = .execute binding → binding.runID ≠ runID) ∧
      ∀ stepID, Begins record runID stepID → ∃ request, record.event.call = .claimLease request := by
  have chronicle := Chronicle.of_execute ran
  obtain ⟨newer, older, split⟩ := List.append_of_mem member
  have took : Took true older record := by
    rw [split] at chronicle
    exact chronicle.split.1
  have permitted := took.permitted
  refine ⟨?_, ?_⟩
  · rintro binding asked rfl
    rw [asked] at permitted
    exact chronicle.entitled unique unresumed split permitted.2 external
  · rintro stepID ⟨old, new, before, after, waiting, running⟩
    cases took.documents.stage runID stepID with
    | kept same =>
      rw [same, before] at after
      cases after
      exact absurd running waiting
    | moved first second found later move =>
      rw [before] at found
      rw [after] at later
      cases found
      cases later
      rcases move.begins waiting running with ⟨request, asked, rfl⟩ | claimed
      · rw [asked] at permitted
        exact absurd external (chronicle.entitled unique unresumed split permitted.2)
      · exact claimed
    | created request asked law named absent present => simp [Store.stage, absent] at before
    | pruned now asked gone => simp [Store.stage, gone] at after

/-! ### Runs on fixed inputs -/

def drawnLease (record : Record) : Option String :=
  match record.event with
  | ⟨.drawLease _, .ok (leaseID, _)⟩ => some leaseID
  | _ => none

def submission (record : Record) : Option (String × String) :=
  match record.event.call with
  | .createRun request => some (request.run.runID, request.submitKey)
  | _ => none

def clashes (record old : Record) : Bool :=
  (drawnLease record).any (fun leaseID => drawnLease old == some leaseID) ||
    (submission record).any fun mine => (submission old).any fun other => other.1 == mine.1 && other.2 != mine.2

def clashFree : List Record → Bool
  | [] => true
  | last :: earlier => earlier.all (fun old => !clashes last old) && clashFree earlier

theorem collisionFree_of_clashes {earlier : List Record} {record : Record}
    (apart : ∀ old ∈ earlier, clashes record old = false) : collisionFree earlier record := by
  unfold collisionFree
  split
  next step leaseID nonce same =>
    intro old member other digest clash
    have free := apart old member
    simp [clashes, drawnLease, same, clash] at free
  next request reply same =>
    intro old member other asked named
    have free := apart old member
    simp only [clashes, submission, same, asked, named, Option.any_some, beq_self_eq_true, Bool.true_and,
      Bool.or_eq_false_iff, bne_eq_false_iff_eq] at free
    exact free.2
  next => trivial

theorem along_of_clashFree {history : List Record} (free : clashFree history = true) : Along collisionFree history := by
  induction history with
  | nil => trivial
  | cons last earlier ih =>
    simp only [clashFree, checks] at free
    exact ⟨collisionFree_of_clashes free.1, ih free.2⟩

/-- It is cancelled before any claim and resumed, up to the call of `Execute`. -/
def resumesExternal : List Deed :=
  cancelsExternal ++ [.spawn (.resumeAs "run")] ++
  tell 2 [accepted, accepted, passed, passed, .clock 11, accepted, accepted, .flag false,
    .adapter (.ok ⟨false, false, false⟩), .clock 11, .lease (.ok ("lease", zeros)), accepted, accepted, .clock 11, .done]

theorem stored_external {deeds : List Deed} {system : System world}
    (ran : execute sampleConfig sampleStore deeds = some system)
    (stored : ∃ run, system.state.document "run" = some run ∧ run.planID = samplePlan.planID) :
    ExternalRun ⟨[samplePlan], by decide⟩ system.history "run" := by
  obtain ⟨run, found, same⟩ := stored
  have made := (Chronicle.of_execute ran).stored_made found
  exact ⟨samplePlan, by decide, rfl, same ▸ made⟩

def executes (runID : String) (record : Record) : Bool :=
  match record.event.call with
  | .execute binding => binding.runID == runID
  | _ => false

/-- A resumed run of the external plan: the engine calls `Execute` for it. -/
theorem resumed_external_run_executes :
    ∃ system record binding, execute sampleConfig sampleStore resumesExternal = some system ∧
      Along collisionFree system.history ∧ record ∈ system.history ∧
      ExternalRun ⟨[samplePlan], by decide⟩ system.history "run" ∧ record.event.call = .execute binding ∧
      binding.runID = "run" := by
  have found : ((execute sampleConfig sampleStore resumesExternal).any fun system => clashFree system.history &&
      (system.state.document "run").any (fun run => run.planID == samplePlan.planID) &&
      system.history.any (executes "run")) = true := by decide +kernel
  simp only [finds, checks] at found
  obtain ⟨system, ran, ⟨free, stored⟩, record, member, called⟩ := found
  unfold executes at called
  split at called
  next binding asked =>
    exact ⟨system, record, binding, ran, along_of_clashFree free, member, stored_external ran stored, asked,
      beq_iff_eq.mp called⟩
  next => cases called

/-- The submitted run waits for a claim. -/
theorem submitted_external_run_waits :
    ∃ system, execute sampleConfig sampleStore submitsExternal = some system ∧
      ExternalRun ⟨[samplePlan], by decide⟩ system.history "run" ∧
      ∀ record ∈ system.history, ∀ binding, record.event.call = .execute binding → binding.runID ≠ "run" := by
  have found : ((execute sampleConfig sampleStore submitsExternal).any fun system => clashFree system.history &&
      (system.state.document "run").any (fun run => run.planID == samplePlan.planID) &&
      system.history.all fun record => resumptionOf record.event.call == none) = true := by decide +kernel
  simp only [finds, checks] at found
  obtain ⟨system, ran, found⟩ := found
  have external := stored_external ran found.1.2
  refine ⟨system, ran, external, fun record member => ?_⟩
  refine (external_runs_begin_by_claim ran (along_of_clashFree found.1.1) ?_ member external).1
  intro other inside runID resumed
  rw [found.2 other inside] at resumed
  cases resumed

end VskLabs

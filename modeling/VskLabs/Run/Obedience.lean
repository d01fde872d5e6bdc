import VskLabs.Run.Discipline

/-! Every program of the system keeps the discipline. -/

namespace VskLabs
open Library Program

/-- A job that issues permitted calls only and leaves its thread with a past of
which `post` holds. -/
abbrev Obedient {α : Type} (resumes : Bool) (job : Job α) (past : Past) (post : α → Past → Prop) : Prop :=
  job.Obeys credible (Permitted resumes) post past

abbrev whatever {α : Type} : α → Past → Prop := fun _ _ => True

theorem obedient_getRun {resumes : Bool} {past : Past} {runID : String} {post : Except Failure Run → Past → Prop} :
    @Obedient (Except Failure Run) resumes (call (Call.getRun runID)) past post ↔
      ∀ read, credible (.getRun runID) read → post read (⟨.getRun runID, read⟩ :: past) :=
  and_iff_right trivial

-- with these rules simp walks through the calls of a job
attribute [local simp] issue clock getRun mutateRun transitionRun obedient_getRun Permitted credible justified_iff
  phase_cons touch forall_except Option.forall

variable {later : Past}

section Basics

variable {α β : Type} {resumes : Bool} {past : Past} {job : Job α} {post : β → Past → Prop}

theorem Obedient.call {query : Call} {next : Reply query → Job β}
    (permitted : Permitted resumes past query)
    (rest : ∀ reply, credible query reply → Obedient resumes (next reply) (⟨query, reply⟩ :: past) post) :
    Obedient resumes (issue query >>= next) past post := ⟨permitted, rest⟩

theorem Obedient.then {next : α → Job β} {mid : α → Past → Prop}
    (first : Obedient resumes job past mid)
    (second : ∀ value later, mid value later → past ⊆ later → Obedient resumes (next value) later post) :
    Obedient resumes (job >>= next) past post :=
  Obeys.bind (Obeys.grows first) fun value later holds => second value later holds.1 holds.2

theorem obedient_of_neutral (issues : job.Issues neutral) :
    Obedient resumes job past fun _ later => Extends past later :=
  issues.obeys fun past _ free => free.permitted resumes past

theorem Obedient.quietly {next : α → Job β} (issues : job.Issues neutral)
    (second : ∀ value later, Extends past later → Obedient resumes (next value) later post) :
    Obedient resumes (job >>= next) past post :=
  Obeys.bind (obedient_of_neutral issues) second

theorem clock_neutral : clock.Issues neutral := ⟨trivial, fun _ => trivial⟩

/-- What a mutation tells its caller: it was answered without an error, and the
document is one of its run. -/
structure Told (past later : Past) (mutation : Mutation) (run : Run) : Prop where
  saw : Saw later run
  runID : run.runID = mutation.runID
  done : ∃ result, Extends (⟨.mutate mutation, .ok result⟩ :: past) later

variable {mutation : Mutation} {run : Run}

theorem Told.finished (told : Told past later mutation run) : Done later mutation := by
  obtain ⟨result, longer⟩ := told.done
  exact ⟨result, longer.subset (.head _)⟩

theorem Told.inside (told : Told past later mutation run) : past ⊆ later := by
  obtain ⟨result, longer⟩ := told.done
  exact fun event member => longer.subset (.tail _ member)

theorem Obedient.mutate {next : Except Failure Run → Job β} (permitted : Permitted resumes past (.mutate mutation))
    (failed : ∀ failure later, Obedient resumes (next (.error failure)) later post)
    (rest : ∀ run later, Told past later mutation run → Obedient resumes (next (.ok run)) later post) :
    Obedient resumes (mutateRun mutation >>= next) past post := by
  simp [permitted, failed, -Permitted]
  refine ⟨⟨trivial, ?_⟩, ?_⟩
  · intro run same
    -- the replayed document is read back
    exact rest run _ ⟨⟨_, .head _, .head _⟩, same, none, .cons trivial⟩
  · intro run same
    exact rest run _ ⟨⟨_, .head _, .head _⟩, same, some run, .refl _⟩

end Basics

namespace Engine

variable {config : EngineConfig} {resumes : Bool} {past : Past}

theorem validateScheduled_neutral (plan : Plan) : (validateScheduled config plan).Issues neutral := by
  rcases shape : plan.operations with _ | ⟨operation, _ | _⟩ <;>
    simp [validateScheduled, shape, neutral]

theorem resolveImplementation_neutral (plan : Plan) (operation : Operation) :
    (resolveImplementation config plan operation).Issues neutral := by
  simp [resolveImplementation, neutral]

theorem expired_neutral (attempt : Attempt) : attempt.expired.Issues neutral := ⟨trivial, fun _ => trivial⟩

variable {runID : String} {current : Run} {step : RunStep} {binding : ExecutionBinding} {plan : Plan}
  {attempt : Attempt} {effect : Effect}

theorem interruptBeforeEffect_obedient
    (attempt : phase current.runID step.stepID past = .held ∨ phase current.runID step.stepID past = .returned false) :
    Obedient resumes (interruptBeforeEffect current step) past whatever := by
  simp [interruptBeforeEffect, settle, releaseRunLeases, interruptRun, attempt]

theorem failBeforeEffect_obedient (current : Run) (step : RunStep) (cause : Failure) :
    Obedient resumes (failBeforeEffect current step cause) past whatever := by
  simp [failBeforeEffect, settle, releaseRunLeases, failRun]

theorem partialRun_obedient (current : Run) (step : RunStep) :
    Obedient resumes (partialRun current step) past whatever := by
  simp [partialRun, settle, releaseRunLeases, leavePartial]
  intro now
  constructor
  · exact fun _ _ _ _ _ => .inr (.inl ⟨step.stepID, now, none, by simp⟩)
  · exact fun run _ _ _ _ => .inr (.inl ⟨step.stepID, now, some run, by simp⟩)

abbrev Back (runID stepID : String) (outcome : Effect × Option Failure) (later : Past) : Prop :=
  phase runID stepID later = .held ∨ phase runID stepID later = .returned outcome.1.effectObserved

theorem perform_obedient (held : phase binding.runID binding.stepID past = .held)
    (entitled : Entitled past binding.runID) :
    Obedient resumes (perform binding) past (Back binding.runID binding.stepID) := by
  simp [perform, observed, held, entitled, Back]

variable {handle : AdapterHandle}

theorem invokeCredentialEffect_obedient
    (held : phase binding.runID binding.stepID past = .held) (entitled : Entitled past binding.runID) :
    Obedient resumes (invokeCredentialEffect handle binding) past (Back binding.runID binding.stepID) := by
  simp [invokeCredentialEffect, observed, held, entitled, Back]

theorem executeSecretStep_obedient {lease : ExecutorLease} {operation : Operation}
    (held : phase binding.runID binding.stepID past = .held)
    (entitled : Entitled past binding.runID) :
    Obedient resumes (executeSecretStep config plan step lease operation handle binding) past
      (Back binding.runID binding.stepID) := by
  unfold executeSecretStep
  split
  · exact .inl held
  split
  · exact .inl held
  simp [held, Back]
  intro _ _ _ _
  constructor
  · exact perform_obedient held (entitled.grow (by simp))
  · exact fun _ _ => invokeCredentialEffect_obedient held (entitled.grow fun _ member => by simp [member])

theorem invokeEffect_obedient {intentStep : RunStep}
    (held : phase attempt.lease.runID attempt.lease.stepID past = .held) (entitled : Entitled past attempt.lease.runID) :
    Obedient resumes (invokeEffect config attempt intentStep) past (Back attempt.lease.runID attempt.lease.stepID) := by
  unfold invokeEffect
  split
  · split
    · exact executeSecretStep_obedient held entitled
    · exact perform_obedient held entitled
  · exact perform_obedient held entitled

theorem closeStep_obedient (ambiguity : effect.status = .partialOutcome → PartialSeen past current.runID) :
    Obedient resumes (closeStep attempt effect current) past fun progress _ =>
      ∀ next, progress = .inr next → next = current ∧ effect.status ≠ .failed ∧ effect.status ≠ .partialOutcome := by
  simp [closeStep, failRun, leavePartial]
  intro _ _ passed
  exact ⟨fun ambiguous _ => (ambiguity ambiguous).grow fun _ member => by simp [member], fun clear => ⟨passed, clear⟩⟩

@[local simp] abbrev Advanced (runID stepID : String) (progress : Progress) (later : Past) : Prop :=
  ∀ next, progress = .inr next → next.runID = runID ∧ StepDone later runID stepID

theorem stopped {stepID : String} {job : Job Outcome} (obedient : Obedient resumes job past whatever) :
    Obedient resumes (do return .inl (← job)) past (Advanced runID stepID) :=
  obedient.then fun _ _ _ _ next impossible => by cases impossible

theorem validEffect_succeeded (valid : validEffect effect = true) (passed : effect.status ≠ .failed)
    (clear : effect.status ≠ .partialOutcome) : effect.status = .succeeded := by
  simp only [validEffect, checks, List.contains_eq_mem, List.mem_cons, List.not_mem_nil, or_false] at valid
  rcases valid with ⟨⟨⟨succeeded | failed | ambiguous, _⟩, _⟩, _⟩
  · exact succeeded
  · exact absurd failed passed
  · exact absurd ambiguous clear

theorem recordAndVerify_obedient (entitled : Entitled past current.runID) (valid : validEffect effect = true) :
    Obedient resumes (recordAndVerify config attempt effect current) past
      (Advanced current.runID attempt.live.stepID) := by
  refine Obedient.quietly clock_neutral fun recorded later longer => ?_
  have here := entitled.grow longer.subset
  refine Obedient.mutate (by exact here) (by simp) fun stored after told => ?_
  have same : stored.runID = current.runID := told.runID
  refine Obedient.call trivial fun verification _ => Obedient.quietly (expired_neutral attempt) fun expired last still => ?_
  split
  · exact stopped (partialRun_obedient _ _)
  split
  · exact stopped (partialRun_obedient _ _)
  refine Obedient.quietly clock_neutral fun now ending quiet => ?_
  have may : Entitled ending stored.runID := by
    rw [same]
    refine here.grow fun event member => quiet.subset (still.subset ?_)
    exact .tail _ (told.inside member)
  refine Obedient.mutate (by exact .inl may) (by simp) fun finished final told => ?_
  have named : finished.runID = stored.runID := told.runID
  refine (closeStep_obedient fun ambiguous => .inr (.inr ⟨_, told.finished, named.symm, ambiguous⟩)).grows.weaken ?_
  rintro progress past ⟨closed, longer⟩ next rfl
  obtain ⟨rfl, passed, clear⟩ := closed next rfl
  refine ⟨named.trans same, .inr (.inl ⟨_, told.finished.grow longer, same, rfl, ?_⟩)⟩
  exact validEffect_succeeded valid passed clear

theorem runEffect_obedient
    (held : phase attempt.lease.runID attempt.lease.stepID past = .held) (entitled : Entitled past current.runID)
    (same : attempt.lease.runID = current.runID) (step : attempt.lease.stepID = attempt.live.stepID) :
    Obedient resumes (runEffect config attempt current) past (Advanced current.runID attempt.live.stepID) := by
  rw [← same] at entitled
  refine Obedient.quietly (expired_neutral attempt) fun late after still => ?_
  split
  · rw [← still.phase, same, step] at held
    exact stopped (interruptBeforeEffect_obedient (.inl held))
  split
  · simp
  refine Obedient.quietly (validateScheduled_neutral _) fun scheduled later quiet => ?_
  have calm := still.trans quiet
  cases scheduled with
  | error failure => exact stopped (failBeforeEffect_obedient _ _ _)
  | ok _ =>
    rw [← calm.phase] at held
    have may := entitled.grow calm.subset
    refine (invokeEffect_obedient held may).then fun outcome returned back grown => ?_
    refine Obedient.quietly (expired_neutral attempt) fun expired last silent => ?_
    -- without an observed effect the attempt may still be given up
    have unseen (nothing : ¬outcome.1.effectObserved = true) :
        phase current.runID attempt.live.stepID last = .held ∨
          phase current.runID attempt.live.stepID last = .returned false := by
      rw [silent.phase, ← same, ← step]
      simpa [Back, nothing] using back
    split
    · split
      · exact stopped (partialRun_obedient _ _)
      next nothing => exact stopped (interruptBeforeEffect_obedient (unseen nothing))
    split
    · split
      · exact stopped (partialRun_obedient _ _)
      next nothing =>
        split
        · exact stopped (interruptBeforeEffect_obedient (unseen nothing))
        · exact stopped (failBeforeEffect_obedient _ _ _)
    next clean =>
      simp only [checks, Bool.not_eq_true, not_or, Bool.not_eq_eq_eq_not, Bool.not_true, Bool.not_eq_false] at clean
      refine recordAndVerify_obedient ?_ clean.2
      rw [← same]
      exact may.grow fun event member => silent.subset (grown member)

theorem executeStep_obedient {live : RunStep} (entitled : Entitled past current.runID) :
    Obedient resumes (executeStep config plan current live) past (Advanced current.runID live.stepID) := by
  unfold executeStep
  split
  · simp
  refine Obedient.quietly (resolveImplementation_neutral _ _) fun resolved later quiet => ?_
  cases resolved with
  | error failure => simp [failRun]
  | ok implementation =>
    have may := entitled.grow quiet.subset
    refine Obedient.quietly clock_neutral fun claimed after still => ?_
    refine Obedient.call trivial fun drawn _ => ?_
    cases drawn with
    | error failure => simp [interruptRun]
    | ok drawn =>
      have may : Entitled (⟨.drawLease live, .ok drawn⟩ :: after) current.runID :=
        may.grow fun _ member => by simp [still.subset member]
      refine Obedient.call (by exact may) fun acquired _ => ?_
      cases acquired with
      | error failure => simp [interruptRun]
      | ok _ =>
        refine Obedient.mutate ⟨rfl, may.grow (by simp)⟩ (by simp) fun begun last told => ?_
        have named : begun.runID = current.runID := told.runID
        have held : phase current.runID live.stepID last = .held := by
          obtain ⟨result, extended⟩ := told.done
          rw [extended.phase]
          simp
        rw [← named] at may ⊢
        exact runEffect_obedient held (may.grow fun _ member => told.inside (by simp [member])) named.symm rfl

def Covered (past : Past) (runID : String) (remaining : List RunStep) : Prop :=
  ∃ run, Saw past run ∧ run.runID = runID ∧
    ∀ step ∈ run.steps, step ∈ remaining ∨ StepDone past runID step.stepID

theorem Covered.all {run : Run} (saw : Saw past run) (same : run.runID = runID) :
    Covered past runID run.steps := ⟨run, saw, same, fun _ member => .inl member⟩

variable {remaining : List RunStep}

theorem Covered.grow (inside : past ⊆ later)
    (covered : Covered past runID remaining) : Covered later runID remaining := by
  obtain ⟨run, saw, same, each⟩ := covered
  exact ⟨run, saw.grow inside, same, fun step member => (each step member).imp_right (StepDone.grow inside)⟩

theorem Covered.next {rest : List RunStep} (covered : Covered past runID (step :: rest))
    (done : StepDone past runID step.stepID) : Covered past runID rest := by
  obtain ⟨run, saw, same, each⟩ := covered
  refine ⟨run, saw, same, fun other member => ?_⟩
  rcases each other member with inside | finished
  · rcases List.mem_cons.mp inside with rfl | later
    · exact .inr done
    · exact .inl later
  · exact .inr finished

theorem Covered.finished (covered : Covered past runID []) : AllDone past runID := by
  obtain ⟨run, saw, same, each⟩ := covered
  exact ⟨run, saw, same, fun step member => (each step member).resolve_left List.not_mem_nil⟩

theorem stepLoop_obedient {stale : Run} (entitled : Entitled past stale.runID)
    (covered : Covered past stale.runID remaining) :
    Obedient resumes (stepLoop config plan remaining stale) past whatever := by
  induction remaining generalizing past stale with
  | nil =>
    simp [stepLoop]
    exact fun now => (covered.grow (by simp)).finished
  | cons step rest ih =>
    refine Obedient.call trivial fun read believed => ?_
    cases read with
    | error failure => trivial
    | ok current =>
      have same : current.runID = stale.runID := believed
      refine Obedient.quietly ⟨trivial, fun _ => trivial⟩ fun cancelled later quiet => ?_
      have grown : past ⊆ later := fun event member => quiet.subset (.tail _ member)
      have saw : Saw later current :=
        ⟨_, quiet.subset (.head _), .head _⟩
      rw [← same] at entitled covered
      have may := entitled.grow grown
      have still := covered.grow grown
      split
      · simp [interruptRun, releaseRunLeases]
      split
      · simp [interruptRun]
      split
      next absent => exact ih may (still.next (.inr (.inr ⟨current, saw, rfl, absent⟩)))
      next live found =>
        split
        next succeeded =>
          exact ih may (still.next (.inl ⟨current, live, saw, rfl, found, by simpa using succeeded⟩))
        next =>
          split
          · trivial
          · refine (executeStep_obedient may).then fun progress last advanced longer => ?_
            cases progress with
            | inl outcome => trivial
            | inr next =>
              obtain ⟨named, done⟩ := advanced next rfl
              rw [findStep_stepID found] at done
              rw [← named] at may still done
              exact ih (may.grow longer) ((still.grow longer).next done)

theorem start_obedient (saw : Saw past current)
    (entitled : current.status ≠ .interrupted → Entitled past current.runID)
    (resumption : current.status = .interrupted → resumes = true) :
    Obedient resumes (start config plan current) past whatever := by
  refine Obedient.quietly clock_neutral fun now later quiet => ?_
  split
  next queued =>
    have may := (entitled (by simp_all)).grow quiet.subset
    refine Obedient.call trivial fun read believed => ?_
    cases read with
    | error failure => trivial
    | ok fresh =>
      have same : fresh.runID = current.runID := believed
      dsimp only
      split
      · trivial
      split
      · simp
      refine Obedient.mutate (by simp) (by simp) fun run last told => ?_
      have named : run.runID = fresh.runID := told.runID
      refine stepLoop_obedient ?_ (.all told.saw rfl)
      rw [named, same]
      exact may.grow fun event member => told.inside (by simp [member])
  next other =>
    split
    next interrupted =>
      have allowed := resumption (by simpa using interrupted)
      refine Obedient.mutate (by simp [allowed]) (by simp) fun run last told => ?_
      have named : run.runID = current.runID := told.runID
      exact stepLoop_obedient (.inr ⟨_, told.finished, named.symm, rfl, rfl⟩) (.all told.saw rfl)
    next different =>
      exact stepLoop_obedient ((entitled (by simpa using different)).grow quiet.subset)
        (.all (saw.grow quiet.subset) rfl)

end Engine

end VskLabs

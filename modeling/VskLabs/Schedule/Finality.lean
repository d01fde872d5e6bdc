import VskLabs.Schedule.Effects

/-! When a settled occurrence stays settled. Transitions leave a final status
alone; a claim does not look at the status of the occurrence it finds. -/

namespace VskLabs.Schedule
open Library

def JobStatus.final (status : JobStatus) : Bool :=
  [JobStatus.succeeded, .failed, .uncertain, .cancelled, .skipped, .blocked].contains status

theorem validTransition_not_final {source target : JobStatus} (allowed : validTransition source target = true) :
    source.final = false := by
  cases source <;> first | rfl | (cases target <;> revert allowed <;> decide)

theorem statusOf_append (journal : Journal) (row : TransitionRow) (jobID : String) :
    Journal.statusOf { journal with transitions := journal.transitions ++ [row] } jobID =
      if row.jobID = jobID then some row.target else journal.statusOf jobID := by
  by_cases same : row.jobID = jobID
  · simp [Journal.statusOf, Journal.lastTransition, same]
  · simp [Journal.statusOf, Journal.lastTransition, same]

def Moves (journal : Journal) (jobID : String) (status : JobStatus) (after : Journal) : Prop :=
  ∀ other, after.statusOf other = if jobID = other then some status else journal.statusOf other

variable {config : ScheduleConfig}

def Claims (record : Record config) (jobID : String) : Prop :=
  ∃ claim, record.event.call = .claimOccurrence claim ∧ config.claimedJob claim = jobID ∧
    record.after.transitions ≠ record.before.transitions

def KeepsFinal (before after : Journal) : Prop :=
  ∀ jobID status, status.final = true → before.statusOf jobID = some status → after.statusOf jobID = some status

theorem KeepsFinal.trans {first second third : Journal} (early : KeepsFinal first second) (late : KeepsFinal second third) :
    KeepsFinal first third :=
  fun jobID status final held => late jobID status final (early jobID status final held)

theorem Claims.moves {record : Record config} {jobID : String} {answer : Answer} (claims : Claims record jobID)
    (answered : respond config record.event.call answer record.before = some (record.event.reply, record.after)) :
    Moves record.before jobID .queued record.after := by
  obtain ⟨claim, called, rfl, changed⟩ := claims
  obtain ⟨thread, ⟨query, reply⟩, before, after⟩ := record
  dsimp only at answered
  cases respond_effect answered with
  | claimed other now occurrences again =>
    cases called.symm.trans again
    exact fun wanted => statusOf_append before _ wanted
  | moved _ _ again => cases called.symm.trans again
  | _ => exact absurd rfl changed

theorem respond_keepsFinal {record : Record config} {answer : Answer}
    (answered : respond config record.event.call answer record.before = some (record.event.reply, record.after))
    (queued : ∀ jobID status, Claims record jobID → record.before.statusOf jobID = some status → status = .queued) :
    KeepsFinal record.before record.after := by
  intro jobID status final held
  obtain ⟨thread, ⟨query, reply⟩, before, after⟩ := record
  dsimp only at answered
  cases respond_effect answered with
  | claimed claim now occurrences called =>
    by_cases mine : config.claimedJob claim = jobID
    · -- a claimed job that has a status is queued, and queued is not final
      rw [queued jobID status ⟨claim, called, mine, by simp⟩ held] at final
      cases final
    · exact (statusOf_append before _ jobID).trans ((if_neg mine).trans held)
  | moved request now called valid source =>
    by_cases mine : request.jobID = jobID
    · subst mine
      cases source.symm.trans held
      rw [validTransition_not_final valid] at final
      cases final
    · exact (statusOf_append before _ jobID).trans ((if_neg mine).trans held)
  | _ => exact held

/-- Once an occurrence is final it stays as it is, and claiming a claimed one
leaves its status. -/
structure Settled (system : System (world config)) : Prop where
  final : ∀ newer record older, system.history = newer ++ record :: older →
    KeepsFinal record.before system.state ∧ ∀ later ∈ newer, KeepsFinal record.before later.after
  claims : ∀ record ∈ system.history, ∀ jobID status, Claims record jobID →
    record.before.statusOf jobID = some status → record.after.statusOf jobID = some status

/-- In every run, final occurrences stay final and claims keep the status they
find exactly when every committed claim of a claimed job found it queued. -/
theorem occurrences_settled_iff_claimed_queued {activations : Table ActivationRow.key} {revision : Revision}
    {deeds : List (Deed config)} {system : System (world config)}
    (ran : execute config (Journal.fresh activations revision) deeds = some system) :
    Settled system ↔ ∀ record ∈ system.history, ∀ jobID status, Claims record jobID →
      record.before.statusOf jobID = some status → status = .queued := by
  have answered := (System.run_answered (fun _ => True) (fun _ _ _ _ _ _ _ => trivial) trivial ran).2
  constructor
  · intro settled record member jobID status claims held
    obtain ⟨_, choice, responded⟩ := answered record member
    have kept := settled.claims record member jobID status claims held
    rw [claims.moves responded jobID, if_pos rfl] at kept
    exact (Option.some.inj kept).symm
  · intro queued
    have each : ∀ record ∈ system.history, KeepsFinal record.before record.after := by
      intro record member
      obtain ⟨_, choice, responded⟩ := answered record member
      exact respond_keepsFinal responded (queued record member)
    refine ⟨fun newer record older split => ?_, fun record member jobID status claims held => ?_⟩
    · obtain ⟨last, between⟩ := (System.Linked.of_boot ran).onward KeepsFinal (fun _ _ _ _ held => held) KeepsFinal.trans each split
      have first := each record (by simp [split])
      exact ⟨first.trans last, fun later member => (first.trans (between later member)).trans (each later (by simp [split, member]))⟩
    · obtain ⟨_, choice, responded⟩ := answered record member
      rw [claims.moves responded jobID, if_pos rfl, queued record member jobID status claims held]

/-! One policy with hourly slots, for runs on fixed inputs. -/

def samplePolicy : ScheduledJobPolicy where
  policyID := "policy"
  revision := 1
  actionKind := .gateCheck
  operationType := "schedule.gate.check"
  adapterID := "core.schedule-observe"
  exactSourceIDs := ["source"]
  exactSubjectIDs := ["subject"]
  exactTargetIDs := ["target"]
  maximumWork := 1
  credentialReferenceIDs := []
  grantRevision := 1
  stateRevision := 1
  recoveryEpoch := 1
  retentionRuleDigest := "sha256:0000000000000000000000000000000000000000000000000000000000000000"
  anchorAt := some 3600
  intervalSeconds := 3600
  windowSeconds := 1800
  catchUp := .none
  maxAttempts := 3
  initialBackoffSeconds := 60
  maximumBackoffSeconds := 600
  expiresAt := some 1000000
  enabled := true

def sampleJournal : Journal := Journal.fresh ⟨[⟨samplePolicy, "human"⟩], by decide⟩ ⟨1, 1⟩

def sampleConfig : ScheduleConfig where
  jobID := fun policyID _ _ => policyID
  targetDigest := fun _ => "targets"
  policyDigest := fun _ => "policy"
  occurrenceDigest := fun _ => "occurrence"
  runID := fun planID _ => planID
  principalID := "runner"

def wakeup (token : String) (now : Time) : DispatchRequest :=
  ⟨"policy", token, "targets", token, 1, 1, 1, ofSecond now⟩

def tell (thread : Nat) (answers : List Answer) : List (Deed sampleConfig) := answers.map (.answer thread ·)

def accepted (now : Time) : Answer := .journal .none (ofSecond now)

def undisturbed (now : Time) : List Answer :=
  [.clock (ofSecond now), accepted now, accepted now, accepted now, accepted now]

def wakeupAfterCancel : List (Deed sampleConfig) :=
  [.spawn (.dispatch (wakeup "first" 3700))] ++ tell 0 (undisturbed 3700) ++
  [.spawn (.cancel "policy")] ++ tell 1 [accepted 3710, accepted 3710, accepted 3710] ++
  [.spawn (.dispatch (wakeup "second" 3720))] ++ tell 2 (undisturbed 3720)

/-- The second wakeup reopens the cancelled occurrence. -/
theorem second_wakeup_reopens_cancelled :
    ∃ system, execute sampleConfig sampleJournal wakeupAfterCancel = some system ∧
      (∃ record ∈ system.history, record.before.statusOf "policy" = some .cancelled) ∧
      system.state.statusOf "policy" = some .queued ∧ ¬ Settled system := by
  have found : ((execute sampleConfig sampleJournal wakeupAfterCancel).any fun system =>
      (system.history.any fun record => decide (record.before.statusOf "policy" = some .cancelled)) &&
        decide (system.state.statusOf "policy" = some .queued)) = true := by decide +kernel
  simp only [finds, checks] at found
  obtain ⟨system, ran, ⟨record, member, cancelled⟩, queued⟩ := found
  refine ⟨system, ran, ⟨record, member, cancelled⟩, queued, fun settled => ?_⟩
  obtain ⟨newer, older, split⟩ := List.append_of_mem member
  have kept := (settled.final newer record older split).1 "policy" .cancelled rfl cancelled
  rw [queued] at kept
  cases kept

def twoWakeups : List (Deed sampleConfig) :=
  [.spawn (.dispatch (wakeup "first" 3700))] ++ tell 0 (undisturbed 3700) ++
  [.spawn (.dispatch (wakeup "second" 3720))] ++ tell 1 (undisturbed 3720)

/-- A wakeup that finds the occurrence queued leaves everything settled. -/
theorem two_wakeups_settled :
    ∃ system, execute sampleConfig sampleJournal twoWakeups = some system ∧ Settled system := by
  have found : ((execute sampleConfig sampleJournal twoWakeups).any fun system => system.history.all fun record =>
      match record.event.call with
      | .claimOccurrence claim => (record.before.statusOf (sampleConfig.claimedJob claim)).all (· == .queued)
      | _ => true) = true := by decide +kernel
  simp only [finds, List.all_eq_true] at found
  obtain ⟨system, ran, found⟩ := found
  refine ⟨system, ran, (occurrences_settled_iff_claimed_queued ran).mpr ?_⟩
  rintro record member jobID status ⟨claim, called, rfl, _⟩ held
  have queued := found record member
  simpa [called, held] using queued

end VskLabs.Schedule

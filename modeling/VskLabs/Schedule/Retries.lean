import VskLabs.Library.Turns
import VskLabs.Schedule.Conduct

/-! Scheduled retries. Where calls come one after the other, an occurrence is
submitted again only after every earlier run of it was seen with nothing started,
and a bounded number of times. -/

namespace VskLabs.Schedule
open Library ScheduleRepository

variable {config : ScheduleConfig}

def Submits (record : Record config) (jobID : String) (attempt : Int) (runID : String) : Prop :=
  0 < attempt ∧ ∃ plan decision attribution,
    record.event.call = .submitScheduled plan decision (submitKey jobID attempt) attribution ∧
      runID = config.runID plan.planID (submitKey jobID attempt)

/-- The reply shows the run with all its steps not started. -/
def Shows (record : Record config) (runID : String) : Prop :=
  match record.event with
  | ⟨.submitScheduled plan _ key _, .ok run⟩ => config.runID plan.planID key = runID ∧ allNotStarted run = true
  | ⟨.getScheduledRun wanted, .ok run⟩ => wanted = runID ∧ allNotStarted run = true
  | _ => False

def Submitted (history : List (Record config)) (jobID : String) (number : Int) : Prop :=
  ∃ record ∈ history, ∃ runID, Submits record jobID number runID

/-- A submission whose run was not seen with nothing started since. -/
def Pending (history : List (Record config)) (jobID : String) (number : Int) (runID : String) : Prop :=
  ∃ newer record older, history = newer ++ record :: older ∧ Submits record jobID number runID ∧
    ∀ shown ∈ newer ++ [record], ¬ Shows shown runID

variable {record : Record config} {history : List (Record config)} {jobID runID : String} {number : Int} {past : Past}
  {journal after : Journal} {query : Call} {reply : Reply query} {policy : ScheduledJobPolicy} {limit : Int}

theorem Submits.unique {other second : String} {also : Int} (submits : Submits record jobID number runID)
    (again : Submits record other also second) : jobID = other ∧ number = also ∧ runID = second := by
  obtain ⟨positive, plan, decision, attribution, called, rfl⟩ := submits
  obtain ⟨alsoPositive, _, _, _, same, rfl⟩ := again
  simp only [called, Call.submitScheduled.injEq] at same
  obtain ⟨rfl, rfl, key, rfl⟩ := same
  obtain ⟨rfl, rfl⟩ := submitKey_inj positive alsoPositive key
  exact ⟨rfl, rfl, rfl⟩

theorem Pending.cons (pending : Pending (record :: history) jobID number runID) :
    ¬ Shows record runID ∧ (Submits record jobID number runID ∨ Pending history jobID number runID) := by
  obtain ⟨newer, first, older, split, submits, unseen⟩ := pending
  cases newer with
  | nil =>
    obtain ⟨rfl, rfl⟩ := List.cons.inj split
    exact ⟨unseen _ (by simp), .inl submits⟩
  | cons last rest =>
    obtain ⟨rfl, before⟩ := List.cons.inj split
    exact ⟨unseen _ (by simp), .inr ⟨rest, first, older, before, submits, fun shown member => unseen shown (.tail _ member)⟩⟩

/-! ### What a thread knows while it calls alone -/

def Superseded (journal : Journal) (jobID : String) : Prop := ∃ occurrence ∈ journal.occurrences.rows, occurrence.jobID = jobID ∧
  ∃ row ∈ journal.activations.rows, row.policy.policyID = occurrence.policyID ∧ occurrence.policyRevision < row.policy.revision

/-- The attempts that the policy of the occurrence allows. -/
def Limit (journal : Journal) (jobID : String) (limit : Int) : Prop :=
  ∀ occurrence ∈ journal.occurrences.rows, occurrence.jobID = jobID → ∀ row ∈ journal.activations.rows,
    row.key = (occurrence.policyID, occurrence.policyRevision) → row.policy.maxAttempts = limit

/-- A job that waits under a policy that was superseded is not tried again. -/
def Stands (journal : Journal) (jobID : String) (status : TaskStatus String) : Prop :=
  ∀ row, journal.lastTransition jobID = some row →
    (row.target = .running → ∃ runID, row.runID = some runID ∧ status = .running runID) ∧
    (row.target = .retryWait → status = .waiting ∨ Superseded journal jobID)

def trialAt (jobID : String) (past : Past) : Option (Trial String) :=
  (undertaking past).bind fun current => if current.jobID = jobID then some current.trial else none

/-- The journal and the past of the thread that calls, as the ledger of a job. -/
def Kept (journal : Journal) (past : Past) (jobID : String) (limit : Int) (submitted : Int → Prop)
    (pending : Int → String → Prop) : Prop :=
  ∃ status, Stands journal jobID status ∧ Ledger.Sound limit ⟨status, trialAt jobID past, Used journal jobID, submitted, pending⟩

def Rooted (journal : Journal) : Prop := ∀ occurrence ∈ journal.occurrences.rows, ∃ row ∈ journal.activations.rows,
  row.key = (occurrence.policyID, occurrence.policyRevision)

/-- The job was read after its last attempt was filed, and under its last run. -/
def Current (journal : Journal) (jobID : String) (job : ScheduledJob) : Prop :=
  (∀ number, Used journal jobID number → number ≤ job.attempt) ∧
    ∀ row, journal.lastTransition jobID = some row → row.target = .running → job.status = .running → row.runID = job.runID

structure Prudent (journal : Journal) (history : List (Record config)) (past : Past) : Prop where
  heard : ∀ event ∈ past, Heard journal event
  newest : ∀ policyID policy, Saw past (.getActivePolicy policyID) (.ok policy) → ∀ row ∈ journal.activations.rows,
    row.policy.policyID = policyID → row.policy.revision ≤ policy.revision
  small : ∀ row ∈ journal.attempts.rows, 0 < row.attempt ∧ row.attempt < 2 ^ 63
  rooted : Rooted journal
  current : ∀ jobID job, Saw past (.getOccurrence jobID) (.ok job) → Untried past jobID → Current journal jobID job
  shown : ∀ jobID runID run, Saw past (.getScheduledRun runID) (.ok run) → allNotStarted run = true → Untried past jobID →
    ∀ number, ¬ Pending history jobID number runID
  first : ∀ attempt rest job, past = ⟨.appendAttempt attempt, .ok ()⟩ :: rest →
    Saw rest (.getOccurrence attempt.jobID) (.ok job) → job.attempt = attempt.attempt → attempt.attempt = 1
  kept : ∀ jobID limit, Limit journal jobID limit →
    Kept journal past jobID limit (Submitted history jobID) (Pending history jobID)

theorem Prudent.terms (prudent : Prudent journal history past) {job : ScheduledJob}
    (read : Saw past (.getOccurrence jobID) (.ok job)) (active : Saw past (.getActivePolicy job.policyID) (.ok policy))
    (limited : Limit journal jobID limit) : if policy.revision = job.policyRevision then
      policy.maxAttempts = limit ∧ ¬ Superseded journal jobID else Superseded journal jobID := by
  obtain ⟨⟨occurrence, housed, mine, ofPolicy, ofRevision⟩, _⟩ := prudent.heard _ read
  obtain ⟨row, present, rfl, named, _⟩ := prudent.heard _ active
  split
  next same =>
    refine ⟨limited occurrence housed mine row present (by simp [ActivationRow.key, *]), ?_⟩
    rintro ⟨other, inside, also, newer, activated, theirs, above⟩
    obtain rfl := List.inj_on_of_nodup_map journal.occurrences.distinct inside housed (also.trans mine.symm)
    have := prudent.newest _ _ active newer activated (theirs.trans ofPolicy)
    omega
  next differs =>
    obtain ⟨root, known, key⟩ := prudent.rooted occurrence housed
    simp only [ActivationRow.key, Prod.mk.injEq] at key
    have := prudent.newest _ _ active root known (key.1.trans ofPolicy)
    exact ⟨occurrence, housed, mine, row, present, named.trans ofPolicy.symm, by omega⟩

theorem Prudent.next (prudent : Prudent journal history past) {source : JobStatus}
    (grounds : Grounds past jobID number source policy) (positive : 0 < number) :
    number < 2 ^ 63 ∧ (number = 1 ∨ Used journal jobID number ∨ Used journal jobID (number - 1)) := by
  rcases grounds.numbered with ⟨job, read, rfl⟩ | ⟨_, last, read, rfl⟩
  · rcases (prudent.heard _ read).2 with first | used
    · exact ⟨by omega, .inl first⟩
    · obtain ⟨row, member, _, same⟩ := id used
      exact ⟨same ▸ (prudent.small row member).2, .inr (.inl used)⟩
  · obtain ⟨row, member, mine, same⟩ : Used journal jobID last.attempt := prudent.heard _ read
    have bounds := prudent.small row member
    rw [same] at bounds
    by_cases top : last.attempt + 1 < 2 ^ 63
    · rw [wrap64_of_small (by omega) top]
      exact ⟨top, .inr (.inr ⟨row, member, mine, by omega⟩)⟩
    · rw [show last.attempt + 1 = 2 ^ 63 by omega] at positive
      exact absurd positive (by decide)

/-! ### One call -/

theorem lastTransition_note {row : TransitionRow} (jobID : String) (noted : after.transitions = journal.transitions ++ [row]) :
    after.lastTransition jobID = if row.jobID = jobID then some row else journal.lastTransition jobID := by
  by_cases mine : row.jobID = jobID <;> simp [Journal.lastTransition, noted, mine]

theorem Limit.before (limited : Limit after jobID limit) (grows : Grows journal after) : Limit journal jobID limit :=
  fun occurrence housed mine row present => limited occurrence (grows.occurrences housed) mine row (grows.activations present)

theorem Superseded.grow (superseded : Superseded journal jobID) (grows : Grows journal after) : Superseded after jobID := by
  obtain ⟨occurrence, housed, mine, row, present, facts⟩ := superseded
  exact ⟨occurrence, grows.occurrences housed, mine, row, grows.activations present, facts⟩

theorem Stands.keep {status : TaskStatus String} (stands : Stands journal jobID status) (grows : Grows journal after)
    (same : after.lastTransition jobID = journal.lastTransition jobID) : Stands after jobID status :=
  fun row last => ⟨(stands row (same ▸ last)).1, fun waits => ((stands row (same ▸ last)).2 waits).imp_right (·.grow grows)⟩

theorem Kept.silent (kept : Kept journal past jobID limit (Submitted history jobID) (Pending history jobID))
    (silent : ∀ number runID, ¬ Submits record jobID number runID) :
    Kept journal past jobID limit (Submitted (record :: history) jobID) (Pending (record :: history) jobID) := by
  obtain ⟨status, stands, sound⟩ := kept
  have sent : Submitted (record :: history) jobID = Submitted history jobID := funext fun number => by simp [Submitted, silent]
  rw [sent]
  exact ⟨status, stands, sound.rest (.inr rfl) (.inl rfl) fun number runID pending =>
    pending.cons.2.resolve_left (silent number runID)⟩

theorem trialAt_of {current : Undertaking} (busy : undertaking past = some current) :
    trialAt current.jobID past = some current.trial := by
  simp [trialAt, busy]

theorem undertaking_tried {current : Undertaking} (busy : undertaking past = some current) :
    ¬ Untried past current.jobID := by
  induction past generalizing current with
  | nil => cases busy
  | cons event past ih =>
    intro untried
    have before (old : Undertaking) (same : old.jobID = current.jobID) : undertaking past ≠ some old :=
      fun found => ih found fun event member => same ▸ untried event (.tail _ member)
    unfold undertaking advance at busy
    split at busy
    · cases busy
      exact untried _ (.head _) _ rfl rfl
    · split at busy
      · obtain ⟨old, found, rfl⟩ := Option.map_eq_some_iff.mp busy
        exact before old rfl found
      · cases busy
    · exact before current rfl busy
    · obtain ⟨old, found, rfl⟩ := Option.map_eq_some_iff.mp busy
      exact before old rfl found
    · cases busy

section Step

variable (prudent : Prudent journal history past) (limited : Limit journal jobID limit)
include prudent limited

theorem Prudent.moved {request : OccurrenceTransition} {reply : Reply (.transitionOccurrence request)} {row : TransitionRow}
    (founded : Founded config past (.transitionOccurrence request)) (grows : Grows journal after)
    (source : journal.statusOf request.jobID = some request.source) (mine : request.jobID = jobID)
    (noted : after.lastTransition jobID = some row) (used : Used after jobID = Used journal jobID)
    (target : row.target = request.target) (run : row.runID = request.runID) :
    Kept after (⟨.transitionOccurrence request, reply⟩ :: past) jobID limit (Submitted history jobID)
      (Pending history jobID) := by
  obtain ⟨status, stands, sound⟩ := prudent.kept jobID limit limited
  subst mine
  rw [Kept, used]
  by_cases starts : request.target = .running
  · simp only [Founded, starts] at founded
    obtain ⟨attempt, rest, policy, rfl, owner, named, grounds⟩ := founded
    have filed : trialAt request.jobID (⟨.appendAttempt attempt, .ok ()⟩ :: rest) =
        some ⟨.filed, attempt.attempt, attempt.runID⟩ := by
      simp [trialAt, undertaking, advance, owner]
    refine ⟨.running attempt.runID, ?_, sound.start filed ?_ ?_⟩
    · rw [Stands, noted]
      rintro _ ⟨⟩
      exact ⟨fun _ => ⟨_, run.trans named, rfl⟩, fun waits => by cases starts.symm.trans (target.symm.trans waits)⟩
    · rcases grounds.numbered with ⟨job, read, same⟩ | ⟨waiting, _⟩
      · exact .inr (prudent.first _ _ _ rfl (owner ▸ read) same)
      · obtain ⟨row, last, target⟩ := Option.map_eq_some_iff.mp source
        obtain ⟨job, read, active, same⟩ := grounds.funded
        have terms := prudent.terms (.tail _ read) (.tail _ active) limited
        rw [if_pos same] at terms
        exact .inl (((stands row last).2 (target.trans waiting)).resolve_right terms.2)
    · cases reply with
      | error failure => exact .inl rfl
      | ok done => exact .inr (by simp [trialAt, undertaking, advance, starts, Undertaking.to, owner])
  have lost : trialAt request.jobID (⟨.transitionOccurrence request, reply⟩ :: past) = none := by
    cases reply <;> simp [trialAt, undertaking, advance, starts]
  have left {status : TaskStatus String}
      (waits : request.target = .retryWait → status = .waiting ∨ Superseded journal request.jobID) :
      Stands after request.jobID status := by
    rw [Stands, noted]
    rintro _ ⟨⟩
    exact ⟨fun runs => absurd (target.symm.trans runs) starts,
      fun same => (waits (target.symm.trans same)).imp_right (·.grow grows)⟩
  rw [lost]
  by_cases waits : request.target = .retryWait
  · simp only [Founded, waits] at founded
    rcases founded with ⟨number, run, _, policy, busy, grounds, small⟩ | ⟨running, job, runID, run, policy, recovers⟩
    · obtain ⟨job, read, active, same⟩ := grounds.funded
      have terms := prudent.terms read active limited
      rw [if_pos same] at terms
      exact ⟨.waiting, left fun _ => .inl rfl, sound.retry (trialAt_of busy) (terms.1 ▸ small)⟩
    · obtain ⟨row, last, target⟩ := Option.map_eq_some_iff.mp source
      obtain ⟨fewer, same⟩ := prudent.current _ _ recovers.read recovers.untried
      obtain ⟨other, known, rfl⟩ := (stands row last).1 (target.trans running)
      cases known.symm.trans ((same row last (target.trans running) recovers.running.1).trans recovers.running.2)
      have terms := prudent.terms recovers.read recovers.below.1 limited
      split at terms
      · refine ⟨.waiting, left fun _ => .inl rfl, sound.recover rfl ?_ fun number used => ?_⟩
        · exact prudent.shown _ _ _ recovers.seen.1 recovers.seen.2 recovers.untried
        · exact terms.1 ▸ Int.lt_of_le_of_lt (fewer number used) recovers.below.2
      · exact ⟨.closed, left fun _ => .inr terms, sound.rest (.inl rfl) (.inr rfl) fun _ _ => id⟩
  · exact ⟨.closed, left fun same => absurd same waits, sound.rest (.inl rfl) (.inr rfl) fun _ _ => id⟩

theorem Prudent.kept_step (founded : Founded config past query) (effect : Effect config query reply journal after)
    (idle : ∀ plan decision key attribution, query ≠ .submitScheduled plan decision key attribution) :
    Kept after (⟨query, reply⟩ :: past) jobID limit (Submitted history jobID) (Pending history jobID) := by
  have grows := effect.grows
  obtain ⟨status, stands, sound⟩ := prudent.kept jobID limit limited
  have rest {current : Journal} {later : TaskStatus String} (same : Used current jobID = Used journal jobID)
      (lost : trialAt jobID (⟨query, reply⟩ :: past) = none ∨ trialAt jobID (⟨query, reply⟩ :: past) = trialAt jobID past)
      (closed : later = status ∨ later = .closed) (left : Stands current jobID later) :
      Kept current (⟨query, reply⟩ :: past) jobID limit (Submitted history jobID) (Pending history jobID) :=
    ⟨later, left, same ▸ sound.rest lost closed fun _ _ => id⟩
  cases effect with
  | nothing told =>
    refine rest rfl ?_ (.inl rfl) stands
    cases query with
    | getOccurrence => exact .inr rfl
    | submitScheduled => exact absurd rfl (idle _ _ _ _)
    | appendAttempt | transitionOccurrence =>
      cases reply with
      | error failure => exact .inl rfl
      | ok done => exact told.elim
    | _ => exact .inl rfl
  | claimed claim now occurrences called kept origin =>
    cases called
    by_cases mine : config.claimedJob claim = jobID
    · refine rest rfl (.inl rfl) (.inr rfl) ?_
      rw [Stands, lastTransition_note jobID rfl, if_pos mine]
      rintro _ ⟨⟩
      exact ⟨nofun, nofun⟩
    · exact rest rfl (.inl rfl) (.inl rfl) (stands.keep grows ((lastTransition_note jobID rfl).trans (if_neg mine)))
  | moved request now called valid source =>
    cases called
    by_cases mine : request.jobID = jobID
    · exact prudent.moved limited founded grows source mine ((lastTransition_note jobID rfl).trans (if_pos mine)) rfl rfl rfl
    · refine rest rfl (.inl ?_) (.inl rfl) (stands.keep grows ((lastTransition_note jobID rfl).trans (if_neg mine)))
      by_cases starts : request.target = .running
      · simp only [Founded, starts] at founded
        obtain ⟨attempt, _, _, rfl, owner, _⟩ := founded
        cases reply <;> simp [trialAt, undertaking, advance, starts, Undertaking.to, owner, mine]
      · cases reply <;> simp [trialAt, undertaking, advance, starts]
  | appended attempt time attempts called positive housed fresh rows =>
    cases called
    by_cases mine : attempt.jobID = jobID
    · subst mine
      obtain ⟨source, policy, grounds⟩ := founded
      have free : ¬ Used journal attempt.jobID attempt.attempt := by
        rintro ⟨row, member, mine, same⟩
        exact fresh row member mine same
      have told : trialAt attempt.jobID (⟨.appendAttempt attempt, reply⟩ :: past) = none ∨
          trialAt attempt.jobID (⟨.appendAttempt attempt, reply⟩ :: past) = some ⟨.filed, attempt.attempt, attempt.runID⟩ := by
        cases reply <;> simp [trialAt, undertaking, advance]
      refine ⟨status, stands.keep grows rfl, sound.file ?_ positive free
        ((prudent.next grounds positive).2.imp_right (·.resolve_left free)) told⟩
      simp [Used, rows, or_and_right, exists_or, or_comm, eq_comm]
    · refine rest (funext fun number => ?_) (.inl ?_) (.inl rfl) (stands.keep grows rfl)
      · simp [Used, rows, or_and_right, exists_or, mine]
      · cases reply <;> simp [trialAt, undertaking, advance, mine]
  | leased lease leases called | released job lease called | lapsed now called | activated row activations called
  | advanced revision called =>
    cases called
    exact rest rfl (.inl rfl) (.inl rfl) (stands.keep grows rfl)

end Step

theorem Prudent.claimed (prudent : Prudent journal history past) {source : JobStatus}
    (grounds : Grounds past jobID number source policy) : ∃ occurrence ∈ journal.occurrences.rows, occurrence.jobID = jobID ∧
      ∃ row ∈ journal.activations.rows, row.key = (occurrence.policyID, occurrence.policyRevision) ∧
        1 ≤ row.policy.maxAttempts ∧ Limit journal jobID row.policy.maxAttempts := by
  obtain ⟨job, read, active, same⟩ := grounds.funded
  obtain ⟨⟨occurrence, housed, mine, ofPolicy, ofRevision⟩, _⟩ := prudent.heard _ read
  obtain ⟨row, present, rfl, named, canonical⟩ := prudent.heard _ active
  have key : row.key = (occurrence.policyID, occurrence.policyRevision) := by simp [ActivationRow.key, *]
  refine ⟨occurrence, housed, mine, row, present, key, canonicalPolicy_attempts canonical, ?_⟩
  intro other inside also known found theirs
  obtain rfl := List.inj_on_of_nodup_map journal.occurrences.distinct inside housed (also.trans mine.symm)
  obtain rfl := List.inj_on_of_nodup_map journal.activations.distinct found present (theirs.trans key.symm)
  rfl

section Submission

variable {plan : Plan} {decision : AuthorizationDecision} {key : String} {attribution : Attribution}
  (prudent : Prudent journal history past) (founded : Founded config past (.submitScheduled plan decision key attribution))
include prudent founded

theorem Prudent.submits (called : record.event.call = .submitScheduled plan decision key attribution) :
    ∃ jobID number source policy, Submits record jobID number (config.runID plan.planID key) ∧
      undertaking past = some ⟨jobID, .started, number, config.runID plan.planID key⟩ ∧ Grounds past jobID number source policy ∧
      ∃ closes reading, Saw past (.windowClosesAt jobID) (.ok closes) ∧ lastClock past = some reading ∧
        reading.second + planValiditySeconds ≤ closes := by
  obtain ⟨jobID, number, source, policy, closes, reading, busy, rfl, grounds, window⟩ := founded
  obtain ⟨_, _, _, row, _, _, _, limited⟩ := prudent.claimed grounds
  obtain ⟨_, _, sound⟩ := prudent.kept jobID _ limited
  have positive := (sound.numbered _ (sound.last _ (trialAt_of busy)).1).1
  exact ⟨jobID, number, source, policy, ⟨positive, _, _, _, called, rfl⟩, busy, grounds, closes, reading, window⟩

theorem Prudent.kept_submit {reply : Reply (.submitScheduled plan decision key attribution)}
    (same : record.event = ⟨.submitScheduled plan decision key attribution, reply⟩) (limited : Limit journal jobID limit) :
    Kept journal (⟨.submitScheduled plan decision key attribution, reply⟩ :: past) jobID limit
      (Submitted (record :: history) jobID) (Pending (record :: history) jobID) := by
  obtain ⟨owner, number, _, _, submits, busy, _⟩ := prudent.submits founded (congrArg Event.call same)
  obtain ⟨status, stands, sound⟩ := prudent.kept jobID limit limited
  by_cases mine : owner = jobID
  · subst mine
    refine ⟨status, stands, ?_⟩
    simp only [trialAt, undertaking, advance, busy, Option.map_some, Undertaking.to, Option.bind_some, if_pos]
    refine sound.submit (trialAt_of busy) (fun other => ?_) (fun other also pending => ?_) ?_
    · simp only [Submitted, List.mem_cons, or_and_right, exists_or, exists_eq_left]
      refine or_congr_left ⟨fun ⟨_, again⟩ => (again.unique submits).2.1, ?_⟩
      rintro rfl
      exact ⟨_, submits⟩
    · exact pending.cons.2.imp_left fun again => (again.unique submits).2
    · split
      · next shown =>
        refine .inr ⟨rfl, fun other pending => pending.cons.1 ?_⟩
        cases reply with
        | error failure => cases shown
        | ok run => simpa [Shows, same, Except.toOption] using shown
      · exact .inl rfl
  · refine Kept.silent ⟨status, stands, sound.rest (.inl ?_) (.inl rfl) fun _ _ => id⟩
      fun _ _ again => mine (submits.unique again).1
    simp [trialAt, undertaking, advance, busy, Undertaking.to, mine]

end Submission

section Call

variable (prudent : Prudent journal history past) (founded : Founded config past query)
  (effect : Effect config query reply journal after)
include prudent founded effect

theorem Prudent.rooted_step : Rooted after := by
  intro occurrence housed
  have old (known : occurrence ∈ journal.occurrences.rows) : ∃ row ∈ after.activations.rows,
      row.key = (occurrence.policyID, occurrence.policyRevision) :=
    (prudent.rooted occurrence known).imp fun _ => And.imp_left (effect.grows.activations ·)
  cases effect with
  | claimed claim now occurrences called kept origin =>
    cases called
    rcases origin occurrence housed with known | ⟨rfl, _⟩
    · exact old known
    · obtain ⟨_, policyID, _, _, read, _⟩ := founded
      obtain ⟨row, present, same, _⟩ := prudent.heard _ read
      exact ⟨row, present, by rw [ActivationRow.key, same]; rfl⟩
  | _ => exact old housed

theorem Prudent.current_step {job : ScheduledJob} (saw : Saw (⟨query, reply⟩ :: past) (.getOccurrence jobID) (.ok job))
    (untried : Untried (⟨query, reply⟩ :: past) jobID) : Current after jobID job := by
  rcases List.mem_cons.mp saw with new | old
  · cases new
    obtain ⟨rfl, read⟩ := effect.told rfl
    obtain ⟨_, _, _, last, _, _, _, attempt, ran, _⟩ := getOccurrence_law read
    refine ⟨fun number used => attempt ▸ used.le_lastAttempt, fun row found _ _ => ?_⟩
    cases last.symm.trans found
    exact ran.symm
  · obtain ⟨fewer, same⟩ := prudent.current jobID job old (fun event member => untried event (.tail _ member))
    cases effect with
    | claimed claim now occurrences called =>
      refine ⟨fewer, fun row found runs => ?_⟩
      by_cases mine : config.claimedJob claim = jobID <;> simp [Journal.lastTransition, mine] at found
      · subst found
        cases runs
      · exact same row found runs
    | moved request now called =>
      cases called
      refine ⟨fewer, fun row found runs => ?_⟩
      by_cases mine : request.jobID = jobID <;> simp [Journal.lastTransition, mine] at found
      · subst found
        simp only [Founded, show request.target = .running from runs] at founded
        obtain ⟨attempt, _, _, rfl, owner, _⟩ := founded
        exact absurd (owner.trans mine) (untried _ (.tail _ (.head _)) attempt rfl)
      · exact same row found runs
    | appended attempt time attempts called positive housed fresh rows =>
      cases called
      have other := untried _ (.head _) attempt rfl
      exact ⟨fun number used => fewer number (by simpa [Used, rows, or_and_right, exists_or, other] using used), same⟩
    | _ => exact ⟨fewer, same⟩

end Call

theorem Prudent.step {thread : Nat} (prudent : Prudent journal history past) (founded : Founded config past query)
    (effect : Effect config query reply journal after) :
    Prudent after (⟨thread, ⟨query, reply⟩, journal, after⟩ :: history) (⟨query, reply⟩ :: past) := by
  have grows := effect.grows
  have before {jobID : String} (untried : Untried (⟨query, reply⟩ :: past) jobID) : Untried past jobID :=
    fun event member => untried event (.tail _ member)
  refine ⟨List.forall_mem_cons.mpr ⟨effect.heard, fun event member => (prudent.heard event member).grow grows⟩,
    ?_, ?_, ?_, ?_, ?_, ?_, ?_⟩
  · intro policyID policy saw row present named
    rcases List.mem_cons.mp saw with new | old
    · cases new
      obtain ⟨rfl, read⟩ := effect.told rfl
      obtain ⟨_, _, _, _, _, newest⟩ := getActivePolicy_law read
      exact newest row present named
    · cases effect with
      | activated row activations called =>
        cases called
        cases founded
        cases old
      | _ => exact prudent.newest policyID policy old row present named
  · intro row present
    cases effect with
    | appended attempt time attempts called positive housed fresh rows =>
      cases called
      obtain ⟨source, policy, grounds⟩ := founded
      simp only [rows, List.mem_append, List.mem_singleton] at present
      rcases present with old | rfl
      · exact prudent.small row old
      · exact ⟨positive, (prudent.next grounds positive).1⟩
    | _ => exact prudent.small row present
  · exact prudent.rooted_step founded effect
  · exact fun jobID job saw untried => prudent.current_step founded effect saw untried
  · intro jobID runID run saw unstarted untried number pending
    obtain ⟨unseen, submits | pending⟩ := pending.cons
    · obtain ⟨_, plan, decision, attribution, called, _⟩ := id submits
      obtain ⟨owner, _, _, _, also, busy, _⟩ := prudent.submits (by rw [← called]; exact founded) called
      obtain ⟨rfl, _⟩ := submits.unique also
      exact undertaking_tried busy (before untried)
    · rcases List.mem_cons.mp saw with new | old
      · cases new
        exact unseen ⟨rfl, unstarted⟩
      · exact prudent.shown jobID runID run old unstarted (before untried) number pending
  · intro attempt rest job same saw number
    cases same
    rcases (prudent.heard _ saw).2 with first | ⟨row, member, mine, used⟩
    · exact number.symm.trans first
    · cases effect with
      | nothing told => exact told.elim
      | appended _ _ _ called _ _ fresh =>
        cases called
        exact absurd (used.trans number) (fresh row member mine)
      | claimed _ _ _ called | moved _ _ called | leased _ _ called | released _ _ called | lapsed _ called
      | activated _ _ called | advanced _ called => cases called
  · intro jobID limit limited
    by_cases submission : ∃ plan decision key attribution, query = .submitScheduled plan decision key attribution
    · obtain ⟨plan, decision, key, attribution, rfl⟩ := submission
      obtain ⟨rfl, _⟩ := effect.told rfl
      exact prudent.kept_submit founded rfl limited
    · refine (prudent.kept_step (limited.before grows) founded effect ?_).silent ?_
      · intro _ _ _ _ same
        exact submission ⟨_, _, _, _, same⟩
      · rintro _ _ ⟨_, _, _, _, called, _⟩
        exact submission ⟨_, _, _, _, called⟩

/-! ### Whole histories -/

/-- What holds when an attempt of an occurrence is submitted. -/
structure Sober (older : List (Record config)) (record : Record config) (jobID : String) (attempt : Int) : Prop where
  again : ∀ newer first oldest other second, older = newer ++ first :: oldest → Submits first jobID other second →
    other < attempt ∧ ∃ shown ∈ newer ++ [first], Shows shown second
  within : ∃ occurrence ∈ record.before.occurrences.rows, occurrence.jobID = jobID ∧
    (∃ row ∈ record.before.activations.rows, row.key = (occurrence.policyID, occurrence.policyRevision) ∧
      ∀ picked : List (Record config), picked.Sublist older →
        (∀ first ∈ picked, ∃ other second, Submits first jobID other second) →
        picked.length < row.policy.maxAttempts) ∧
    ∃ instant, lastClock (eventsOf record.thread older) = some instant ∧
      instant.second + planValiditySeconds ≤ occurrence.windowClosesAt

theorem Prudent.sober {older : List (Record config)} (prudent : Prudent record.before older past)
    (founded : Founded config past record.event.call) (submits : Submits record jobID number runID) :
    (∀ other second, ¬ Pending older jobID other second) ∧ (∀ other, Submitted older jobID other → other < number) ∧
      ∃ occurrence ∈ record.before.occurrences.rows, occurrence.jobID = jobID ∧
        (∃ row ∈ record.before.activations.rows, row.key = (occurrence.policyID, occurrence.policyRevision) ∧
          1 ≤ row.policy.maxAttempts ∧ ∀ other, Submitted older jobID other → other < row.policy.maxAttempts) ∧
        ∃ instant, lastClock past = some instant ∧ instant.second + planValiditySeconds ≤ occurrence.windowClosesAt := by
  obtain ⟨_, plan, decision, attribution, called, _⟩ := id submits
  obtain ⟨_, _, _, _, also, busy, grounds, closes, reading, window, clock, early⟩ := prudent.submits (called ▸ founded) called
  obtain ⟨rfl, rfl, rfl⟩ := submits.unique also
  obtain ⟨occurrence, housed, mine, row, present, key, positive, limited⟩ := prudent.claimed grounds
  obtain ⟨status, _, sound⟩ := prudent.kept jobID _ limited
  have mineAt := trialAt_of busy
  have unsent := sound.unsent _ mineAt (.inr rfl)
  have apart {other : Int} (sent : Submitted older jobID other) : other ≠ number := fun same => unsent (same ▸ sent)
  obtain ⟨other, inside, theirs, rfl⟩ := prudent.heard _ window
  obtain rfl := List.inj_on_of_nodup_map record.before.occurrences.distinct inside housed (theirs.trans mine.symm)
  refine ⟨fun other second pending => ?_, fun other sent => ?_, other, housed, mine,
    ⟨row, present, key, positive, fun other sent => ?_⟩,
    reading, clock, early⟩
  · exact apart (sound.pending _ _ pending) (sound.others _ mineAt nofun _ _ pending).1
  · exact lt_of_le_of_ne ((sound.last _ mineAt).2 _ (sound.counted _ sent)) (apart sent)
  · exact sound.below _ mineAt nofun _ sent (apart sent)

abbrev Sequential (older : List (Record config)) (record : Record config) : Prop :=
  Prudent record.before older (eventsOf record.thread older) ∧ System.Recorded (fun _ => True) (Founded config) older record

/-- The numbers of the submissions of a job increase, so there are no more than the last one says. -/
theorem length_le_of_sequential (sequential : Along Sequential history) {picked : List (Record config)}
    (inside : picked.Sublist history) (submit : ∀ record ∈ picked, ∃ number runID, Submits record jobID number runID)
    {bound : Int} (positive : 0 ≤ bound)
    (below : ∀ record ∈ picked, ∀ number runID, Submits record jobID number runID → number ≤ bound) :
    picked.length ≤ bound := by
  induction inside generalizing bound with
  | slnil => exact positive
  | cons record inside ih => exact ih sequential.2 submit positive below
  | cons_cons record inside ih =>
    obtain ⟨⟨number, runID, submits⟩, others⟩ := List.forall_mem_cons.mp submit
    obtain ⟨⟨prudent, recorded⟩, earlier⟩ := sequential
    have increasing := (prudent.sober recorded.permitted submits).2.1
    have shorter := ih earlier others (Int.le_sub_one_of_lt submits.1) fun other member also second sent =>
      Int.le_sub_one_of_lt (increasing also ⟨other, inside.subset member, second, sent⟩)
    have := below record (.head _) number runID submits
    rw [List.length_cons]
    omega

theorem Prudent.fresh (activations : Table ActivationRow.key) (revision : Revision) :
    Prudent (Journal.fresh activations revision) ([] : List (Record config)) [] := by
  refine ⟨by simp, by simp, fun _ member => absurd member List.not_mem_nil, fun _ member => absurd member List.not_mem_nil,
    by simp, by simp, by simp, fun jobID limit _ =>
      ⟨.closed, fun _ last => ?_, .fresh ?_ (by simp [Submitted]) (by simp [Pending])⟩⟩
  · cases last
  · exact fun _ ⟨_, member, _⟩ => absurd member List.not_mem_nil

theorem Prudent.leave (prudent : Prudent journal history past) : Prudent journal history [] := by
  refine ⟨by simp, by simp, prudent.small, prudent.rooted, by simp, by simp, by simp, fun jobID limit limited => ?_⟩
  obtain ⟨status, stands, sound⟩ := prudent.kept jobID limit limited
  exact ⟨status, stands, sound.rest (.inl rfl) (.inl rfl) fun _ _ => id⟩

def hourJournal : Journal := wideJournal { samplePolicy with windowSeconds := 3600 }

def firstAttempt (started : Time) : List (Action (world sampleConfig) Operation) :=
  .spawn (.dispatchAndRun (wakeup "first" 3700) localRunner) ::
    hear 0 (undisturbed 3700 ++ [accepted 3700, accepted 3700, .clock (ofSecond 3700)] ++ attempted "plan" 3700 started)

def secondAttempt (thread : Nat) (planID : String) (now : Time) : List (Action (world sampleConfig) Operation) :=
  .spawn (.run "policy" localRunner) ::
    hear thread ([accepted now, accepted now, accepted now, .clock (ofSecond now), accepted now] ++
    attempted planID now now ++ [.run (.ok (occurrenceRun planID .succeeded .verified))])

def unstarted : Answer := .run (.ok (occurrenceRun "plan" .failed .notStarted))

/-- The start of the planned attempt is recorded after the window. -/
def lateStart : List (Action (world sampleConfig) Operation) := firstAttempt 8000 ++ hear 0 [unstarted]

/-- Startup stalls before it gives the first attempt back, and does so during the second. -/
def stalledRecovery : List (Action (world sampleConfig) Operation) :=
  firstAttempt 3700 ++ .spawn .startup :: hear 1 [.clock (ofSecond 3710), accepted 3710, accepted 3710, accepted 3710] ++
    hear 0 [unstarted] ++ hear 1 [unstarted, accepted 3720, accepted 3720] ++
    hear 0 [accepted 3730, accepted 3730, accepted 3730] ++
    secondAttempt 2 "again" 3900 ++ hear 1 [accepted 3910] ++ hear 2 [accepted 3920, accepted 3920] ++
    secondAttempt 3 "third" 4100

def submission (planID : String) (attempt : Int) : Call :=
  .submitScheduled (occurrencePlan planID) occurrenceDecision (submitKey "policy" attempt)
    { localRunner with responsibleHumanPrincipalID := some "human" }

theorem submits_of_submission {record : Record sampleConfig} {planID : String} (positive : 0 < number)
    (called : record.event.call = submission planID number) : Submits record "policy" number planID :=
  ⟨positive, _, _, _, called, rfl⟩

def effective (record : Record config) : Bool :=
  match record.event with
  | ⟨.submitScheduled _ _ _ _, .ok run⟩ => !allNotStarted run
  | _ => false

def oneRetry : List (Action (world sampleConfig) Operation) :=
  firstAttempt 3700 ++ hear 0 [unstarted, accepted 3730, accepted 3730, accepted 3730] ++ secondAttempt 1 "again" 3900

end VskLabs.Schedule

import VskLabs.Schedule.Runner

/-! What an answered call can have done to the journal, and what its reply says
about it. -/

namespace VskLabs.Schedule
open Library ScheduleRepository

variable {config : ScheduleConfig}

/-- What the reply to a call that left the journal alone says about it. -/
def Told : (query : Call) → Reply query → Journal → Prop
  | .getActivePolicy policyID, .ok policy, journal => getActivePolicy policyID journal = .ok policy
  | .getOccurrence jobID, .ok job, journal => getOccurrence jobID journal = .ok job
  | .latestScheduledAttempt jobID, .ok row, journal => lastAttempt journal jobID = row
  | .recoverableIDs, .ok ids, journal => recoverableIDs journal = .ok ids
  | .windowClosesAt jobID, .ok time, journal => windowClosesAt jobID journal = .ok time
  | .transitionOccurrence _, .ok (), _ | .appendAttempt _, .ok (), _ => False
  | _, _, _ => True

inductive Effect (config : ScheduleConfig) (query : Call) (reply : Reply query) (journal : Journal) : Journal → Prop where
  | nothing (told : Told query reply journal) : Effect config query reply journal journal
  | claimed (claim : OccurrenceClaim) (now : Time) (occurrences : Table OccurrenceRow.jobID)
      (called : query = .claimOccurrence claim) (kept : ∀ row ∈ journal.occurrences.rows, row ∈ occurrences.rows)
      (origin : ∀ row ∈ occurrences.rows, row ∈ journal.occurrences.rows ∨
        row = offered (config.claimedJob claim) claim now ∧ ∀ old ∈ journal.occurrences.rows, old.policyID = row.policyID →
          old.policyRevision = row.policyRevision → old.scheduledAt ≠ row.scheduledAt) :
    Effect config query reply journal { journal with occurrences := occurrences, transitions :=
      journal.transitions ++ [⟨config.claimedJob claim, none, .queued, "due", none, none, now⟩] }
  | moved (request : OccurrenceTransition) (now : Time) (called : query = .transitionOccurrence request)
      (valid : validTransition request.source request.target = true)
      (source : journal.statusOf request.jobID = some request.source) :
    Effect config query reply journal { journal with transitions := journal.transitions ++ [⟨request.jobID,
      some request.source, request.target, request.reasonCode, request.planID, request.runID, now⟩] }
  | appended (attempt : ScheduledAttempt) (recordedAt : Time) (attempts : Table AttemptRow.attemptID)
      (called : query = .appendAttempt attempt) (positive : 0 < attempt.attempt)
      (housed : ∃ occurrence ∈ journal.occurrences.rows, occurrence.jobID = attempt.jobID)
      (fresh : ∀ row ∈ journal.attempts.rows, row.jobID = attempt.jobID → row.attempt ≠ attempt.attempt)
      (rows : attempts.rows = journal.attempts.rows ++ [⟨attempt.jobID ++ "-attempt-" ++ toString attempt.attempt,
        attempt.jobID, attempt.attempt, attempt.status, attempt.planID, attempt.runID, attempt.effectStarted, recordedAt⟩]) :
    Effect config query reply journal { journal with attempts := attempts }
  | leased (lease : OccurrenceLeaseRow) (leases : Table OccurrenceLeaseRow.jobID)
      (called : query = .acquireOccurrenceLease lease.jobID lease.leaseID lease.holderID lease.expiresAt)
      (added : (journal.leases.delete fun old => old.jobID == lease.jobID).insert? lease = some leases) :
    Effect config query reply journal { journal with leases := leases }
  | released (jobID leaseID : String) (called : query = .releaseOccurrenceLease jobID leaseID) :
    Effect config query reply journal { journal with leases := journal.leases.delete fun row => row.jobID == jobID &&
      row.leaseID == leaseID }
  | lapsed (now : Time) (called : query = .releaseExpiredOccurrenceLeases now) :
    Effect config query reply journal { journal with leases := journal.leases.delete fun row => decide (row.expiresAt ≤ now) }
  | activated (row : ActivationRow) (activations : Table ActivationRow.key) (called : query = .activate row)
      (added : journal.activations.insert? row = some activations) :
    Effect config query reply journal { journal with activations := activations }
  | advanced (revision : Revision) (called : query = .advanceState) :
    Effect config query reply journal { journal with revision := revision }

variable {query : Call} {journal after : Journal}

theorem insertOccurrence_law (journal : Journal) (row : OccurrenceRow) : ∃ occurrences,
    insertOccurrence journal row = { journal with occurrences := occurrences } ∧
      (∀ old ∈ journal.occurrences.rows, old ∈ occurrences.rows) ∧
      ∀ new ∈ occurrences.rows, new ∈ journal.occurrences.rows ∨ new = row ∧ ∀ old ∈ journal.occurrences.rows,
        old.policyID = new.policyID → old.policyRevision = new.policyRevision → old.scheduledAt ≠ new.scheduledAt := by
  unfold insertOccurrence
  split
  · exact ⟨journal.occurrences, rfl, fun _ member => member, fun _ member => .inl member⟩
  next free =>
    refine ⟨_, rfl, ?_⟩
    rcases Option.eq_none_or_eq_some (journal.occurrences.insert? row) with taken | ⟨rows, added⟩
    · rw [taken]
      exact ⟨fun _ member => member, fun _ member => .inl member⟩
    simp only [added, Option.getD_some, (Table.insert?_eq_some added).2, List.mem_append, List.mem_singleton]
    refine ⟨fun _ member => .inl member, ?_⟩
    rintro new (old | rfl)
    · exact .inl old
    · refine .inr ⟨rfl, ?_⟩
      intro old inside ofPolicy ofRevision scheduled
      refine free (List.any_eq_true.mpr ⟨old, inside, ?_⟩)
      simp [ofPolicy, ofRevision, scheduled]

theorem commit_written {fault : Fault Failure} {transaction : Journal → Except Failure (Unit × Journal)}
    {reply : Except Failure Unit} (done : commit fault transaction journal = (reply, after)) :
    (after = journal ∧ ∃ failure, reply = .error failure) ∨ transaction journal = .ok ((), after) := by
  cases reply with
  | ok value => exact .inr (commit_ok done)
  | error failure => exact (commit_cases done).imp (fun same => ⟨same, failure, rfl⟩) fun ⟨_, ran⟩ => ran

theorem respond_effect {answer : Answer} {reply : Reply query}
    (answered : respond config query answer journal = some (reply, after)) : Effect config query reply journal after := by
  cases answer with
  | clock _ | prerequisites _ | fingerprint _ | plan _ | decision _ | run _ =>
    have same : after = journal ∧ ∀ other, Told query reply other := by cases query <;> simp_all [respond, Told]
    rw [same.1]
    exact .nothing (same.2 journal)
  | journal fault storeClock =>
    cases query with
    | getActivePolicy _ | getActivePolicyApprover _ _ | currentScheduleRevision | getOccurrence _ | latestScheduledAttempt _
    | recoverableIDs | windowClosesAt _ | occurrenceDigest _ =>
      simp only [respond, journalCall, Option.some.injEq] at answered
      have same := congrArg Prod.snd answered
      simp only [readState_keeps] at same
      subst same
      refine .nothing ?_
      cases reply with
      | error failure => trivial
      | ok value =>
        have read := readState_ok answered
        first | trivial | exact read | exact Except.ok.inj read
    | claimOccurrence claim =>
      rcases commit_written (Option.some.inj answered) with ⟨rfl, _, rfl⟩ | ran
      · exact .nothing trivial
      obtain ⟨occurrences, inserted, kept, origin⟩ := insertOccurrence_law journal
        (offered (config.claimedJob claim) claim storeClock.second)
      simp only [ScheduleRepository.claimOccurrence, inserted, peel, Prod.mk.injEq] at ran
      obtain ⟨_, _, _, _, _, rfl⟩ := ran
      exact .claimed claim _ occurrences rfl kept origin
    | transitionOccurrence request =>
      rcases commit_written (Option.some.inj answered) with ⟨rfl, _, rfl⟩ | ran
      · exact .nothing trivial
      simp only [ScheduleRepository.transitionOccurrence, peel, Prod.mk.injEq, checks] at ran
      obtain ⟨_, ⟨valid, _⟩, current, source, _, rfl, _, rfl⟩ := ran
      exact .moved request _ rfl valid source
    | appendAttempt attempt =>
      rcases commit_written (Option.some.inj answered) with ⟨rfl, _, rfl⟩ | ran
      · exact .nothing trivial
      simp only [appendAttempt, peel, Prod.mk.injEq, checks] at ran
      obtain ⟨_, ⟨_, positive⟩, _, ⟨housed, fresh⟩, attempts, added, _, rfl⟩ := ran
      obtain ⟨occurrence, found⟩ := Option.isSome_iff_exists.mp housed
      exact .appended attempt _ attempts rfl positive ⟨occurrence, Table.mem_of_find? found, Table.find?_key found⟩
        (fun row member mine => (fresh row member).resolve_left (not_not_intro mine)) (Table.insert?_eq_some added).2
    | acquireOccurrenceLease jobID leaseID holderID expiresAt =>
      rcases commit_written (Option.some.inj answered) with ⟨rfl, _, rfl⟩ | ran
      · exact .nothing trivial
      simp only [ScheduleRepository.acquireOccurrenceLease, peel, Prod.mk.injEq] at ran
      obtain ⟨_, _, _, _, leases, added, _, rfl⟩ := ran
      exact .leased ⟨jobID, leaseID, holderID, _, expiresAt⟩ leases rfl added
    | releaseOccurrenceLease jobID leaseID =>
      rcases commit_written (Option.some.inj answered) with ⟨rfl, _, rfl⟩ | ran
      · exact .nothing trivial
      simp only [releaseOccurrenceLease, peel, Prod.mk.injEq] at ran
      obtain ⟨_, _, _, rfl⟩ := ran
      exact .released jobID leaseID rfl
    | releaseExpiredOccurrenceLeases now =>
      rcases commit_written (Option.some.inj answered) with ⟨rfl, _, rfl⟩ | ran
      · exact .nothing trivial
      cases ran
      exact .lapsed now rfl
    | activate row =>
      rcases commit_written (Option.some.inj answered) with ⟨rfl, _, rfl⟩ | ran
      · exact .nothing trivial
      simp only [activate, peel, Prod.mk.injEq] at ran
      obtain ⟨_, _, activations, added, _, rfl⟩ := ran
      exact .activated row activations rfl added
    | advanceState =>
      rcases commit_written (Option.some.inj answered) with ⟨rfl, _, rfl⟩ | ran
      · exact .nothing trivial
      cases ran
      exact .advanced _ rfl
    | _ => simp [respond, journalCall] at answered

end VskLabs.Schedule

import Mathlib.Data.Set.Finite.Lemmas
import Mathlib.Data.Set.Finite.List
import VskLabs.Schedule.Finality

/-! Attempts and submissions of an occurrence: how a submission names its
attempt, and what a reading says of the journal from then on. -/

namespace VskLabs.Schedule
open Library ScheduleRepository

variable {config : ScheduleConfig}

/-! ### Submission keys -/

def submitKey (jobID : String) (attempt : Int) : String := jobID ++ "-attempt-" ++ toString attempt

theorem span_unique {p : Char → Bool} {mark : Char} (stops : p mark = false) {first second rest other : List Char}
    (all : ∀ c ∈ first, p c = true) (also : ∀ c ∈ second, p c = true)
    (same : first ++ mark :: rest = second ++ mark :: other) : first = second ∧ rest = other := by
  have cut (word end_ : List Char) (within : ∀ c ∈ word, p c = true) : (word ++ mark :: end_).takeWhile p = word := by
    simp [List.takeWhile_append_of_pos within, stops]
  obtain rfl : first = second := by rw [← cut first rest all, same, cut second other also]
  exact ⟨rfl, (List.cons.inj (List.append_cancel_left same)).2⟩

theorem digits_of_positive {attempt : Int} (positive : 0 < attempt) :
    ∃ n : Nat, attempt = n ∧ toString attempt = n.repr := by
  obtain ⟨n, rfl⟩ := Int.eq_ofNat_of_zero_le (Int.le_of_lt positive)
  exact ⟨n, rfl, rfl⟩

variable {jobID : String} {journal after : Journal} {count : Nat} {attempt : ScheduledAttempt} {now : Time}

theorem submitKey_inj {other : String} {attempt second : Int} (positive : 0 < attempt) (alsoPositive : 0 < second)
    (same : submitKey jobID attempt = submitKey other second) : jobID = other ∧ attempt = second := by
  obtain ⟨n, rfl, digits⟩ := digits_of_positive positive
  obtain ⟨m, rfl, others⟩ := digits_of_positive alsoPositive
  have texts := congrArg (fun text => text.toList.reverse) same
  simp only [submitKey, digits, others, String.toList_append, List.reverse_append, Nat.repr, String.toList_ofList] at texts
  have all (k : Nat) : ∀ c ∈ (Nat.toDigits 10 k).reverse, c.isDigit = true := by
    intro c member
    exact Nat.isDigit_of_mem_toDigits (by decide) (by decide) (List.mem_reverse.mp member)
  have marks : ("-attempt-".toList.reverse : List Char) = '-' :: ['t', 'p', 'm', 'e', 't', 't', 'a', '-'] := by decide
  rw [marks] at texts
  obtain ⟨numbers, names⟩ := span_unique (by decide) (all n) (all m) texts
  refine ⟨?_, ?_⟩
  · have chars := List.append_cancel_left names
    rw [List.reverse_inj] at chars
    exact String.toList_injective chars
  · rw [List.reverse_inj] at numbers
    have values := congrArg (fun digits => Nat.ofDigitChars 10 digits 0) numbers
    simp only [Nat.ofDigitChars_toDigits (b := 10) (by decide) (by decide)] at values
    rw [values]

/-! ### Readings -/

def Call.writes : Call → Bool
  | .claimOccurrence _ | .transitionOccurrence _ | .appendAttempt _ | .acquireOccurrenceLease _ _ _ _
  | .releaseOccurrenceLease _ _ | .releaseExpiredOccurrenceLeases _ | .activate _ | .advanceState => true
  | _ => false

variable {query : Call} {reply : Reply query}

theorem Effect.told (effect : Effect config query reply journal after) (reads : query.writes = false) :
    after = journal ∧ Told query reply journal := by
  cases effect with
  | nothing told => exact ⟨rfl, told⟩
  | claimed _ _ _ called | moved _ _ called | appended _ _ _ called | leased _ _ called | released _ _ called
  | lapsed _ called | activated _ _ called | advanced _ called =>
    subst called
    cases reads

theorem getOccurrence_law {job : ScheduledJob}
    (read : getOccurrence jobID journal = .ok job) :
    ∃ occurrence transition, journal.occurrences.find? jobID = some occurrence ∧
      journal.lastTransition jobID = some transition ∧ job.jobID = jobID ∧ job.policyID = occurrence.policyID ∧
      job.policyRevision = occurrence.policyRevision ∧
      job.attempt = ((lastAttempt journal jobID).map AttemptRow.attempt).getD 1 ∧
      job.runID = transition.runID ∧ job.status = transition.target := by
  simp only [getOccurrence, peel] at read
  obtain ⟨occurrence, found, transition, last, rfl⟩ := read
  exact ⟨occurrence, transition, found, last, rfl, rfl, rfl, rfl, rfl, rfl⟩

theorem getActivePolicy_law {policyID : String} {policy : ScheduledJobPolicy}
    (read : getActivePolicy policyID journal = .ok policy) :
    ∃ row ∈ journal.activations.rows, row.policy = policy ∧ policy.policyID = policyID ∧ canonicalPolicy policy = true ∧
      ∀ other ∈ journal.activations.rows, other.policy.policyID = policyID → other.policy.revision ≤ policy.revision := by
  simp only [getActivePolicy, peel] at read
  obtain ⟨row, found, _, canonical, rfl⟩ := read
  have member := List.mem_of_find?_eq_some found
  have newest := List.find?_some found
  simp only [List.mem_filter, checks] at member
  simp only [checks, List.mem_filter] at newest
  exact ⟨row, member.1, rfl, member.2, canonical, fun other present mine => newest other ⟨present, mine⟩⟩

theorem canonicalPolicy_attempts {policy : ScheduledJobPolicy} (canonical : canonicalPolicy policy = true) :
    1 ≤ policy.maxAttempts := by
  simp only [canonicalPolicy, ScheduledJobPolicy.exactContract, checks, and_assoc] at canonical
  obtain ⟨_, _, bounds, _⟩ := canonical
  exact (bounds policy.maxAttempts (by simp)).1

/-! ### What stays true -/

def Used (journal : Journal) (jobID : String) (number : Int) : Prop :=
  ∃ row ∈ journal.attempts.rows, row.jobID = jobID ∧ row.attempt = number

theorem lastAttempt_law {row : AttemptRow} (found : lastAttempt journal jobID = some row) : Used journal jobID row.attempt := by
  have member := List.mem_of_find?_eq_some found
  simp only [List.mem_filter, checks] at member
  exact ⟨row, member.1, member.2, rfl⟩

theorem Used.le_lastAttempt {number : Int} (used : Used journal jobID number) :
    number ≤ ((lastAttempt journal jobID).map AttemptRow.attempt).getD 1 := by
  obtain ⟨row, member, mine, rfl⟩ := used
  cases found : lastAttempt journal jobID with
  | some last =>
    have greatest := List.find?_some found
    simp only [checks, List.mem_filter] at greatest
    exact greatest row ⟨member, mine⟩
  | none =>
    -- one of the rows is the greatest
    obtain ⟨best, present, greatest⟩ := Set.exists_max_image {row | row ∈ journal.attempts.rows.filter fun row => row.jobID == jobID}
      AttemptRow.attempt (List.finite_toSet _) ⟨row, by simp [member, mine]⟩
    have unmatched := List.find?_eq_none.mp found best present
    simp only [checks] at unmatched
    exact absurd greatest unmatched

structure Grows (journal after : Journal) : Prop where
  occurrences : journal.occurrences.rows ⊆ after.occurrences.rows
  activations : journal.activations.rows ⊆ after.activations.rows
  attempts : journal.attempts.rows ⊆ after.attempts.rows

theorem Effect.grows (effect : Effect config query reply journal after) : Grows journal after := by
  cases effect with
  | claimed claim now occurrences called kept origin => exact ⟨kept, fun _ => id, fun _ => id⟩
  | appended attempt time attempts called positive housed fresh rows =>
    exact ⟨fun _ => id, fun _ => id, rows ▸ List.subset_append_left _ _⟩
  | activated row activations called added =>
    exact ⟨fun _ => id, (Table.insert?_eq_some added).2 ▸ List.subset_append_left _ _, fun _ => id⟩
  | _ => exact ⟨fun _ => id, fun _ => id, fun _ => id⟩

/-- What a reply says that no later call takes back. -/
def Heard (journal : Journal) : Event Call Reply → Prop
  | ⟨.getOccurrence jobID, .ok job⟩ => (∃ occurrence ∈ journal.occurrences.rows, occurrence.jobID = jobID ∧
      occurrence.policyID = job.policyID ∧ occurrence.policyRevision = job.policyRevision) ∧
        (job.attempt = 1 ∨ Used journal jobID job.attempt)
  | ⟨.latestScheduledAttempt jobID, .ok (some row)⟩ => Used journal jobID row.attempt
  | ⟨.getActivePolicy policyID, .ok policy⟩ => ∃ row ∈ journal.activations.rows, row.policy = policy ∧
      policy.policyID = policyID ∧ canonicalPolicy policy = true
  | ⟨.windowClosesAt jobID, .ok time⟩ => ∃ occurrence ∈ journal.occurrences.rows, occurrence.jobID = jobID ∧
      time = occurrence.windowClosesAt
  | _ => True

theorem Heard.grow {event : Event Call Reply} (heard : Heard journal event) (grows : Grows journal after) : Heard after event := by
  have used {jobID : String} {number : Int} : Used journal jobID number → Used after jobID number :=
    fun ⟨row, member, facts⟩ => ⟨row, grows.attempts member, facts⟩
  unfold Heard at heard ⊢
  split at heard
  · exact ⟨heard.1.imp fun _ => And.imp_left (grows.occurrences ·), heard.2.imp_right used⟩
  · exact used heard
  · exact heard.imp fun _ => And.imp_left (grows.activations ·)
  · exact heard.imp fun _ => And.imp_left (grows.occurrences ·)
  · trivial

theorem Effect.heard (effect : Effect config query reply journal after) : Heard after ⟨query, reply⟩ := by
  unfold Heard
  split
  · next jobID job same =>
    cases same
    obtain ⟨rfl, read⟩ := effect.told rfl
    obtain ⟨occurrence, _, found, _, _, policy, revision, attempt, _⟩ := getOccurrence_law read
    refine ⟨⟨occurrence, Table.mem_of_find? found, Table.find?_key found, policy.symm, revision.symm⟩, ?_⟩
    cases last : lastAttempt after jobID with
    | none => exact .inl (by simpa [last] using attempt)
    | some row => exact .inr (by simpa [attempt, last] using lastAttempt_law last)
  · next same =>
    cases same
    obtain ⟨rfl, read⟩ := effect.told rfl
    exact lastAttempt_law read
  · next same =>
    cases same
    obtain ⟨rfl, read⟩ := effect.told rfl
    obtain ⟨row, present, ofPolicy, named, canonical, _⟩ := getActivePolicy_law read
    exact ⟨row, present, ofPolicy, named, canonical⟩
  · next same =>
    cases same
    obtain ⟨rfl, read⟩ := effect.told rfl
    simp only [Told, windowClosesAt, peel] at read
    obtain ⟨row, found, rfl⟩ := read
    exact ⟨row, Table.mem_of_find? found, Table.find?_key found, rfl⟩
  · trivial

end VskLabs.Schedule

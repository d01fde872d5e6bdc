import VskLabs.Schedule.Conduct

/-! Occurrences of one policy. Their leases are kept per job, so two of them
exclude each other only as far as their windows do. -/

namespace VskLabs.Schedule
open Library ScheduleRepository

variable {config : ScheduleConfig}

/-! ### Windows and leases along a history -/

/-- A claim by a policy that catches up, or by another revision, does not overlap
what is recorded for its policy. -/
def Separate (record : Record config) : Prop :=
  ∀ claim, record.event.call = .claimOccurrence claim → ∀ occurrence ∈ record.before.occurrences.rows,
    occurrence.policyID = claim.policy.policyID →
      (occurrence.policyRevision ≠ claim.policy.revision ∨ claim.policy.catchUp = .latest) →
        (occurrence.policyRevision = claim.policy.revision ∧ occurrence.scheduledAt = claim.scheduledAt.second) ∨
          occurrence.windowClosesAt ≤ claim.scheduledAt.second ∨ claim.windowClosesAt.second ≤ occurrence.scheduledAt

def Occurs (journal : Journal) (occurrence : OccurrenceRow) : Prop :=
  ∃ row ∈ journal.activations.rows, row.key = (occurrence.policyID, occurrence.policyRevision) ∧
    canonicalPolicy row.policy = true ∧ ∃ observedAt slot, Falls row.policy observedAt slot ∧
      occurrence.scheduledAt = slot.scheduledAt.second ∧
      (occurrence.windowClosesAt = slot.windowClosesAt.second ∨ row.policy.catchUp = .latest)

structure Windowed (journal : Journal) (history : List (Record config)) : Prop where
  leased : ∀ lease ∈ journal.leases.rows, ∃ occurrence ∈ journal.occurrences.rows, occurrence.jobID = lease.jobID ∧
    lease.expiresAt = occurrence.windowClosesAt
  heard : ∀ record ∈ history, Heard journal record.event
  begun : ∀ occurrence ∈ journal.occurrences.rows, ∃ record ∈ history, ∃ instant : Instant,
    record.event = ⟨.clock, instant⟩ ∧ ofSecond occurrence.scheduledAt ≤ instant
  occurs : ∀ occurrence ∈ journal.occurrences.rows, Occurs journal occurrence
  apart : ∀ first ∈ journal.occurrences.rows, ∀ second ∈ journal.occurrences.rows, first.policyID = second.policyID →
    first = second ∨ first.windowClosesAt ≤ second.scheduledAt ∨ second.windowClosesAt ≤ first.scheduledAt

variable {journal after : Journal} {thread : Nat}

theorem Windowed.heard_cons {history : List (Record config)} {record : Record config} (windowed : Windowed journal history)
    (grows : Grows journal after) (heard : Heard after record.event) : ∀ old ∈ record :: history, Heard after old.event :=
  List.forall_mem_cons.mpr ⟨heard, fun old member => (windowed.heard old member).grow grows⟩

theorem Windowed.told {history : List (Record config)} {query : Call} {reply : Reply query} (windowed : Windowed journal history)
    (seen : Saw (eventsOf thread history) query reply) : Heard journal ⟨query, reply⟩ := by
  obtain ⟨record, member, _, same⟩ := mem_eventsOf seen
  exact same ▸ windowed.heard record member

theorem Windowed.keep {history : List (Record config)} {record : Record config}
    (windowed : Windowed journal history) (occurrences : after.occurrences = journal.occurrences)
    (grows : Grows journal after) (heard : Heard after record.event)
    (leased : ∀ lease ∈ after.leases.rows, ∃ occurrence ∈ journal.occurrences.rows, occurrence.jobID = lease.jobID ∧
      lease.expiresAt = occurrence.windowClosesAt) : Windowed after (record :: history) := by
  refine ⟨?_, windowed.heard_cons grows heard, ?_, ?_, ?_⟩
  · rw [occurrences]
    exact leased
  · rw [occurrences]
    intro occurrence present
    obtain ⟨entry, member, facts⟩ := windowed.begun occurrence present
    exact ⟨entry, .tail _ member, facts⟩
  · rw [occurrences]
    intro occurrence present
    obtain ⟨row, enrolled, facts⟩ := windowed.occurs occurrence present
    exact ⟨row, grows.activations enrolled, facts⟩
  · rw [occurrences]
    exact windowed.apart

theorem ofSecond_second_le (instant : Instant) : ofSecond instant.second ≤ instant := by
  unfold ofSecond Instant.second nanoseconds
  lia

theorem second_mono {early late : Instant} (before : early ≤ late) : early.second ≤ late.second :=
  Int.ediv_le_ediv (by decide) before

variable {occurrence : OccurrenceRow}

theorem Occurs.apart {claim : OccurrenceClaim}
    (occurs : Occurs journal occurrence) {row : ActivationRow} (enrolled : row ∈ journal.activations.rows)
    (ofClaim : row.policy = claim.policy) (canonical : canonicalPolicy claim.policy = true)
    (falls : Falls claim.policy observedAt slot) (scheduled : claim.scheduledAt = slot.scheduledAt)
    (closes : claim.windowClosesAt = slot.windowClosesAt ∨ claim.policy.catchUp = .latest)
    (ofPolicy : occurrence.policyID = claim.policy.policyID) (ofRevision : occurrence.policyRevision = claim.policy.revision)
    (punctual : claim.policy.catchUp ≠ .latest) (different : occurrence.scheduledAt ≠ claim.scheduledAt.second) :
    occurrence.windowClosesAt ≤ claim.scheduledAt.second ∨ claim.windowClosesAt.second ≤ occurrence.scheduledAt := by
  obtain ⟨other, known, key, _, time, old, fell, wasScheduled, wasClosing⟩ := occurs
  have same : other = row := List.inj_on_of_nodup_map journal.activations.distinct known enrolled (by
    rw [key, ofPolicy, ofRevision, ← ofClaim]; rfl)
  subst same
  rw [ofClaim] at fell wasClosing
  have closing := wasClosing.resolve_right punctual
  rcases fell.apart falls canonical with equal | before | after
  · exact absurd (by rw [wasScheduled, scheduled, equal]) different
  · left
    rw [closing, scheduled]
    exact second_mono before
  · right
    rw [closes.resolve_right punctual, wasScheduled]
    exact second_mono after

theorem Windowed.claim {history : List (Record config)} {claim : OccurrenceClaim} {record : Record config}
    {jobID : String} {now : Time} {occurrences : Table OccurrenceRow.jobID} {transitions : List TransitionRow}
    (windowed : Windowed journal history) (kept : ∀ row ∈ journal.occurrences.rows, row ∈ occurrences.rows)
    (origin : ∀ row ∈ occurrences.rows, row ∈ journal.occurrences.rows ∨
      row = offered jobID claim now ∧ ∀ old ∈ journal.occurrences.rows, old.policyID = row.policyID →
        old.policyRevision = row.policyRevision → old.scheduledAt ≠ row.scheduledAt)
    (founded : Founded config (eventsOf thread history) (.claimOccurrence claim))
    (called : record.event.call = .claimOccurrence claim) (before : record.before = journal) (separate : Separate record)
    (heard : Heard { journal with occurrences := occurrences, transitions := transitions } record.event) :
    Windowed { journal with occurrences := occurrences, transitions := transitions } (record :: history) := by
  obtain ⟨instant, policyID, slot, clocked, read, falls, scheduled, closes⟩ := founded
  obtain ⟨reading, seen, _, clock⟩ := mem_eventsOf clocked
  obtain ⟨row, enrolled, ofClaim, _, canonical⟩ := windowed.told read
  have past := falls.past canonical
  rw [Separate, before] at separate
  -- the new row against a recorded one of its policy
  have disjoint : ∀ old ∈ journal.occurrences.rows, old.policyID = claim.policy.policyID →
      (old.policyRevision = claim.policy.revision → old.scheduledAt ≠ claim.scheduledAt.second) →
        old.windowClosesAt ≤ claim.scheduledAt.second ∨ claim.windowClosesAt.second ≤ old.scheduledAt := by
    intro old present ofPolicy different
    by_cases plain : old.policyRevision = claim.policy.revision ∧ claim.policy.catchUp ≠ .latest
    · exact (windowed.occurs old present).apart enrolled ofClaim canonical falls scheduled closes ofPolicy plain.1 plain.2
        (different plain.1)
    have unusual : old.policyRevision ≠ claim.policy.revision ∨ claim.policy.catchUp = .latest := by
      rcases Classical.not_and_iff_not_or_not.mp plain with other | late
      · exact .inl other
      · exact .inr (Classical.not_not.mp late)
    rcases separate claim called old present ofPolicy unusual with ⟨same, slotted⟩ | apart
    · exact absurd slotted (different same)
    · exact apart
  refine ⟨?_, windowed.heard_cons ⟨kept, fun _ => id, fun _ => id⟩ heard, ?_, ?_, ?_⟩
  · intro lease member
    obtain ⟨occurrence, present, facts⟩ := windowed.leased lease member
    exact ⟨occurrence, kept occurrence present, facts⟩
  · intro occurrence member
    rcases origin occurrence member with old | ⟨rfl, _⟩
    · obtain ⟨entry, present, facts⟩ := windowed.begun occurrence old
      exact ⟨entry, .tail _ present, facts⟩
    · refine ⟨reading, .tail _ seen, instant, clock, ?_⟩
      calc ofSecond claim.scheduledAt.second ≤ claim.scheduledAt := ofSecond_second_le _
        _ = slot.scheduledAt := scheduled
        _ ≤ ofSecond (Instant.second instant) := past
        _ ≤ instant := ofSecond_second_le _
  · intro occurrence member
    rcases origin occurrence member with old | ⟨rfl, _⟩
    · exact windowed.occurs occurrence old
    · refine ⟨row, enrolled, by rw [ActivationRow.key, ofClaim]; rfl, ofClaim ▸ canonical, _, slot, ofClaim ▸ falls, ?_, ?_⟩
      · exact congrArg Instant.second scheduled
      · rw [ofClaim]
        exact closes.imp_left (congrArg Instant.second)
  · intro first member second also ofPolicy
    rcases origin first member with old | ⟨rfl, mine⟩
    · rcases origin second also with older | ⟨rfl, mine⟩
      · exact windowed.apart first old second older ofPolicy
      · exact .inr (disjoint first old ofPolicy (mine first old ofPolicy))
    · rcases origin second also with old | ⟨rfl, _⟩
      · exact .inr (disjoint second old ofPolicy.symm (mine second old ofPolicy.symm)).symm
      · exact .inl rfl

theorem Windowed.step {earlier : List (Record config)} {query : Call} {reply : Reply query}
    (windowed : Windowed journal earlier) (founded : Founded config (eventsOf thread earlier) query)
    (effect : Effect config query reply journal after)
    (separate : Separate (⟨thread, ⟨query, reply⟩, journal, after⟩ : Record config)) :
    Windowed after ((⟨thread, ⟨query, reply⟩, journal, after⟩ : Record config) :: earlier) := by
  have fewer : ∀ (ended : OccurrenceLeaseRow → Bool), ∀ lease ∈ (journal.leases.delete ended).rows,
      ∃ occurrence ∈ journal.occurrences.rows, occurrence.jobID = lease.jobID ∧
        lease.expiresAt = occurrence.windowClosesAt :=
    fun _ lease member => windowed.leased lease (Table.mem_delete.mp member).1
  have grows := effect.grows
  have heard := effect.heard
  cases effect with
  | claimed claim now occurrences called kept origin =>
    cases called
    exact windowed.claim kept origin founded rfl rfl separate heard
  | leased lease leases called added =>
    cases called
    refine windowed.keep rfl grows heard fun other member => ?_
    simp only [(Table.insert?_eq_some added).2, List.mem_append, List.mem_singleton] at member
    rcases member with old | rfl
    · exact fewer _ other old
    · exact windowed.told founded -- the lease ends with the window its call has read
  | released | lapsed => exact windowed.keep rfl grows heard (fewer _)
  | nothing | moved | appended | advanced | activated => exact windowed.keep rfl grows heard windowed.leased

theorem Windowed.fresh (activations : Table ActivationRow.key) (revision : Revision) :
    Windowed (Journal.fresh activations revision) ([] : List (Record config)) := by
  have nowhere {row : OccurrenceRow} (present : row ∈ (Journal.fresh activations revision).occurrences.rows) : False :=
    List.not_mem_nil present
  exact ⟨fun _ member => absurd member List.not_mem_nil, by simp, fun _ present => (nowhere present).elim,
    fun _ present => (nowhere present).elim, fun _ present => (nowhere present).elim⟩

theorem Windowed.of_run {activations : Table ActivationRow.key} {revision : Revision}
    {actions : List (Action (world config) Operation)} {last : System (world config)}
    (ran : operate config (.fresh activations revision) actions = some last)
    (separate : ∀ record ∈ last.history, Separate record) : Windowed last.state last.history := by
  refine System.Linked.invariant (Windowed.fresh activations revision) ?_ (System.Linked.of_boot ran)
    (System.along_and (operate_founded ran) separate)
  rintro earlier record windowed ⟨⟨_, founded, choice, answered⟩, apart⟩
  exact windowed.step founded (respond_effect answered) apart

/-! ### One running occurrence per policy -/

def Occupied (journal : Journal) (now : Instant) (occurrence : OccurrenceRow) : Prop :=
  occurrence ∈ journal.occurrences.rows ∧ journal.statusOf occurrence.jobID = some .running ∧
    ∃ lease ∈ journal.leases.rows, lease.jobID = occurrence.jobID ∧ now < ofSecond lease.expiresAt

def Present (history : List (Record config)) (now : Instant) : Prop :=
  ∀ record ∈ history, ∀ instant : Instant, record.event = ⟨.clock, instant⟩ → instant ≤ now

variable {now : Instant}

theorem Windowed.released {history : List (Record config)} (windowed : Windowed journal history)
    (present : Present history now) {first second : OccurrenceRow} (occupied : Occupied journal now first)
    (also : second ∈ journal.occurrences.rows) (before : first.windowClosesAt ≤ second.scheduledAt) : False := by
  obtain ⟨inside, _, lease, held, mine, live⟩ := occupied
  obtain ⟨occurrence, housed, same, expires⟩ := windowed.leased lease held
  obtain rfl := List.inj_on_of_nodup_map journal.occurrences.distinct housed inside (same.trans mine)
  obtain ⟨record, member, instant, read, begun⟩ := windowed.begun second also
  have late := present record member instant read
  rw [expires] at live
  unfold ofSecond nanoseconds at live begun
  lia

/-- In every interleaving in which no claim of a catching-up policy or of another
revision overlaps a recorded window, at most one occurrence of a policy runs
under a lease that is not over. -/
theorem one_occurrence_runs_per_policy (config : ScheduleConfig) (activations : Table ActivationRow.key) (revision : Revision)
    {actions : List (Action (world config) Operation)} {last : System (world config)}
    (ran : operate config (.fresh activations revision) actions = some last)
    (separate : ∀ record ∈ last.history, Separate record) {now : Instant} (present : Present last.history now)
    {first second : OccurrenceRow} (occupied : Occupied last.state now first) (also : Occupied last.state now second)
    (samePolicy : first.policyID = second.policyID) : first = second := by
  have windowed := Windowed.of_run ran separate
  rcases windowed.apart first occupied.1 second also.1 samePolicy with same | before | after
  · exact same
  · exact (windowed.released present occupied also.1 before).elim
  · exact (windowed.released present also occupied.1 after).elim

/-! Two slots of the hourly policy. -/

def slotConfig : ScheduleConfig := { sampleConfig with jobID := fun policyID _ scheduledAt => policyID ++ "-" ++ toString scheduledAt }

def started (thread : Nat) (token : String) (now : Time) : List (Action (world slotConfig) Operation) :=
  [.spawn (.dispatchAndRun (wakeup token now) localRunner)] ++
    hear thread (undisturbed now ++ [accepted now, accepted now, .clock (ofSecond now)] ++ attempted token now now)

/-- The first slot is caught up with at 6100 and runs on when the next one starts at 7210. -/
def caughtUp : List (Action (world slotConfig) Operation) := started 0 "first" 6100 ++ started 1 "second" 7210

def catchingUp : Journal := wideJournal { widePolicy with catchUp := .latest }

def occupiedAt (journal : Journal) (now : Instant) (occurrence : OccurrenceRow) : Bool :=
  journal.statusOf occurrence.jobID == some .running &&
    journal.leases.rows.any fun lease => lease.jobID == occurrence.jobID && decide (now < ofSecond lease.expiresAt)

theorem occupiedAt_spec
    (inside : occurrence ∈ journal.occurrences.rows) (checked : occupiedAt journal now occurrence = true) :
    Occupied journal now occurrence := by
  simp only [occupiedAt, checks, List.any_eq_true] at checked
  obtain ⟨running, lease, held, mine, live⟩ := checked
  exact ⟨inside, running, lease, held, mine, live⟩

def readings (history : List (Record config)) : List Instant :=
  history.filterMap fun record => match record.event with
    | ⟨.clock, instant⟩ => some instant
    | _ => none

theorem present_of_readings {history : List (Record config)}
    (checked : (readings history).all (fun instant => decide (instant ≤ now)) = true) : Present history now := by
  intro record member instant read
  have listed : instant ∈ readings history := by
    rw [readings, List.mem_filterMap]
    exact ⟨record, member, by rw [read]⟩
  exact of_decide_eq_true (List.all_eq_true.mp checked instant listed)

/-- Two occurrences of one policy run under live leases. -/
theorem caught_up_occurrence_overlaps : ∃ system, operate slotConfig catchingUp caughtUp = some system ∧
    Present system.history (ofSecond 7215) ∧ ∃ first second, Occupied system.state (ofSecond 7215) first ∧
      Occupied system.state (ofSecond 7215) second ∧ first.policyID = second.policyID ∧ first ≠ second := by
  have found : ((operate slotConfig catchingUp caughtUp).any fun system =>
      (readings system.history).all (fun instant => decide (instant ≤ ofSecond 7215)) &&
        system.state.occurrences.rows.any fun first => system.state.occurrences.rows.any fun second =>
          occupiedAt system.state (ofSecond 7215) first && occupiedAt system.state (ofSecond 7215) second &&
            first.policyID == second.policyID && decide (first ≠ second)) = true := by decide +kernel
  simp only [finds, Bool.and_eq_true, beq_iff_eq, decide_eq_true_iff] at found
  obtain ⟨system, ran, read, first, inside, second, also, ⟨⟨occupied, again⟩, samePolicy⟩, different⟩ := found
  exact ⟨system, ran, present_of_readings read, first, second, occupiedAt_spec inside occupied, occupiedAt_spec also again,
    samePolicy, different⟩

def nextSlot : List (Action (world slotConfig) Operation) := started 0 "first" 3700 ++ [.crash] ++ started 1 "second" 7210

/-- The lost occurrence is over when the next one runs. -/
theorem next_slot_runs_alone : ∃ system, operate slotConfig (wideJournal widePolicy) nextSlot = some system ∧
    (∃ occurrence, Occupied system.state (ofSecond 7215) occurrence) ∧
    ∀ first second, Occupied system.state (ofSecond 7215) first → Occupied system.state (ofSecond 7215) second →
      first.policyID = second.policyID → first = second := by
  have found : ((operate slotConfig (wideJournal widePolicy) nextSlot).any fun system =>
      (system.history.all fun record => match record.event.call with
        | .claimOccurrence claim => claim.policy.catchUp == .none &&
          record.before.occurrences.rows.all fun occurrence => occurrence.policyRevision == claim.policy.revision
        | _ => true) &&
      ((readings system.history).all (fun instant => decide (instant ≤ ofSecond 7215)) &&
        system.state.occurrences.rows.any fun occurrence => occupiedAt system.state (ofSecond 7215) occurrence)) = true := by
    decide +kernel
  simp only [finds, Bool.and_eq_true] at found
  obtain ⟨system, ran, plain, read, occurrence, inside, occupied⟩ := found
  have separate : ∀ record ∈ system.history, Separate record := by
    intro record member claim called old present _ unusual
    have punctual := List.all_eq_true.mp plain record member
    simp only [called, checks] at punctual
    rcases unusual with other | late
    · exact absurd (punctual.2 old present) other
    · rw [punctual.1] at late
      cases late
  refine ⟨system, ran, ⟨occurrence, occupiedAt_spec inside occupied⟩, ?_⟩
  intro first second
  exact one_occurrence_runs_per_policy slotConfig _ _ ran separate (present_of_readings read)

end VskLabs.Schedule

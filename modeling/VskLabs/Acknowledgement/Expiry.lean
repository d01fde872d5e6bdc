import VskLabs.Acknowledgement.SingleUse

/-! A pending request past its expiry. `Status` and `Decide` write its end as an
intent that expects the revision the request was made at. -/

namespace VskLabs.Acknowledge
open Library

/-- The rows of a request, its proof and the key of its decision agree. -/
structure Authority.Tidy (authority : Authority) : Prop where
  named : ∀ id row, authority.requests.find? id = some row → row.pending.acknowledgementID = id
  undecided : ∀ id row, authority.requests.find? id = some row → row.status = .pending → row.decidedAt = none
  unique : ∀ id other row second, authority.requests.find? id = some row → authority.requests.find? other = some second →
    row.request.planID = second.request.planID → id = other
  proven : ∀ id proof, authority.proofs.find? id = some proof → ∃ row, authority.requests.find? id = some row ∧
    row.status ≠ .pending ∧ proof.proof.proofDigest.binding = row.request.toBinding
  keyed : ∀ digest row, authority.keys.find? (.decision digest) = some row → ∃ id proof,
    authority.proofs.find? id = some proof ∧ proof.proof.proofDigest = digest

variable {query : Query} {before after authority : Authority}

theorem Changes.tidy (changes : Changes query before after)
    (sealed : ∀ record, query = .decide record → record.outcome.proofDigest.binding = record.expected.toBinding)
    (tidy : before.Tidy) : after.Tidy := by
  obtain ⟨named, undecided, unique, proven, keyed⟩ := tidy
  cases changes with
  | kept same proofs =>
    obtain ⟨proofs, keys⟩ := proofs
    constructor <;> grind
  | requested row pending undecided unused named fresh unplanned rows proofs =>
    obtain ⟨proofs, keys⟩ := proofs
    have absent : ∀ id old, before.requests.find? id = some old → old.request.planID ≠ row.request.planID :=
      fun id old found => unplanned old (Table.mem_of_find? found)
    clear unplanned
    constructor <;> grind
  | decided record row asked found expected pending ends unused rows proofs keys =>
    have digest := sealed record asked
    have proof := proofs row.acknowledgementID
    constructor <;> grind [RequestRow.settled]
  | consumed time selected approved rows proofs =>
    obtain ⟨proofs, keys⟩ := proofs
    -- only the time of the consumption is new, which `Tidy` does not mention
    have carried : ∀ id old, before.requests.find? id = some old → ∃ row, after.requests.find? id = some row ∧
        row.pending = old.pending ∧ row.request = old.request ∧ row.status = old.status ∧ row.decidedAt = old.decidedAt := by
      intro id old found
      cases chosen : selected old <;> simp [rows, found, chosen]
    have origin : ∀ id row, after.requests.find? id = some row → ∃ old, before.requests.find? id = some old := by
      intro id row found
      rw [rows, Option.map_eq_some_iff] at found
      obtain ⟨old, found, _⟩ := found
      exact ⟨old, found⟩
    clear rows
    constructor <;> grind

variable {config : Config} {plans : Table Plan.planID} {stateRevision recoveryEpoch : Int}
  {actions : List (Action office Operation)} {system : System office}

theorem execute_tidy (ran : execute config (.fresh plans stateRevision recoveryEpoch) actions = some system) :
    system.state.Tidy := by
  refine execute_keeps ran (by constructor <;> simp [Authority.fresh]) ?_
  intro earlier entry tidy admitted
  obtain ⟨reaction, answered⟩ := admitted.answered
  refine (answer_changes answered).1.tidy ?_ tidy
  intro record asked
  have permitted := admitted.permitted
  rw [Permitted, asked] at permitted
  rw [permitted.1]
  rfl

/-! ### Calls on a healthy store -/

/-- Nothing happens between the queries of the call, and its clock shows these times. -/
def undisturbed (ask : Ask) (state : List Time × Authority) : Option (Response ask × (List Time × Authority)) :=
  match ask with
  | ⟨_, .clock⟩ =>
    match state.1 with
    | now :: later => some (now, later, state.2)
    | [] => none
  | ⟨_, query⟩ => (answer query (.store .none) state.2).map fun outcome => (outcome.1, state.1, outcome.2)

def Authority.Expired (authority : Authority) (planID : String) : Prop :=
  ∃ stored, Repository.get authority planID = .ok stored ∧ stored.acknowledgement.status = .expired

/-- At this time `Status` ends the request and says so. -/
def StatusTerminalizes (authority : Authority) (planID : String) (now : Time) : Prop :=
  ∀ context, ∃ outcome after, (status context planID).eval undisturbed ([now], authority) = some (.ok outcome, [], after) ∧
    outcome.status = .expired ∧ after.Expired planID

/-- At this time `Decide` ends the request and denies the candidate for good. -/
def DecideTerminalizes (config : Config) (authority : Authority) (candidate : Candidate) (now rejectedAt : Time) : Prop :=
  ∀ context, ∃ rest after, (Acknowledge.decide config context candidate).eval undisturbed ([now, rejectedAt], authority) =
    some (.error (.coded .planStale "acknowledgement-terminal-denial"), rest, after) ∧ after.Expired candidate.planID

theorem Authority.not_expired {planID : String} {stored : Stored} (read : Repository.get authority planID = .ok stored)
    (pending : stored.acknowledgement.status = .pending) : ¬ authority.Expired planID := by
  rintro ⟨other, again, expired⟩
  cases read.symm.trans again
  cases pending.symm.trans expired

theorem get_congr {planID : String} (requests : after.requests = before.requests) (proofs : after.proofs = before.proofs) :
    Repository.get after planID = Repository.get before planID := by
  rw [Repository.get, Repository.get, requests, proofs]

section Pending

variable {row : RequestRow} (tidy : authority.Tidy) (found : authority.requests.find? row.acknowledgementID = some row)
  (pending : row.status = .pending)
include tidy found pending

theorem Authority.Tidy.unproven : authority.proofs.find? row.acknowledgementID = none := by
  rcases Option.eq_none_or_eq_some (authority.proofs.find? row.acknowledgementID) with absent | ⟨proof, held⟩
  · exact absent
  · obtain ⟨same, stored, settled, _⟩ := tidy.proven _ proof held
    rw [found] at stored
    cases stored
    exact absurd pending settled

theorem Authority.Tidy.fresh {id : String} {proof : ProofRow} (held : authority.proofs.find? id = some proof) :
    proof.proof.proofDigest.binding ≠ row.request.toBinding := by
  intro same
  obtain ⟨other, stored, settled, sealed⟩ := tidy.proven id proof held
  have here := tidy.unique _ _ _ _ found stored (congrArg Binding.planID (same.symm.trans sealed))
  rw [← here, found] at stored
  cases stored
  exact settled pending

theorem Authority.Tidy.unkeyed {digest : ProofDigest} (sealed : digest.binding = row.request.toBinding) :
    authority.keys.find? (.decision digest) = none := by
  rcases Option.eq_none_or_eq_some (authority.keys.find? (.decision digest)) with absent | ⟨key, held⟩
  · exact absent
  · obtain ⟨id, proof, present, rfl⟩ := tidy.keyed _ key held
    exact absurd sealed (tidy.fresh found pending present)

/-- Nothing but the revision can keep a decision about a pending request away. -/
theorem decide_pending (proper : authority.Proper) {record : DecisionRecord} (expected : record.expected = row.request)
    (id : record.outcome.acknowledgementID = row.acknowledgementID)
    (sealed : record.outcome.proofDigest.binding = row.request.toBinding) (ends : record.outcome.status ≠ .pending)
    (revision : authority.store.stateRevision = row.request.stateRevision)
    (epoch : authority.store.recoveryEpoch = row.request.recoveryEpoch) :
    ∃ after, Repository.decide authority record = .ok (true, after) ∧
      after.proofs.find? row.acknowledgementID = some ⟨row.acknowledgementID, record.outcome⟩ ∧
      (∀ attempt, after.keys.find? (.denial attempt) = authority.keys.find? (.denial attempt)) ∧
      after.requests.rows = authority.requests.rows.map fun other => if other.acknowledgementID = row.acknowledgementID then
        other.settled record.outcome.status record.decidedAt else other := by
  have unkeyed := tidy.unkeyed found pending sealed
  obtain ⟨proofs, proven⟩ := Option.isSome_iff_exists.mp (Table.insert?_isSome_iff.mpr (tidy.unproven found pending) :
    (authority.proofs.insert? ⟨row.acknowledgementID, record.outcome⟩).isSome)
  obtain ⟨keys, keyed⟩ := Option.isSome_iff_exists.mp (Table.insert?_isSome_iff.mpr unkeyed :
    (authority.keys.insert? ⟨.decision record.outcome.proofDigest, .decision record.outcome⟩).isSome)
  have alone : ∀ other ∈ authority.requests.rows, other.acknowledgementID = row.acknowledgementID → other = row :=
    fun other inside => List.inj_on_of_nodup_map authority.requests.distinct inside (Table.mem_of_find? found)
  have unused : row.consumedAt = none := by
    by_contra used
    cases pending.symm.trans (proper _ _ found used)
  have allowed : ∀ other ∈ authority.requests.rows, (!(other.acknowledgementID == row.acknowledgementID &&
      other.status == .pending) || validTransition other
        { other with status := record.outcome.status, decidedAt := some record.decidedAt }) = true := by
    intro other inside
    by_cases here : other.acknowledgementID = row.acknowledgementID
    · rw [alone other inside here]
      simp [validTransition, pending, tidy.undecided _ _ found pending, unused, ends]
    · simp [here]
  have fresh : ∀ proof ∈ authority.proofs.rows, (proof.proof.proofDigest != record.outcome.proofDigest) = true := by
    intro proof inside
    refine bne_iff_ne.mpr fun same => tidy.fresh found pending (Table.find?_eq_some_iff.mpr ⟨inside, rfl⟩) ?_
    rw [same, sealed]
  refine ⟨⟨authority.store, authority.requests.modify
    (fun other => other.acknowledgementID == row.acknowledgementID && other.status == .pending)
    (fun other => { other with status := record.outcome.status, decidedAt := some record.decidedAt }) fun _ => rfl,
    proofs, keys⟩, ?_, ?_, ?_, ?_⟩
  · simp only [Repository.decide, executeIntent, bind_eq_ok, ensure_eq_ok, unkeyed, expected, id, updateRequests,
      require_eq_ok, pure_eq_ok]
    exact ⟨(), by simp [epoch], (), by simp [revision], _, ⟨row, found, (), by simp [pending], _,
      ⟨(), List.all_eq_true.mpr allowed, rfl⟩, (), List.all_eq_true.mpr fresh, proofs, proven, rfl⟩, keys, keyed, rfl⟩
  · exact (Table.find?_insert? proven _).trans (if_pos rfl)
  · exact fun attempt => (Table.find?_insert? keyed _).trans (if_neg (by simp))
  · refine List.map_congr_left fun other inside => ?_
    by_cases here : other.acknowledgementID = row.acknowledgementID
    · rw [alone other inside here]
      simp [pending, RequestRow.settled]
    · simp [here]

end Pending

variable {planID : String} {stored : Stored} {now : Time} {context : Operation} {times : List Time}

theorem get_pending (read : Repository.get authority planID = .ok stored)
    (pending : stored.acknowledgement.status = .pending) :
    ∃ row, authority.requests.rows.find? (fun row => row.request.planID == planID) = some row ∧ row.status = .pending ∧
      planID ≠ "" ∧ stored = ⟨row.request, row.pending, row.consumedAt.isSome⟩ ∧ exactRequest stored.request = true ∧
      exactAcknowledgement stored.acknowledgement = true := by
  simp only [Repository.get, bind_eq_ok, ensure_eq_ok, require_eq_ok, pure_eq_ok, Bool.and_eq_true, beq_iff_eq,
    bne_iff_ne] at read
  obtain ⟨_, named, row, found, _, exact, outcome, chosen, _, ⟨valid, same⟩, rfl⟩ := read
  have waits : row.status = .pending := same.symm.trans pending
  rw [if_pos waits] at chosen
  cases chosen
  exact ⟨row, found, waits, named, rfl, exact, valid⟩

def expiryOf (stored : Stored) (now : Time) : DecisionRecord :=
  ⟨stored.request, outcomeFrom stored.request stored.acknowledgement.acknowledgementID .expired now
    (proofDigest stored.request .expired now), now, expiryPrincipalID⟩

theorem exactAcknowledgement_expiry (request : exactRequest stored.request = true)
    (acknowledgement : exactAcknowledgement stored.acknowledgement = true) :
    exactAcknowledgement (expiryOf stored now).outcome = now.fourDigitYear := by
  have unextended : validExtensions [] = true := rfl
  simp only [exactRequest, exactAcknowledgement, Bool.and_eq_true] at request acknowledgement
  simp [expiryOf, outcomeFrom, exactAcknowledgement, request, acknowledgement, unextended]

/-- What the end of a request depends on: the revision and the epoch it was made
at are still current, and the time can be written. -/
structure Endable (authority : Authority) (stored : Stored) (now : Time) : Prop where
  revision : authority.store.stateRevision = stored.request.stateRevision
  epoch : authority.store.recoveryEpoch = stored.request.recoveryEpoch
  set : now.isZero = false
  dated : now.fourDigitYear = true

theorem exactRequest_planID {request : AcknowledgementRequest} (exact : exactRequest request = true) :
    validRunToken request.planID = true := by
  simp only [exactRequest, exactBinding, List.all_cons, Bool.and_eq_true] at exact
  tauto

theorem exactAcknowledgement_named {outcome : Acknowledgement} (exact : exactAcknowledgement outcome = true) :
    outcome.acknowledgementID ≠ "" := by
  intro unnamed
  simp [exactAcknowledgement, unnamed, show validRunToken "" = false by decide] at exact

@[simp] theorem undisturbed_put {α : Type} {query : Query} {next : query.Reply → Work α} {state : List Time × Authority} :
    (@bind Work _ (no_index query.Reply) α (put context query) next).eval undisturbed state =
      (undisturbed ⟨context, query⟩ state).bind fun outcome => (next outcome.1).eval undisturbed outcome.2 := rfl

theorem expire_undisturbed (exact : exactRequest stored.request = true)
    (valid : exactAcknowledgement stored.acknowledgement = true) :
    (expire context stored now).eval undisturbed (times, authority) =
      if now.isZero || !now.fourDigitYear then
        some (.error (.coded .inputInvalid "acknowledgement-decision"), times, authority)
      else match Repository.decide authority (expiryOf stored now) with
        | .error failure => some (.error failure, times, authority)
        | .ok (changed, after) => match Repository.get after stored.request.planID with
          | .error failure => some (.error failure, times, after)
          | .ok last =>
            if !changed && last.acknowledgement.status != .expired then
              some (.error (.coded .planStale "acknowledgement"), times, after)
            else some (.ok last, times, after) := by
  have checked : ((expiryOf stored now).decidedAt.isZero ||
      (expiryOf stored now).principalID != (expiryOf stored now).expectedPrincipalID ||
      !Repository.validDecision (expiryOf stored now)) = (now.isZero || !now.fourDigitYear) := by
    rw [Repository.validDecision, exactAcknowledgement_expiry exact valid]
    simp [expiryOf, outcomeFrom, DecisionRecord.expectedPrincipalID, exact, show (Standing.expired != .pending) = true from rfl]
  change (decideRequest context (expiryOf stored now) >>= _).eval undisturbed (times, authority) = _
  rw [decideRequest, checked]
  split
  · rfl
  simp only [Program.bind_bind, undisturbed_put, undisturbed, answer, commit, Option.map_some, Option.bind_some]
  cases done : Repository.decide authority (expiryOf stored now) with
  | error failure => rfl
  | ok outcome =>
    simp only [Program.bind_bind, undisturbed_put, undisturbed, answer, readState, Option.map_some, Option.bind_some]
    change _ = match Repository.get outcome.2 (expiryOf stored now).expected.planID with | .error failure => _ | .ok last => _
    cases Repository.get outcome.2 (expiryOf stored now).expected.planID with
    | error failure => rfl
    | ok last =>
      simp only [Program.return_bind]
      split <;> rfl

theorem expire_ends (tidy : authority.Tidy) (proper : authority.Proper) (read : Repository.get authority planID = .ok stored)
    (pending : stored.acknowledgement.status = .pending) (endable : Endable authority stored now) :
    ∃ last after, (expire context stored now).eval undisturbed (times, authority) = some (.ok last, times, after) ∧
      last.acknowledgement.status = .expired ∧ Repository.get after planID = .ok last ∧
      ∀ attempt, after.keys.find? (.denial attempt) = authority.keys.find? (.denial attempt) := by
  obtain ⟨row, first, waits, nonempty, whole, exact, valid⟩ := get_pending read pending
  have request : stored.request = row.request := whole ▸ rfl
  have named : row.request.planID = planID := by simpa using List.find?_some first
  have found : authority.requests.find? row.acknowledgementID = some row :=
    Table.find?_eq_some_iff.mpr ⟨List.mem_of_find?_eq_some first, rfl⟩
  have id : stored.acknowledgement.acknowledgementID = row.acknowledgementID := whole ▸ tidy.named _ _ found
  obtain ⟨after, done, proof, denials, rows⟩ := @decide_pending _ _ tidy found waits proper (expiryOf stored now) request id
    (congrArg AcknowledgementRequest.toBinding request) nofun (request ▸ endable.revision) (request ▸ endable.epoch)
  have moved : after.requests.rows.find? (fun row => row.request.planID == planID) = some (row.settled .expired now) := by
    rw [rows, List.find?_map]
    have same : ∀ other : RequestRow, (if other.acknowledgementID = row.acknowledgementID then other.settled .expired now
        else other).request = other.request := by
      intro other
      split <;> rfl
    simp only [Function.comp_def, expiryOf, outcomeFrom, same, first, Option.map_some, if_true]
  have written := (exactAcknowledgement_expiry exact valid).trans endable.dated
  have reread : Repository.get after planID = .ok ⟨row.request, (expiryOf stored now).outcome, row.consumedAt.isSome⟩ := by
    simp only [Repository.get, moved, bind_eq_ok, ensure_eq_ok, require_eq_ok, pure_eq_ok]
    exact ⟨(), by simpa using nonempty, _, rfl, (), request ▸ exact, _, by simp [RequestRow.settled, proof], (),
      by simp [written]; rfl, rfl⟩
  refine ⟨_, after, ?_, rfl, reread, denials⟩
  simp only [expire_undisturbed exact valid, endable.set, endable.dated, done, request, named, reread]
  rfl

theorem expire_fails_or_endable (context : Operation) (times : List Time) (exact : exactRequest stored.request = true)
    (valid : exactAcknowledgement stored.acknowledgement = true) :
    (∃ failure, (expire context stored now).eval undisturbed (times, authority) = some (.error failure, times, authority)) ∨
      Endable authority stored now := by
  rw [expire_undisturbed exact valid]
  split
  · exact .inl ⟨_, rfl⟩
  next checked =>
  cases done : Repository.decide authority (expiryOf stored now) with
  | error failure => exact .inl ⟨failure, rfl⟩
  | ok outcome =>
    simp only [Repository.decide, executeIntent, bind_eq_ok, ensure_eq_ok, Option.all_some, beq_iff_eq] at done
    obtain ⟨_, epoch, _, revision, _⟩ := done
    simp only [Bool.or_eq_true, Bool.not_eq_true', not_or, Bool.not_eq_true, Bool.not_eq_false] at checked
    exact .inr ⟨revision.symm, epoch.symm, checked.1, checked.2⟩

theorem status_undisturbed (read : Repository.get authority planID = .ok stored)
    (pending : stored.acknowledgement.status = .pending) (elapsed : stored.request.expiresAt ≤ now)
    (valid : validRunToken planID = true) :
    (status context planID).eval undisturbed ([now], authority) =
      ((expire context stored now).eval undisturbed ([], authority)).map fun outcome =>
        (outcome.1.map Stored.acknowledgement, outcome.2) := by
  have due : (stored.acknowledgement.status == .pending && Decidable.decide (stored.request.expiresAt ≤ now)) = true := by
    simp [pending, elapsed]
  simp only [status, valid, undisturbed_put, undisturbed, answer, readState, read, Option.map_some, Option.bind_some, due,
    Bool.not_true, Bool.false_eq_true, if_false, if_true]
  rw [Program.eval_bind]
  cases (expire context stored now).eval undisturbed ([], authority) with
  | none => rfl
  | some outcome =>
    obtain ⟨result, rest⟩ := outcome
    cases result <;> rfl

/-- What the record of a denial depends on: the human can be attributed, the time
is set, and the same candidate was never denied for another reason. -/
@[mk_iff] structure Deniable (config : Config) (authority : Authority) (candidate : Candidate) (code : ErrorCode) (rejectedAt : Time) :
    Prop where
  attributed : attributable candidate.human = true
  set : rejectedAt.isZero = false
  agreed : ∀ row, authority.keys.find? (.denial (.candidate candidate.action (candidate.binding config))) = some row →
    row.digest = .denial code

theorem get_named (read : Repository.get authority planID = .ok stored) (pending : stored.acknowledgement.status = .pending) :
    stored.request.planID ≠ "" ∧ stored.acknowledgement.acknowledgementID ≠ "" := by
  obtain ⟨row, first, _, nonempty, whole, _, valid⟩ := get_pending read pending
  have named : stored.request.planID = planID := by simpa [whole] using List.find?_some first
  exact ⟨named ▸ nonempty, exactAcknowledgement_named valid⟩

theorem recordDenial_succeeds_iff {record : DenialRecord} (target : record.targetID ≠ "") (card : record.correlationID ≠ "") :
    (∃ outcome, Repository.recordDenial authority record = .ok outcome) ↔ record.rejectedAt.isZero = false ∧
      ∀ row, authority.keys.find? (.denial record.attempt) = some row → row.digest = .denial record.reason := by
  cases held : authority.keys.find? (.denial record.attempt) with
  | some row =>
    simp only [Repository.recordDenial, executeIntent, held, peel, checks]
    simp [target, card]
  | none =>
    obtain ⟨keys, keyed⟩ := Option.isSome_iff_exists.mp (Table.insert?_isSome_iff.mpr held :
      (authority.keys.insert? ⟨.denial record.attempt, .denial record.reason⟩).isSome)
    simp only [Repository.recordDenial, executeIntent, held, peel, checks]
    simp [target, card, keyed]

theorem denyCandidate_undisturbed (context : Operation) (authority : Authority) (candidate : Candidate)
    (code : ErrorCode) (rejectedAt : Time)
    (times : List Time) (target : stored.request.planID ≠ "") (card : stored.acknowledgement.acknowledgementID ≠ "") :
    ∃ failure rest later, (denyCandidate config context stored candidate (some code)).eval undisturbed
        (rejectedAt :: times, authority) = some (failure, rest, later) ∧
      later.requests = authority.requests ∧ later.proofs = authority.proofs ∧
      (failure = .coded code "acknowledgement-terminal-denial" ↔ Deniable config authority candidate code rejectedAt) := by
  unfold denyCandidate
  dsimp only
  split
  next unattributed =>
    exact ⟨_, _, _, rfl, rfl, rfl, by simp, fun deniable => by simp [deniable.attributed] at unattributed⟩
  next attributed =>
  simp only [undisturbed_put, undisturbed, answer, commit, Option.map_some, Option.bind_some, Option.getD_some]
  have succeeds := @recordDenial_succeeds_iff authority ⟨stored.request.planID, stored.acknowledgement.acknowledgementID,
    .candidate candidate.action (candidate.binding config), code, rejectedAt⟩ target card
  cases done : Repository.recordDenial authority ⟨stored.request.planID, stored.acknowledgement.acknowledgementID,
      .candidate candidate.action (candidate.binding config), code, rejectedAt⟩ with
  | error failure =>
    refine ⟨_, _, _, rfl, rfl, rfl, by simp, fun deniable => ?_⟩
    obtain ⟨outcome, recorded⟩ := succeeds.mpr ⟨deniable.set, deniable.agreed⟩
    cases done.symm.trans recorded
  | ok outcome =>
    obtain ⟨requests, proofs, _⟩ := recordDenial_keeps done
    obtain ⟨set, agreed⟩ := succeeds.mp ⟨outcome, done⟩
    exact ⟨_, _, _, rfl, requests, proofs.proofs, fun _ => ⟨by simpa using attributed, set, agreed⟩, fun _ => rfl⟩

/-- `Decide` of a candidate that names the elapsed request. -/
theorem decide_undisturbed {candidate : Candidate} {rejectedAt : Time}
    (read : Repository.get authority candidate.planID = .ok stored) (pending : stored.acknowledgement.status = .pending)
    (elapsed : stored.request.expiresAt ≤ now) (valid : validCandidate candidate = true)
    (names : candidateMatchesRequest config candidate stored.request = true) :
    (Acknowledge.decide config context candidate).eval undisturbed ([now, rejectedAt], authority) =
      ((expire context stored now).eval undisturbed ([rejectedAt], authority)).bind fun outcome =>
        match outcome.1 with
        | .error failure => some (.error failure, outcome.2)
        | .ok _ => ((denyCandidate config context stored candidate (some .planStale)).eval undisturbed outcome.2).map
          fun denied => (.error denied.1, denied.2) := by
  simp only [Acknowledge.decide, valid, undisturbed_put, undisturbed, answer, readState, read, names, pending, elapsed, bne_self_eq_false,
    Option.map_some, Option.bind_some, Bool.not_true, Bool.false_eq_true, if_false, if_true]
  rw [Program.eval_bind]
  refine Option.bind_congr fun outcome _ => ?_
  obtain ⟨result, state⟩ := outcome
  cases result with
  | error failure => rfl
  | ok last =>
    simp only [Program.eval_bind]
    exact (Option.map_eq_bind).symm

section Elapsed

variable (tidy : authority.Tidy) (proper : authority.Proper) (pending : stored.acknowledgement.status = .pending)
  (elapsed : stored.request.expiresAt ≤ now)
include tidy proper pending elapsed

theorem status_terminalizes_iff (read : Repository.get authority planID = .ok stored) :
    StatusTerminalizes authority planID now ↔ Endable authority stored now := by
  obtain ⟨row, first, _, _, whole, exact, valid⟩ := get_pending read pending
  have named : stored.request.planID = planID := by simpa [whole] using List.find?_some first
  have token : validRunToken planID = true := named ▸ exactRequest_planID exact
  constructor
  · intro shown
    rcases expire_fails_or_endable (.status planID) [] exact valid with ⟨failure, fails⟩ | endable
    · obtain ⟨outcome, after, told, _⟩ := shown (.status planID)
      rw [status_undisturbed read pending elapsed token, fails] at told
      cases told
    · exact endable
  · intro endable context
    obtain ⟨last, after, ended, expired, reread, _⟩ := @expire_ends _ _ _ _ context [] tidy proper read pending endable
    refine ⟨last.acknowledgement, after, ?_, expired, last, reread, expired⟩
    rw [status_undisturbed read pending elapsed token, ended]
    rfl

/-- A candidate that names the request is denied after the request has ended. -/
theorem decide_ends {candidate : Candidate} (rejectedAt : Time) (context : Operation)
    (read : Repository.get authority candidate.planID = .ok stored) (good : validCandidate candidate = true)
    (names : candidateMatchesRequest config candidate stored.request = true) (endable : Endable authority stored now) :
    ∃ failure rest later, (Acknowledge.decide config context candidate).eval undisturbed ([now, rejectedAt], authority) =
        some (.error failure, rest, later) ∧ later.Expired candidate.planID ∧
      (failure = .coded .planStale "acknowledgement-terminal-denial" ↔
        Deniable config authority candidate .planStale rejectedAt) := by
  obtain ⟨target, card⟩ := get_named read pending
  obtain ⟨last, after, done, expired, reread, denials⟩ :=
    @expire_ends _ _ _ _ context [rejectedAt] tidy proper read pending endable
  obtain ⟨failure, rest, later, denied, requests, proofs, recorded⟩ :=
    @denyCandidate_undisturbed config stored context after candidate .planStale rejectedAt [] target card
  refine ⟨failure, rest, later, ?_, ⟨last, (get_congr requests proofs).trans reread, expired⟩, recorded.trans ?_⟩
  · simp only [decide_undisturbed read pending elapsed good names, done, denied, Option.bind_some, Option.map_some]
  · simp only [deniable_iff, denials]

theorem decide_terminalizes_iff {candidate : Candidate} {rejectedAt : Time}
    (read : Repository.get authority candidate.planID = .ok stored) (good : validCandidate candidate = true) :
    DecideTerminalizes config authority candidate now rejectedAt ↔ Endable authority stored now ∧
      candidateMatchesRequest config candidate stored.request = true ∧
      Deniable config authority candidate .planStale rejectedAt := by
  have waits := Authority.not_expired read pending
  obtain ⟨target, card⟩ := get_named read pending
  cases names : candidateMatchesRequest config candidate stored.request with
  | false =>
    -- the candidate is denied before the expiry is looked at
    refine ⟨fun ends => ?_, fun ready => absurd ready.2.1 nofun⟩
    obtain ⟨rest, after, ended, expired⟩ := ends (.decide candidate)
    obtain ⟨failure, left, later, denied, requests, proofs, _⟩ := @denyCandidate_undisturbed config stored (.decide candidate)
      authority candidate (candidateMismatch candidate stored.request) now [rejectedAt] target card
    simp only [Acknowledge.decide, good, undisturbed_put, undisturbed, answer, readState, read, names, Option.map_some,
      Option.bind_some, Bool.not_true, Bool.not_false, Bool.false_eq_true, if_false, if_true] at ended
    rw [Program.eval_bind, denied] at ended
    cases ended
    rw [Authority.Expired, get_congr requests proofs] at expired
    exact absurd expired waits
  | true =>
    have settled := fun context => decide_ends tidy proper pending elapsed rejectedAt context read good names
    constructor
    · intro ends
      obtain ⟨rest, later, ended, expired⟩ := ends (.decide candidate)
      obtain ⟨row, _, _, _, _, exact, valid⟩ := get_pending read pending
      rcases expire_fails_or_endable (.decide candidate) [rejectedAt] exact valid with ⟨failure, fails⟩ | endable
      · rw [decide_undisturbed read pending elapsed good names, fails] at ended
        cases ended
        exact absurd expired waits
      · obtain ⟨failure, left, after, denied, _, recorded⟩ := settled (.decide candidate) endable
        cases ended.symm.trans denied
        exact ⟨endable, rfl, recorded.mp rfl⟩
    · rintro ⟨endable, _, deniable⟩ context
      obtain ⟨failure, rest, later, denied, expired, recorded⟩ := settled context endable
      exact ⟨rest, later, recorded.mpr deniable ▸ denied, expired⟩

end Elapsed

def openRequest : List (Action office Operation) :=
  [.spawn (.request ⟨sampleHuman, "authority-1", "nonce"⟩ "plan-1"), .answer 0 (.run (.store .none)), .answer 0 (.clock 10),
    .answer 0 (.check (.ok ())), .answer 0 (.decision (.ok true)), .answer 0 (.clock 10), .answer 0 (.store .none),
    .answer 0 (.store .none), .answer 0 (.store .none)]

/-- The approval of the open request that comes when the plan has expired. -/
def elapsedCandidate : Candidate := { lateCandidate with decidedAt := 1000 }

end VskLabs.Acknowledge

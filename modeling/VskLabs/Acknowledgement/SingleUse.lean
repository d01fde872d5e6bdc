import VskLabs.Acknowledgement.Permissions
import VskLabs.Acknowledgement.Queries

/-! Acknowledgements are used once, over every interleaving of the service, the
gate and the run engine and every crash. -/

namespace VskLabs.Acknowledge
open Library

variable {config : Config} {context : Operation}

def Authority.standing (authority : Authority) (id : String) : Option Standing :=
  (authority.requests.find? id).map RequestRow.status

/-- A request stays, and once it has left `pending` it stays where it went. -/
def Lasts (before after : Authority) : Prop :=
  ∀ id status, before.standing id = some status →
    ∃ later, after.standing id = some later ∧ (status ≠ .pending → later = status)

theorem Lasts.refl (authority : Authority) : Lasts authority authority :=
  fun _ status found => ⟨status, found, fun _ => rfl⟩

theorem Lasts.trans {first second third : Authority} (before : Lasts first second) (after : Lasts second third) :
    Lasts first third := by
  intro id status found
  obtain ⟨middle, there, same⟩ := before id status found
  obtain ⟨last, reached, kept⟩ := after id middle there
  refine ⟨last, reached, fun ended => ?_⟩
  rw [kept (by rw [same ended]; exact ended), same ended]

variable {query : Query} {before after : Authority} {record : Record} {earlier : List Record}

/-- A request is new, leaves `pending` by a decision, or stands where it stood. -/
theorem Changes.standing (changes : Changes query before after) (id : String) :
    after.standing id = before.standing id ∨ (before.standing id = none ∧ after.standing id = some .pending) ∨
      ∃ record row, query = .decide record ∧ before.requests.find? id = some row ∧ row.request = record.expected ∧
        row.status = .pending ∧ after.standing id = some record.outcome.status ∧ record.outcome.status ≠ .pending := by
  cases changes with
  | kept same _ => exact .inl (by rw [Authority.standing, same]; rfl)
  | requested row pending _ unused _ fresh _ rows _ =>
    rw [Authority.standing, Authority.standing, rows]
    split
    next here => exact .inr (.inl ⟨by rw [← here, fresh]; rfl, congrArg some pending⟩)
    next => exact .inl rfl
  | decided record row asked found expected pending ends unused rows _ _ =>
    rw [Authority.standing, Authority.standing, rows]
    split
    next here => exact .inr (.inr ⟨record, row, asked, here ▸ found, expected, pending, rfl, ends⟩)
    next => exact .inl rfl
  | consumed time selected approved rows _ =>
    left
    rw [Authority.standing, rows, Option.map_map]
    congr 1
    funext row
    exact apply_ite RequestRow.status _ _ _ |>.trans (ite_self _)

theorem Changes.lasts (changes : Changes query before after) : Lasts before after := by
  intro id status found
  rcases changes.standing id with same | ⟨absent, _⟩ | ⟨record, row, _, stored, _, pending, ended, _⟩
  · exact ⟨status, same.trans found, fun _ => rfl⟩
  · cases absent.symm.trans found
  · refine ⟨_, ended, fun settled => ?_⟩
    rw [Authority.standing, stored] at found
    cases found
    exact absurd pending settled

def Authority.Proper (authority : Authority) : Prop :=
  ∀ id row, authority.requests.find? id = some row → row.consumedAt ≠ none → row.status = .approved

theorem Changes.proper (changes : Changes query before after)
    (proper : before.Proper) : after.Proper := by
  intro id row found used
  cases changes with
  | kept same _ =>
    rw [same] at found
    exact proper id row found used
  | requested new pending _ unused _ fresh _ rows _ =>
    rw [rows] at found
    split at found
    next =>
      cases found
      exact absurd unused used
    next => exact proper id row found used
  | decided record old asked present expected pending ends unused rows _ _ =>
    rw [rows] at found
    split at found
    next =>
      cases found
      exact absurd unused used
    next => exact proper id row found used
  | consumed time selected approved rows _ =>
    rw [rows, Option.map_eq_some_iff] at found
    obtain ⟨old, stored, rfl⟩ := found
    split
    next chosen => exact approved old chosen
    next spared =>
      rw [if_neg spared] at used
      exact proper id old stored used

abbrev Admitted (config : Config) : List Record → Record → Prop :=
  System.Recorded (fun authority => authority.store.Agreed) (Permitted config)

theorem answer_agreed {reaction : Reaction} {authority : Authority} {reply : query.Reply}
    (agreed : authority.store.Agreed) (answered : answer query reaction authority = some (reply, after)) :
    after.store.Agreed := by
  rcases (answer_changes answered).2 with same | ⟨call, choice, outcome, _, responded⟩
  · rw [same]
    exact agreed
  · exact respond_agreed responded agreed

theorem answer_run {call : Call} {reaction : Reaction} {authority : Authority} {reply : Reply call}
    (answered : answer (.run call) reaction authority = some (reply, after)) :
    ∃ choice, respond call choice authority.store = some (reply, after.store) := by
  cases reaction with
  | run choice =>
    simp only [answer, Option.map_eq_some_iff, Prod.mk.injEq] at answered
    obtain ⟨⟨outcome, store⟩, responded, rfl, rfl⟩ := answered
    exact ⟨choice, responded⟩
  | clock _ | check _ | decision _ | store _ | done => simp [answer] at answered

def Pruned (history : List Record) (runID : String) : Prop :=
  ∃ record ∈ history, ∃ now, record.event.call.query = .run (.pruneRunHistory now) ∧
    record.before.store.holds runID ≠ none ∧ record.after.store.holds runID = none

def HandedOut (history : List Record) (run : Run) : Prop :=
  ∃ record ∈ history, ∃ served call, ∃ reply : Reply call,
    record.event = (⟨⟨served, .run call⟩, reply⟩ : Event Ask Response) ∧ run ∈ delivered ⟨call, reply⟩

theorem Given.handedOut {history : List Record} {thread : Nat} {run : Run} (given : Given (eventsOf thread history) run) :
    HandedOut history run := by
  obtain ⟨served, call, reply, member, found⟩ := given
  obtain ⟨record, present, _, same⟩ := mem_eventsOf member
  exact ⟨record, present, served, call, reply, same, found⟩

/-- Each run that was handed out holds its acknowledgement, alone, until
retention takes it. -/
structure Held (authority : Authority) (history : List Record) : Prop where
  single : authority.store.SingleHolder
  holds : ∀ run, HandedOut history run →
    authority.store.holds run.runID = some run.acknowledgementID ∨ Pruned history run.runID

theorem Pruned.cons {history : List Record} {runID : String} (pruned : Pruned history runID) :
    Pruned (record :: history) runID := by
  obtain ⟨old, member, rest⟩ := pruned
  exact ⟨old, .tail _ member, rest⟩

theorem Admitted.holders (admitted : Admitted config earlier record) : record.after.store = record.before.store ∨
    ∃ call, record.event.call.query = .run call ∧ Holders call record.before.store record.after.store := by
  obtain ⟨reaction, answered⟩ := admitted.answered
  rcases (answer_changes answered).2 with same | ⟨call, choice, outcome, asked, responded⟩
  · exact .inl same
  · rcases respond_cases responded with same | committed
    · exact .inl same
    · exact .inr ⟨call, asked, committed.holders admitted.before⟩

theorem Admitted.kept_holder (admitted : Admitted config earlier record)
    {runID : String} {acknowledgement : Option String}
    (held : record.before.store.holds runID = some acknowledgement) :
    record.after.store.holds runID = some acknowledgement ∨ Pruned (record :: earlier) runID := by
  rcases admitted.holders with same | ⟨call, asked, holders⟩
  · rw [same]
    exact .inl held
  cases holders with
  | kept same =>
    rw [same]
    exact .inl held
  | created newID id absent unheld holds =>
    have other : runID ≠ newID := by
      rintro rfl
      rw [absent] at held
      cases held
    rw [holds, if_neg other]
    exact .inl held
  | pruned now asked' holds =>
    rcases holds runID with same | gone
    · rw [same]
      exact .inl held
    · refine .inr ⟨record, .head _, now, ?_, by rw [held]; simp, gone⟩
      rw [asked, asked']

theorem Admitted.single (admitted : Admitted config earlier record)
    (single : record.before.store.SingleHolder) : record.after.store.SingleHolder := by
  rcases admitted.holders with same | ⟨call, _, holders⟩
  · rw [same]
    exact single
  · exact holders.single single

theorem Held.step (held : Held record.before earlier)
    (admitted : Admitted config earlier record) : Held record.after (record :: earlier) := by
  refine ⟨admitted.single held.single, ?_⟩
  rintro run ⟨source, member, served, call, reply, same, given⟩
  rcases List.mem_cons.mp member with rfl | old
  · -- handed out by this very call
    obtain ⟨reaction, answered⟩ := admitted.answered
    obtain ⟨thread, event, before, after⟩ := source
    dsimp only at same answered
    subst same
    obtain ⟨choice, responded⟩ := answer_run answered
    have stored := (respond_truthful responded).delivered (respond_cases responded) admitted.before given
    exact .inl (by rw [Store.holds, stored]; rfl)
  · rcases held.holds run ⟨source, old, served, call, reply, same, given⟩ with stored | pruned
    · exact admitted.kept_holder stored
    · exact .inr pruned.cons

section Histories

variable {plans : Table Plan.planID} {stateRevision recoveryEpoch : Int} {actions : List (Action office Operation)}
  {system : System office} (ran : execute config (.fresh plans stateRevision recoveryEpoch) actions = some system)
include ran

theorem execute_admitted : Along (Admitted config) system.history := by
  have agreed : (Authority.fresh plans stateRevision recoveryEpoch).store.Agreed := by
    intro row member
    cases member
  exact (System.Recorded.of_boot (fun authority : Authority => authority.store.Agreed)
    (fun ask _ _ reply _ _ _ => show Trusting ask reply from trivial)
    (fun _ _ _ _ _ _ agreed _ answered => answer_agreed agreed answered)
    Operation.behaves agreed ran).2

theorem execute_changes :
    ∀ record ∈ system.history, Changes record.event.call.query record.before record.after := by
  intro record member
  obtain ⟨newer, older, split⟩ := List.append_of_mem member
  obtain ⟨reaction, answered⟩ := (System.along_split (execute_admitted ran) split).1.answered
  exact (answer_changes answered).1

theorem execute_keeps {holds : Authority → Prop} (start : holds (.fresh plans stateRevision recoveryEpoch))
    (keeps : ∀ earlier entry, holds entry.before → Admitted config earlier entry → holds entry.after) : holds system.state :=
  @System.Linked.invariant _ _ office _ _ _ (fun state _ => holds state) (Admitted config) start keeps
    (System.Linked.of_boot ran) (execute_admitted ran)

theorem execute_proper : system.state.Proper := by
  refine execute_keeps ran (fun _ _ found => by cases found) ?_
  intro earlier entry proper admitted
  obtain ⟨reaction, answered⟩ := admitted.answered
  exact (answer_changes answered).1.proper proper

variable {newer older : List Record} {record : Record} {id : String}

theorem execute_held (split : system.history = newer ++ record :: older) :
    Held record.before older := by
  have start : Held (Authority.fresh plans stateRevision recoveryEpoch) [] := by
    refine ⟨?_, ?_⟩
    · intro first second id held
      cases held
    · rintro run ⟨record, member, _⟩
      cases member
  have linked : System.Linked (Authority.fresh plans stateRevision recoveryEpoch) older record.before := by
    have whole := System.Linked.of_boot ran
    rw [split] at whole
    exact whole.split
  exact System.Linked.invariant start (fun earlier entry held admitted => held.step admitted) linked
    (System.along_split (execute_admitted ran) split).2

/-- The candidate a record answers, and what it was: an approval of exactly the
stored request, received before the expiry and dated close to its reception. -/
structure ApprovedBy (config : Config) (record : Record) (id : String) (candidate : Candidate) (decision : DecisionRecord)
    (row : RequestRow) : Prop where
  asked : record.event.call = ⟨.decide candidate, .decide decision⟩
  stored : record.before.requests.find? id = some row
  action : candidate.action = .approve
  names : candidate.binding config = row.request.toBinding
  fresh : decision.decidedAt < row.request.expiresAt
  near : decision.decidedAt - decisionClockSkew ≤ candidate.decidedAt ∧
    candidate.decidedAt ≤ decision.decidedAt + decisionClockSkew

theorem leaves_pending_once (split : system.history = newer ++ record :: older)
    (pending : record.before.standing id = some .pending) (left : record.after.standing id ≠ some .pending) :
    (∃ status, status ≠ .pending ∧ record.after.standing id = some status) ∧
      ∀ later ∈ newer, later.before.standing id = record.after.standing id ∧
        later.after.standing id = record.after.standing id := by
  have changes := execute_changes ran
  have member : record ∈ system.history := by
    rw [split]
    exact List.mem_append_right _ (.head _)
  obtain ⟨status, found, _⟩ := (changes record member).lasts id .pending pending
  have ended : status ≠ .pending := by
    rintro rfl
    exact left found
  refine ⟨⟨status, ended, found⟩, fun later newest => ?_⟩
  have reached := (System.Linked.onward Lasts Lasts.refl Lasts.trans (System.Linked.of_boot ran)
    (fun entry inside => (changes entry inside).lasts) split).2 later newest
  have inside : later ∈ system.history := by
    rw [split]
    exact List.mem_append_left _ newest
  obtain ⟨before, there, same⟩ := reached id status found
  obtain ⟨after, last, kept⟩ := (changes later inside).lasts id before there
  rw [same ended] at there kept
  rw [there, last, found, kept ended]
  exact ⟨rfl, rfl⟩

theorem approved_by_candidate (member : record ∈ system.history)
    (approved : record.after.standing id = some .approved) (moved : record.before.standing id ≠ some .approved) :
    ∃ candidate decision row, ApprovedBy config record id candidate decision row := by
  obtain ⟨newer, older, split⟩ := List.append_of_mem member
  have admitted := (System.along_split (execute_admitted ran) split).1
  obtain same | ⟨_, pending⟩ | ⟨decision, row, asked, stored, expected, _, ended, _⟩ :=
    (execute_changes ran record member).standing id
  · exact absurd (same.symm.trans approved) moved
  · cases pending.symm.trans approved
  have outcome : decision.outcome.status = .approved := Option.some.inj (ended.symm.trans approved)
  obtain ⟨thread, ⟨⟨served, query⟩, reply⟩, before, after⟩ := record
  dsimp only at asked
  subst asked
  rcases admitted.permitted.2 with expired | ⟨candidate, origin, justified⟩
  · rw [outcome] at expired
    cases expired
  · dsimp only at origin
    subst origin
    have action : candidate.action = .approve := by
      have same := justified.action
      rw [outcome] at same
      cases chosen : candidate.action with
      | approve => rfl
      | reject =>
        rw [chosen] at same
        cases same
    refine ⟨candidate, decision, row, rfl, stored, action, ?_, ?_, justified.near⟩
    · rw [expected]
      exact justified.names
    · rw [expected]
      exact justified.fresh

theorem one_run_activates {earlier : Record} (split : system.history = newer ++ record :: older)
    {run other : Run} (activated : record.event.call.query = .admissionActivated run) (before : earlier ∈ older)
    (first : earlier.event.call.query = .admissionActivated other)
    (names : run.acknowledgementID = some id) (same : other.acknowledgementID = some id) :
    other.runID = run.runID ∨ Pruned older other.runID ∨ Pruned older run.runID := by
  have held := execute_held ran split
  -- whoever passes the gate was given its run before
  have given : ∀ {entry : Record} {past : List Record} {passed : Run}, Admitted config past entry →
      entry.event.call.query = .admissionActivated passed → HandedOut past passed := by
    intro entry past passed admitted asked
    have permitted := admitted.permitted
    rw [Permitted, asked] at permitted
    exact permitted.handedOut
  have admitted := System.along_split (execute_admitted ran) split
  have mine : HandedOut older run := given admitted.1 activated
  have others : HandedOut older other := by
    obtain ⟨between, oldest, inner⟩ := List.append_of_mem before
    obtain ⟨source, member, rest⟩ := given (System.along_split admitted.2 inner).1 first
    refine ⟨source, ?_, rest⟩
    rw [inner]
    exact List.mem_append_right _ (.tail _ member)
  rcases held.holds other others with holds | pruned
  · rcases held.holds run mine with holding | pruned
    · rw [same] at holds
      rw [names] at holding
      exact .inl (held.single _ _ id holds holding)
    · exact .inr (.inr pruned)
  · exact .inr (.inl pruned)

/-- An acknowledgement leaves `pending` at most once and for good; it is approved
only for a candidate that names the stored request in every field and that is
received before the expiry, dated within the permitted clock skew; only an
approved one is consumed; and as long as the rows of the runs are retained, one
run at most passes the gate with it. -/
theorem acknowledgements_are_single_use (id : String) :
    (∀ newer record older, system.history = newer ++ record :: older → record.before.standing id = some .pending →
      record.after.standing id ≠ some .pending →
        (∃ status, status ≠ .pending ∧ record.after.standing id = some status) ∧
          ∀ later ∈ newer, later.before.standing id = record.after.standing id ∧
            later.after.standing id = record.after.standing id) ∧
    (∀ record ∈ system.history, record.after.standing id = some .approved → record.before.standing id ≠ some .approved →
      ∃ candidate decision row, ApprovedBy config record id candidate decision row) ∧
    (∀ row, system.state.requests.find? id = some row → row.consumedAt ≠ none → row.status = .approved) ∧
    (∀ newer record older, system.history = newer ++ record :: older → ∀ earlier ∈ older, ∀ run other : Run,
      record.event.call.query = .admissionActivated run → earlier.event.call.query = .admissionActivated other →
        run.acknowledgementID = some id → other.acknowledgementID = some id →
          other.runID = run.runID ∨ Pruned older other.runID ∨ Pruned older run.runID) := by
  refine ⟨?_, ?_, ?_, ?_⟩
  · intro newer record older split pending left
    exact leaves_pending_once ran split pending left
  · intro record member approved moved
    exact approved_by_candidate ran member approved moved
  · intro row found used
    exact execute_proper ran id row found used
  · intro newer record older split earlier before run other activated first names same
    exact one_run_activates ran split activated before first names same

end Histories

/-! ### A candidate dated after the expiry -/

def sampleDigest : String := "sha256:" ++ String.ofList (List.replicate 64 'a')

def samplePlan : Plan where
  planID := "plan-1"
  planDigest := sampleDigest
  binding := ⟨0, 1, "1.0.0"⟩
  operations := [⟨1, "op-1", "host.inspect", "local.host", "central", "host-1", sampleDigest, sampleDigest, true⟩]
  status := .planned
  authorizationBranch := .human
  executorMode := .central
  executorID := none
  expiresAt := 1000
  requests := {}
  extensions := []

def sampleConfig : Config where
  digest := fun _ => sampleDigest
  acknowledgementID := fun _ _ => "ack-1"
  targetDigest := fun _ => sampleDigest
  reasonDigest := fun _ => sampleDigest
  document := fun plan => ⟨plan, "declaration-1", .infrastructure, none, [], none, none, none, none, none⟩
  document_toPlan := fun _ => rfl
  validators := ⟨fun _ => true, fun _ => true⟩

def sampleHuman : Principal := ⟨"human-1", .slackSocketMode, some .human, ""⟩

def samplePlans : Table Plan.planID := ⟨[samplePlan], by simp⟩

def lateCandidate : Candidate where
  human := sampleHuman
  authorityID := "authority-1"
  action := .approve
  planID := "plan-1"
  planDigest := sampleDigest
  targetDigest := sampleDigest
  reasonDigest := sampleDigest
  nonce := "nonce"
  stateRevision := 1
  recoveryEpoch := 0
  expiresAt := 1000
  decidedAt := 1003

def lateApproval : List (Action office Operation) :=
  let transact (thread : Nat) : Action office Operation := .answer thread (.store .none)
  let plan (thread : Nat) (now : Time) : List (Action office Operation) :=
    [.answer thread (.run (.store .none)), .answer thread (.clock now), .answer thread (.check (.ok ())),
      .answer thread (.decision (.ok true))]
  [.spawn (.request ⟨sampleHuman, "authority-1", "nonce"⟩ "plan-1")] ++ plan 0 10 ++
    [.answer 0 (.clock 10), transact 0, transact 0, transact 0, .spawn (.decide lateCandidate), transact 1,
      .answer 1 (.clock 999)] ++ plan 1 999 ++ [transact 1, transact 1]

theorem late_candidate_is_approved : lateCandidate.expiresAt < lateCandidate.decidedAt ∧
    (execute sampleConfig (.fresh samplePlans 1 0) lateApproval).map (fun system => system.state.standing "ack-1") =
      some (some .approved) := by
  decide +kernel

def lateRequest : AcknowledgementRequest :=
  ⟨⟨"plan-1", sampleDigest, sampleDigest, sampleDigest, "human-1", "authority-1", sampleDigest, 1, 0, 1000⟩, []⟩

def lateRun : Run where
  runID := "run-1"
  planID := "plan-1"
  planDigest := sampleDigest
  authorizationDecisionID := "decision-1"
  acknowledgementID := some "ack-1"
  policyVersion := "1.0.0"
  executorMode := .central
  executorID := "central"
  executorBindingDigest := sampleDigest
  status := .queued
  steps := [⟨1, "op-1", "host.inspect", "local.host", "central", "host-1", sampleDigest, sampleDigest, true, "step-1", .queued,
    .notStarted⟩]
  cancellationRequested := false
  rollbackStatus := .notRequested
  verificationStatus := .pending
  verificationDigest := none
  changed := false
  stateRevision := 1
  recoveryEpoch := 0
  createdAt := 999
  updatedAt := 999
  extensions := []

def lateSubmission : Submission where
  plan := samplePlan
  authorization := ⟨"decision-1", "human-1", "execute", "host-1", true, some .human, 1, 0, sampleDigest⟩
  acknowledgement := some (outcomeFrom lateRequest "ack-1" .approved 999 (proofDigest lateRequest .approved 999))
  create := ⟨lateRun, "key", ⟨⟨"plan-1", sampleDigest, 1, "key", []⟩, "human-1", some .human, some "ack-1"⟩⟩

/-- A submission up to the boundary after `Activate`. The first one stores the run and
consumes the approval. -/
def submissionReplies (first : Bool) : List Reaction :=
  [.clock 999, .run (.store .none)] ++ (if first then [.run (.store .none)] else []) ++
    [.store .none, .store .none, .run (.store .none), .clock 999, .check (.ok ()), .decision (.ok true), .clock 999,
      .clock 999, .check (.ok ())] ++ (if first then [.store .none, .store .none, .store .none] else []) ++ [.done]

def submitted (thread : Nat) (first : Bool) : List (Action office Operation) :=
  .spawn (.submit lateSubmission) :: (submissionReplies first).map fun reply => .answer thread reply

def activatedRun (record : Record) : Option Run :=
  match record.event.call.query with
  | .admissionActivated run => some run
  | _ => none

theorem activatedRun_spec {record : Record} {run : Run} (activated : activatedRun record = some run) :
    record.event.call.query = .admissionActivated run := by
  unfold activatedRun at activated
  split at activated
  next same =>
    cases activated
    exact same
  next => cases activated

/-- The approval is consumed by the first submission; the second one, of the same run, is
let through as well. -/
theorem late_approval_is_used_once : ∃ system row record older earlier run other,
    execute sampleConfig (.fresh samplePlans 1 0) (lateApproval ++ submitted 2 true ++ submitted 3 false) = some system ∧
      system.state.requests.find? "ack-1" = some row ∧ row.consumedAt ≠ none ∧ row.status = .approved ∧
      system.history = record :: older ∧ earlier ∈ older ∧ record.event.call.query = .admissionActivated run ∧
      earlier.event.call.query = .admissionActivated other ∧
      (other.runID = run.runID ∨ Pruned older other.runID ∨ Pruned older run.runID) := by
  have found : (execute sampleConfig (.fresh samplePlans 1 0) (lateApproval ++ submitted 2 true ++ submitted 3 false)).any
      (fun system => (system.state.requests.find? "ack-1").any (fun row => row.consumedAt != none) &&
        system.history.head?.any (fun record => (activatedRun record).any fun run => run.acknowledgementID == some "ack-1") &&
        system.history.tail.any fun record => (activatedRun record).any fun run => run.acknowledgementID == some "ack-1") =
      true := by decide +kernel
  simp only [finds, checks, List.head?_eq_some_iff] at found
  obtain ⟨system, ran, ⟨⟨row, held, consumed⟩, record, ⟨older, split⟩, run, activated, named⟩, earlier, before, other, also, same⟩ :=
    found
  rw [split, List.tail_cons] at before
  obtain ⟨_, _, approved, once⟩ := acknowledgements_are_single_use ran "ack-1"
  have alone := once [] record older split earlier before run other (activatedRun_spec activated) (activatedRun_spec also)
    named same
  exact ⟨system, row, record, older, earlier, run, other, ran, held, consumed, approved row held consumed, split, before,
    activatedRun_spec activated, activatedRun_spec also, alone⟩

end VskLabs.Acknowledge

import VskLabs.Acknowledgement.Holders

/-! What the programs of the service ask for: a decision has a candidate or is
an expiry, and an activated run came from the store. -/

namespace VskLabs.Acknowledge
open Library

variable {config : Config} {context : Operation}

/-- The candidate is the reason for the decision: it names the request in every
field, it was received before the expiry, and its own time is near. -/
structure Justifies (config : Config) (candidate : Candidate) (record : DecisionRecord) : Prop where
  names : candidate.binding config = record.expected.toBinding
  action : record.outcome.status = candidate.action.status
  fresh : record.decidedAt < record.expected.expiresAt
  near : record.decidedAt - decisionClockSkew ≤ candidate.decidedAt ∧
    candidate.decidedAt ≤ record.decidedAt + decisionClockSkew

abbrev Past := List (Event Ask Response)

def Given (past : Past) (run : Run) : Prop :=
  ∃ served call, ∃ reply : Reply call, (⟨⟨served, .run call⟩, reply⟩ : Event Ask Response) ∈ past ∧
    run ∈ delivered ⟨call, reply⟩

/-- Decisions are expiries or have a candidate and are sealed by their proof, and
an activated run was given by the store. Everything else may be asked at any time. -/
def Permitted (config : Config) (past : Past) (ask : Ask) : Prop :=
  match ask.query with
  | .decide record =>
    record.outcome.proofDigest = proofDigest record.expected record.outcome.status record.decidedAt ∧
      (record.outcome.status = .expired ∨
        ∃ candidate, ask.served = .decide candidate ∧ Justifies config candidate record)
  | .admissionActivated run => Given past run
  | _ => True

def Free (ask : Ask) : Prop :=
  match ask.query with
  | .decide _ | .admissionActivated _ => False
  | _ => True

theorem Free.permitted (past : Past) (ask : Ask) (free : Free ask) : Permitted config past ask := by
  obtain ⟨served, query⟩ := ask
  cases query with
  | decide _ | admissionActivated _ => exact free.elim
  | _ => trivial

def Trusting (ask : Ask) (_ : Response ask) : Prop := True

abbrev Behaves {α : Type} (config : Config) (work : Work α) (past : Past) : Prop :=
  work.Obeys Trusting (Permitted config) (fun _ _ => True) past

variable {past : Past}

variable {α : Type} {query : Query}

@[simp] theorem behaves_put {next : query.Reply → Work α} :
    Behaves config (@bind Work _ (no_index query.Reply) α (put context query) next) past ↔
      Permitted config past ⟨context, query⟩ ∧
        ∀ reply : query.Reply, Behaves config (next reply) (⟨⟨context, query⟩, reply⟩ :: past) := by
  simp [put, Trusting]

@[simp] theorem issues_put {next : query.Reply → Work α} :
    (@bind Work _ (no_index query.Reply) α (put context query) next).Issues Free ↔
      Free ⟨context, query⟩ ∧ ∀ reply : query.Reply, (next reply).Issues Free := Iff.rfl

theorem behaves_of_issues {work : Work α} (issues : work.Issues Free) : Behaves config work past :=
  (issues.obeys Free.permitted).weaken fun _ _ _ => trivial

theorem behaves_bind {β : Type} {work : Work α} {next : α → Work β} (first : Behaves config work past)
    (rest : ∀ value later, Behaves config (next value) later) : Behaves config (work >>= next) past :=
  first.bind fun value later _ => rest value later

theorem authorizeTargets_issues (human : Principal) (plan : Plan) (targets : List String) :
    (authorizeTargets context human plan targets).Issues Free := by
  induction targets with
  | nil => trivial
  | cons targetID rest ih => simp [authorizeTargets, Free, forall_except, ih]

theorem validateCurrent_issues (plan : Plan) : (validateCurrent context plan).Issues Free := by
  simp only [validateCurrent, issues_put, Program.issues_ite]
  exact ⟨trivial, fun _ => ⟨fun _ => trivial, fun _ => ⟨trivial, fun _ => trivial⟩⟩⟩

theorem validCurrentHumanPlan_issues (human : Principal) (plan : Plan) :
    (validCurrentHumanPlan config context human plan).Issues Free := by
  simp [validCurrentHumanPlan, forall_except, Program.Issues.bind, validateCurrent_issues, authorizeTargets_issues]

theorem denyCandidate_issues (stored : Stored) (candidate : Candidate) (cause : Option ErrorCode) :
    (denyCandidate config context stored candidate cause).Issues Free := by
  simp [denyCandidate, Free, forall_except]

theorem denyStored_issues (stored : Stored) (kind : String) (cause : Failure) :
    (denyStored context stored kind cause).Issues Free := by
  cases coded : cause.code <;> simp [denyStored, coded, Free, forall_except]

variable {denial : Work Failure}

theorem refused_issues (issues : denial.Issues Free) :
    (denial >>= fun failure => (return .error failure : Work (Except Failure α))).Issues Free :=
  issues.bind fun _ => trivial

theorem createRequest_issues (record : CreateRecord) : (createRequest context record).Issues Free := by
  simp [createRequest, Free, forall_except]

theorem consumeRequest_issues (planID : String) (time : Time) : (consumeRequest context planID time).Issues Free := by
  simp [consumeRequest, Free, forall_except]

theorem request_issues (scope : Scope) (planID : String) : (request config context scope planID).Issues Free := by
  simp [request, Free, forall_except, Program.Issues.bind, validCurrentHumanPlan_issues, createRequest_issues]

theorem claimProof_issues (stored : Stored) (planID : String) (now : Time) :
    (claimProof context stored planID now).Issues Free := by
  simp [claimProof, forall_except, Program.Issues.bind, consumeRequest_issues]

theorem verifyForRunExecution_issues (planID acknowledgementID : String) (claimedAt : Time) :
    (verifyForRunExecution config context planID acknowledgementID claimedAt).Issues Free := by
  simp [verifyForRunExecution, Free, forall_except, Program.Issues.bind, denyStored_issues]
  intro _ _ _ stored _ _ plan _
  refine (validCurrentHumanPlan_issues _ plan).bind ?_
  simp [Free, forall_except, Program.Issues.bind, denyStored_issues, validateCurrent_issues, claimProof_issues]

theorem activate_issues (plan : Plan) (decision : AuthorizationDecision) (run : Run) (proof : Option Acknowledgement) :
    (activate config context plan decision run proof).Issues Free := by
  unfold activate
  cases verify config plan decision proof none with
  | error failure => trivial
  | ok =>
    cases proof <;> simp [claimForRun, forall_except, Program.Issues.bind, verifyForRunExecution_issues]

theorem serve_issues (job : Job α) : (serve context job).Issues Free := by
  induction job with
  | pure value => trivial
  | request call next ih => exact ⟨trivial, ih⟩

theorem decideRequest_behaves {record : DecisionRecord}
    (permitted : ∀ past, Permitted config past ⟨context, .decide record⟩) :
    Behaves config (decideRequest context record) past := by
  have reads : ∀ past planID, Permitted config past ⟨context, .get planID⟩ := fun _ _ => trivial
  simp [decideRequest, permitted, reads, forall_except]

theorem expire_behaves (stored : Stored) (now : Time) (past : Past) : Behaves config (expire context stored now) past := by
  refine behaves_bind (decideRequest_behaves fun _ => ⟨rfl, .inl rfl⟩) ?_
  simp [forall_except]

variable {candidate : Candidate}

theorem settle_behaves {stored : Stored} {now : Time}
    (served : context = .decide candidate) (names : candidate.binding config = stored.request.toBinding)
    (fresh : now < stored.request.expiresAt)
    (near : now - decisionClockSkew ≤ candidate.decidedAt ∧ candidate.decidedAt ≤ now + decisionClockSkew) :
    Behaves config (settle context stored candidate now) past := by
  unfold settle
  dsimp only
  split
  · trivial
  refine behaves_bind (decideRequest_behaves fun _ => ⟨rfl, .inr ⟨candidate, served, names, rfl, fresh, near⟩⟩) ?_
  simp [forall_except]

theorem refused_behaves (issues : denial.Issues Free) :
    Behaves config (denial >>= fun failure => (return .error failure : Work (Except Failure α))) past :=
  behaves_of_issues (refused_issues issues)

theorem decide_behaves (served : context = .decide candidate) (past : Past) :
    Behaves config (Acknowledge.decide config context candidate) past := by
  simp [Acknowledge.decide, Permitted, forall_except, refused_behaves, denyCandidate_issues]
  intro _ stored named _ now
  constructor
  · intro _
    refine behaves_bind (expire_behaves stored now _) ?_
    simp [forall_except, refused_behaves, denyCandidate_issues]
  · intro fresh early late plan
    refine behaves_bind (behaves_of_issues (validCurrentHumanPlan_issues _ plan)) ?_
    have names : candidate.binding config = stored.request.toBinding := by simpa [candidateMatchesRequest] using named
    simp [forall_except, refused_behaves, denyCandidate_issues, settle_behaves served names fresh ⟨by lia, late⟩]

theorem status_behaves (planID : String) (past : Past) : Behaves config (status context planID) past := by
  simp [status, Permitted, forall_except, behaves_bind, expire_behaves]

theorem createRun_given (request : RunCreateRequest) (past : Past) :
    (createRun context request).Obeys Trusting (Permitted config)
      (fun outcome later => ∀ run created, outcome = .ok (run, created) → Given later run) past := by
  unfold createRun
  split
  · exact fun _ _ impossible => by cases impossible
  refine ⟨trivial, fun existing _ => ?_⟩
  rcases existing with failure | _ | run
  · exact fun _ _ impossible => by cases impossible
  · refine ⟨trivial, fun made _ => ?_⟩
    rcases made with failure | _ | run
    · exact fun _ _ impossible => by cases impossible
    · refine ⟨trivial, fun again _ => ?_⟩
      rcases again with failure | _ | run
      · exact fun _ _ impossible => by cases impossible
      · exact fun _ _ impossible => by cases impossible
      · rintro _ _ ⟨⟩
        exact ⟨context, _, _, .head _, .head _⟩
    · rintro _ _ ⟨⟩
      exact ⟨context, _, _, .head _, .head _⟩
  · rintro _ _ ⟨⟩
    exact ⟨context, _, _, .head _, .head _⟩

theorem Given.grow {older newer : Past} {run : Run} (inside : older ⊆ newer) (given : Given older run) : Given newer run := by
  obtain ⟨served, call, reply, member, found⟩ := given
  exact ⟨served, call, reply, inside member, found⟩

theorem submit_behaves (submission : Submission) (past : Past) : Behaves config (submit config context submission) past := by
  refine behaves_put.mpr ⟨trivial, fun now => ?_⟩
  split
  · trivial
  refine (createRun_given submission.create _).bind fun outcome latest given => ?_
  rcases outcome with failure | ⟨run, created⟩
  · trivial
  dsimp only
  split
  · trivial
  refine ((behaves_of_issues (activate_issues _ _ _ _)).grows).bind fun outcome final grown => ?_
  rcases outcome with failure | _
  · trivial
  · exact ⟨(given run created rfl).grow grown.2, fun _ _ => trivial⟩

theorem Operation.behaves (operation : Operation) : Behaves config (operation.work config) [] := by
  cases operation with
  | request scope planID => exact behaves_of_issues ((request_issues scope planID).bind fun _ => trivial)
  | decide candidate => exact behaves_bind (decide_behaves rfl []) fun _ _ => trivial
  | status planID => exact behaves_bind (status_behaves planID []) fun _ _ => trivial
  | submit submission => exact submit_behaves submission []
  | engine job => exact behaves_of_issues (serve_issues job)

end VskLabs.Acknowledge

import VskLabs.Acknowledgement.Repository

/-! The acknowledgement service, the admission gate and the part of a submission
between them, as programs over the database they share with the run engine. -/

namespace VskLabs.Acknowledge
open Library

structure Submission where
  plan : Plan
  authorization : AuthorizationDecision
  acknowledgement : Option Acknowledgement
  create : RunCreateRequest

/-- Who is served: the entry points of the service, a submission, and whatever
else the run engine does, from starting a run to cancelling it. -/
inductive Operation where
  | request (scope : Scope) (planID : String)
  | decide (candidate : Candidate)
  | status (planID : String)
  | submit (submission : Submission)
  | engine (job : Job Unit)

inductive Query where
  | clock
  | validateCurrent (plan : Plan)
  | authorize (human : Principal) (targetID : String) (plan : Plan)
  | get (planID : String)
  | create (record : CreateRecord)
  | decide (record : DecisionRecord)
  | consume (stored : Stored) (planID : String) (consumedAt : Time)
  | verifyRunClaim (planID acknowledgementID : String) (claimedAt : Time)
  | recordDenial (record : DenialRecord)
  | run (call : Call)
  | admissionActivated (run : Run)

structure Ask where
  served : Operation
  query : Query

@[reducible] def Query.Reply : Query → Type
  | .clock => Time
  | .validateCurrent _ => Except Failure Unit
  | .authorize _ _ _ => Except Failure Bool
  | .get _ => Except Failure Stored
  | .create _ | .decide _ | .consume _ _ _ | .recordDenial _ => Except Failure Bool
  | .verifyRunClaim _ _ _ => Except Failure Unit
  | .run call => VskLabs.Reply call
  | .admissionActivated _ => Unit

abbrev Response (ask : Ask) : Type := ask.query.Reply

abbrev Work (α : Type) := Program Ask Response α

def put (context : Operation) (query : Query) : Work query.Reply := Program.call (Ask.mk context query)

section Service

variable (config : Config) (context : Operation)

def authorizeTargets (human : Principal) (plan : Plan) : List String → Work (Except Failure Unit)
  | [] => return .ok ()
  | targetID :: rest => do
    match ← put context (.authorize human targetID plan) with
    | .error _ => return .error (.coded .dependencyUnavailable "authorization-policy")
    | .ok false => return .error (.coded .authorizationDenied "acknowledgement-human")
    | .ok true => authorizeTargets human plan rest

/-- `plan.Service.ValidateCurrent`: the plan has not expired, and the revision,
declaration and observations it was made from are current. -/
def validateCurrent (plan : Plan) : Work (Except Failure Unit) := do
  let now ← put context .clock
  if plan.expiresAt ≤ now then return .error (.coded .stateConflict "plan")
  else put context (.validateCurrent plan)

def validCurrentHumanPlan (human : Principal) (plan : Plan) : Work (Except Failure Unit) := do
  if !validPrincipal human || effectivePrincipalKind human != .human || plan.authorizationBranch != .human then
    return .error (.coded .authorizationDenied "acknowledgement-human")
  else
    match ← validateCurrent context plan with
    | .error _ => return .error (.coded .planStale "plan")
    | .ok () =>
      if (config.uniqueTargets plan).isEmpty then return .error (.coded .authorizationDenied "acknowledgement-target")
      else authorizeTargets context human plan (config.uniqueTargets plan)

def denyCandidate (stored : Stored) (candidate : Candidate) (cause : Option ErrorCode) : Work Failure := do
  let code := cause.getD .authorizationDenied
  if !attributable candidate.human then return .coded .integrityFailure "acknowledgement-denial-audit"
  else
    let now ← put context .clock
    match ← put context (.recordDenial ⟨stored.request.planID, stored.acknowledgement.acknowledgementID,
        .candidate candidate.action (candidate.binding config), code, now⟩) with
    | .error _ => return .coded .integrityFailure "acknowledgement-denial-audit"
    | .ok _ => return .coded code "acknowledgement-terminal-denial"

def denyStored (stored : Stored) (kind : String) (cause : Failure) : Work Failure := do
  let now ← put context .clock
  -- a cause without a code is recorded under the empty text, which the repository refuses
  match cause.code with
  | none => return .coded .integrityFailure "acknowledgement-denial-audit"
  | some code =>
    match ← put context (.recordDenial ⟨stored.request.planID, stored.acknowledgement.acknowledgementID,
        .proof kind stored.acknowledgement.proofDigest cause.code, code, now⟩) with
    | .error _ => return .coded .integrityFailure "acknowledgement-denial-audit"
    | .ok _ => return cause

/-- `AcknowledgementRepository.Create` around its transaction. -/
def createRequest (record : CreateRecord) : Work (Except Failure (Stored × Bool)) := do
  if record.createdAt.isZero || record.principalID != record.request.humanID || !Repository.validCreate record then
    return .error (.coded .inputInvalid "acknowledgement-request")
  else
    match ← put context (.get record.request.planID) with
    | .ok existing => return .ok (existing, false)
    | .error failure =>
      if failure.code != some .resourceNotFound then return .error failure
      else
        match ← put context (.create record) with
        | .error failure => return .error failure
        | .ok created =>
          match ← put context (.get record.request.planID) with
          | .error failure => return .error failure
          | .ok stored => return .ok (stored, created)

def DecisionRecord.expectedPrincipalID (record : DecisionRecord) : String :=
  if record.outcome.status = .expired then expiryPrincipalID else record.expected.humanID

/-- `AcknowledgementRepository.Decide` around its transaction. -/
def decideRequest (record : DecisionRecord) : Work (Except Failure (Stored × Bool)) := do
  if record.decidedAt.isZero || record.principalID != record.expectedPrincipalID || !Repository.validDecision record then
    return .error (.coded .inputInvalid "acknowledgement-decision")
  else
    match ← put context (.decide record) with
    | .error failure => return .error failure
    | .ok changed =>
      match ← put context (.get record.expected.planID) with
      | .error failure => return .error failure
      | .ok stored => return .ok (stored, changed)

/-- `AcknowledgementRepository.Consume` around its transaction. -/
def consumeRequest (planID : String) (consumedAt : Time) : Work (Except Failure (Stored × Bool)) := do
  if planID == "" || consumedAt.isZero then return .error (.coded .inputInvalid "acknowledgement-consume")
  else
    match ← put context (.get planID) with
    | .error failure => return .error failure
    | .ok stored =>
      if stored.consumed then return .ok (stored, false)
      else
        match ← put context (.consume stored planID consumedAt) with
        | .error failure => return .error failure
        | .ok changed =>
          match ← put context (.get planID) with
          | .error failure => return .error failure
          | .ok after => return .ok (after, changed)

def expire (stored : Stored) (now : Time) : Work (Except Failure Stored) := do
  let outcome := outcomeFrom stored.request stored.acknowledgement.acknowledgementID .expired now
    (proofDigest stored.request .expired now)
  match ← decideRequest context ⟨stored.request, outcome, now, expiryPrincipalID⟩ with
  | .error failure => return .error failure
  | .ok (expired, changed) =>
    if !changed && expired.acknowledgement.status != .expired then return .error (.coded .planStale "acknowledgement")
    else return .ok expired

/-- The request document `Service.Request` makes from a plan. -/
def requestFor (scope : Scope) (plan : Plan) : AcknowledgementRequest where
  planID := plan.planID
  planDigest := plan.planDigest
  targetDigest := config.targetDigest plan
  reasonDigest := config.reasonDigest plan
  humanID := scope.human.id
  authorityID := scope.authorityID
  nonceDigest := config.digest scope.nonce
  stateRevision := plan.binding.stateRevision
  recoveryEpoch := plan.binding.recoveryEpoch
  expiresAt := plan.expiresAt
  extensions := []

/-- `Service.Request`; the reply is the id on the card. -/
def request (scope : Scope) (planID : String) : Work (Except Failure String) := do
  if !validScope scope || !validRunToken planID then return .error (.coded .inputInvalid "acknowledgement-request")
  else
    match ← put context (.run (.getPlan planID)) with
    | .error failure => return .error failure
    | .ok plan =>
      match ← validCurrentHumanPlan config context scope.human plan with
      | .error failure => return .error failure
      | .ok () =>
        let now ← put context .clock
        if plan.expiresAt.isZero || plan.expiresAt ≤ now then return .error (.coded .planStale "plan")
        else
          let document := requestFor config scope plan
          let id := config.acknowledgementID plan.planID document.nonceDigest
          if !exactRequest document then return .error (.coded .inputInvalid "acknowledgement-request")
          else if !attributable scope.human then return .error (.coded .inputInvalid "acknowledgement-attribution")
          else
            match ← createRequest context ⟨document, outcomeFrom document id .pending now (proofDigest document .pending now),
                now, scope.human.id⟩ with
            | .error failure => return .error failure
            | .ok (stored, created) =>
              if created then return .ok id
              else if stored.acknowledgement.status != .pending || stored.request != document then
                return .error (.coded .planStale "acknowledgement-request")
              else return .ok stored.acknowledgement.acknowledgementID

/-- `decisionClockSkew`, in seconds. -/
def decisionClockSkew : Int := 5

/-- The end of `Service.Decide`: record the outcome for a candidate that passed
every check. -/
def settle (stored : Stored) (candidate : Candidate) (now : Time) : Work (Except Failure Acknowledgement) := do
  let outcome := outcomeFrom stored.request stored.acknowledgement.acknowledgementID candidate.action.status now
    (proofDigest stored.request candidate.action.status now)
  if !attributable candidate.human then return .error (.coded .authorizationDenied "acknowledgement-attribution")
  else
    match ← decideRequest context ⟨stored.request, outcome, now, candidate.human.id⟩ with
    | .error failure => return .error failure
    | .ok (decided, changed) =>
      if !changed && decided.acknowledgement.proofDigest != outcome.proofDigest then
        return .error (.coded .planStale "acknowledgement")
      else return .ok decided.acknowledgement

/-- `Service.Decide`. -/
def decide (candidate : Candidate) : Work (Except Failure Acknowledgement) := do
  if !validCandidate candidate then return .error (.coded .authorizationDenied "acknowledgement-candidate")
  else
    match ← put context (.get candidate.planID) with
    | .error failure => return .error failure
    | .ok stored =>
      if !candidateMatchesRequest config candidate stored.request then
        return .error (← denyCandidate config context stored candidate (some (candidateMismatch candidate stored.request)))
      else if stored.acknowledgement.status != .pending then
        if stored.acknowledgement.status == candidate.action.status then return .ok stored.acknowledgement
        else return .error (← denyCandidate config context stored candidate (some .planStale))
      else
        let now ← put context .clock
        if stored.request.expiresAt ≤ now then
          match ← expire context stored now with
          | .error failure => return .error failure
          | .ok _ => return .error (← denyCandidate config context stored candidate (some .planStale))
        else if candidate.decidedAt < now - decisionClockSkew || now + decisionClockSkew < candidate.decidedAt then
          return .error (← denyCandidate config context stored candidate (some .planStale))
        else
          match ← put context (.run (.getPlan candidate.planID)) with
          | .error failure => return .error failure
          | .ok plan =>
            match ← validCurrentHumanPlan config context candidate.human plan with
            | .error failure => return .error (← denyCandidate config context stored candidate failure.code)
            | .ok () => settle context stored candidate now

/-- `Service.Status`. -/
def status (planID : String) : Work (Except Failure Acknowledgement) := do
  if !validRunToken planID then return .error (.coded .inputInvalid "acknowledgement")
  else
    match ← put context (.get planID) with
    | .error failure => return .error failure
    | .ok stored =>
      let now ← put context .clock
      if stored.acknowledgement.status == .pending && stored.request.expiresAt ≤ now then
        match ← expire context stored now with
        | .error failure => return .error failure
        | .ok expired => return .ok expired.acknowledgement
      else return .ok stored.acknowledgement

/-- The end of `verifyExecution`: the proof was consumed by this run before, or
is consumed now. -/
def claimProof (stored : Stored) (planID : String) (now : Time) : Work (Except Failure Acknowledgement) := do
  if stored.consumed then return .ok stored.acknowledgement
  else
    match ← consumeRequest context planID now with
    | .error failure => return .error failure
    | .ok (consumed, changed) =>
      if !changed || !consumed.consumed then return .error (.coded .planStale "acknowledgement-proof")
      else return .ok consumed.acknowledgement

def verifyForRunExecution (planID acknowledgementID : String) (claimedAt : Time) :
    Work (Except Failure Acknowledgement) := do
  if !validRunToken acknowledgementID || claimedAt.isZero || !validRunToken planID then
    return .error (.coded .inputInvalid "acknowledgement-proof")
  else
    match ← put context (.get planID) with
    | .error failure => return .error failure
    | .ok stored =>
      if stored.acknowledgement.status != .approved then
        return .error (← denyStored context stored "execution-replay" (.coded .planStale "acknowledgement-proof"))
      else if stored.acknowledgement.acknowledgementID != acknowledgementID then
        return .error (← denyStored context stored "execution-claim" (.coded .authorizationDenied "acknowledgement-proof"))
      else
        match ← put context (.verifyRunClaim planID acknowledgementID claimedAt) with
        | .error _ =>
          return .error (← denyStored context stored "execution-claim" (.coded .authorizationDenied "acknowledgement-proof"))
        | .ok () =>
          match ← put context (.run (.getPlan planID)) with
          | .error failure => return .error failure
          | .ok plan =>
            if !proofMatchesPlan config stored plan then
              return .error (← denyStored context stored "execution-binding"
                (.coded .authorizationDenied "acknowledgement-proof"))
            else
              match ← validCurrentHumanPlan config context ⟨stored.request.humanID, .slackSocketMode, some .human, ""⟩ plan with
              | .error failure => return .error (← denyStored context stored "execution-authorization" failure)
              | .ok () =>
                let now ← put context .clock
                if !stored.consumed && stored.acknowledgement.expiresAt ≤ now &&
                    stored.acknowledgement.expiresAt ≤ claimedAt then
                  return .error (← denyStored context stored "execution-expired" (.coded .planStale "acknowledgement-proof"))
                else
                  match ← validateCurrent context plan with
                  | .error _ => return .error (← denyStored context stored "execution-stale" (.coded .planStale "plan"))
                  | .ok () => claimProof context stored planID now

end Service

section Gate

variable (config : Config) (context : Operation)

def scheduledCredentialPlan (plan : Plan) : Bool :=
  ["x-scheduled-policy", "x-scheduled-occurrence", "x-scheduled-credential-bindings"].all (fun name =>
      plan.extensions.any fun extension => extension.name == name) &&
    plan.authorizationBranch == .preauthorized && plan.executorMode == .central

/-- `AdmissionGate.verify` of an execution target that is the plan's first.
Without a time the proof need not be fresh. A submission has bound its context
to the plan, so `credentialExternalAdmitted` only asks for mode and branch. -/
def verifyProof (plan : Plan) (decision : AuthorizationDecision) (acknowledgement : Option Acknowledgement)
    (now : Option Time) : Except Failure Unit := do
  ensure (plan.exactContract && !plan.operations.isEmpty && decision.exactContract && decision.allowed &&
    decision.action == "execute" && decision.planDigest == plan.planDigest &&
    decision.recoveryEpoch == plan.binding.recoveryEpoch && decision.branch == some plan.authorizationBranch)
    (.coded .authorizationDenied "run-admission")
  ensure (plan.operations.all fun operation => operation.adapterID != "core.gate" ||
    (plan.authorizationBranch == .human && plan.executorMode == .central && isGateOperation operation.operationType))
    (.coded .authorizationDenied "gate-human-admission")
  ensure (plan.operations.all fun operation => operation.adapterID != "core.credential" ||
    (plan.authorizationBranch == .human && plan.executorMode == .central &&
      isCredentialLifecycleOperation operation.operationType))
    (.coded .authorizationDenied "credential-lifecycle-human-admission")
  ensure (credentialPlanDigest plan == "" || (plan.executorMode == .external && plan.authorizationBranch == .human) ||
    ((plan.authorizationBranch == .human || scheduledCredentialPlan plan) && plan.executorMode == .central))
    (.coded .authorizationDenied "credential-human-central-admission")
  if plan.authorizationBranch = .preauthorized then
    ensure (acknowledgement == none) (.coded .authorizationDenied "run-admission")
  else
    ensure (acknowledgement.any fun proof => exactAcknowledgement proof && proof.status == .approved &&
      proof.planID == plan.planID && proof.planDigest == plan.planDigest &&
      proof.targetDigest == config.targetDigest plan && proof.reasonDigest == config.reasonDigest plan &&
      proof.stateRevision == plan.binding.stateRevision && proof.recoveryEpoch == plan.binding.recoveryEpoch &&
      now.all fun time => time < proof.expiresAt)
      (.coded .approvalRequired "acknowledgement")

def verify (plan : Plan) (decision : AuthorizationDecision) (acknowledgement : Option Acknowledgement)
    (now : Option Time) : Except Failure Unit := do
  ensure (config.firstExecutionTarget plan decision.targetID) (.coded .authorizationDenied "run-admission")
  verifyProof config plan decision acknowledgement now

/-- The human branch of `AdmissionGate.Activate` after its own checks. -/
def claimForRun (plan : Plan) (decision : AuthorizationDecision) (current : Run) (acknowledgement : Acknowledgement) :
    Work (Except Failure Unit) := do
  match ← verifyForRunExecution config context plan.planID acknowledgement.acknowledgementID current.createdAt with
  | .error failure => return .error failure
  | .ok verified =>
    if verified.acknowledgementID != acknowledgement.acknowledgementID then
      return .error (.coded .authorizationDenied "acknowledgement")
    else return verify config plan decision (some verified) none

/-- `AdmissionGate.Activate`. -/
def activate (plan : Plan) (decision : AuthorizationDecision) (current : Run) (acknowledgement : Option Acknowledgement) :
    Work (Except Failure Unit) := do
  match verify config plan decision acknowledgement none with
  | .error failure => return .error failure
  | .ok () =>
    if current.status != .queued || current.planID != plan.planID || current.planDigest != plan.planDigest ||
        current.recoveryEpoch != plan.binding.recoveryEpoch then
      return .error (.coded .stateConflict "run-admission")
    else if plan.authorizationBranch = .preauthorized then
      if current.acknowledgementID.isSome then return .error (.coded .authorizationDenied "run-admission")
      else return .ok ()
    else
      match acknowledgement with
      | none => return .error (.coded .approvalRequired "acknowledgement")
      | some proof =>
        if current.acknowledgementID != some proof.acknowledgementID then
          return .error (.coded .approvalRequired "acknowledgement")
        else claimForRun config context plan decision current proof

/-- `RunRepository.Create` around its transaction, the reply with its flag. -/
def createRun (request : RunCreateRequest) : Work (Except Failure (Run × Bool)) := do
  if !RunRepository.admissible request then return .error (.coded .inputInvalid "run")
  else
    match ← put context (.run (.existingRun request.submitKey request.request)) with
    | .error failure => return .error failure
    | .ok (some run) => return .ok (run, false)
    | .ok none =>
      match ← put context (.run (.createRun request)) with
      | .error failure => return .error failure
      | .ok (some run) => return .ok (run, true)
      | .ok none =>
        match ← put context (.run (.existingRun request.submitKey request.request)) with
        | .error failure => return .error failure
        | .ok (some run) => return .ok (run, false)
        | .ok none => return .error (.coded .integrityFailure "run")

/-- `Engine.submit` from the admission check to the boundary that follows
`Activate`. -/
def submit (submission : Submission) : Work Unit := do
  let now ← put context .clock
  match verify config submission.plan submission.authorization submission.acknowledgement (some now) with
  | .error _ => return ()
  | .ok () =>
    match ← createRun context submission.create with
    | .error _ => return ()
    | .ok (run, created) =>
      if !created && run.status != .queued then return ()
      else
        match ← activate config context submission.plan submission.authorization run submission.acknowledgement with
        | .error _ => return ()
        | .ok () => put context (.admissionActivated run)

end Gate

def serve {α : Type} (context : Operation) : Job α → Work α
  | .pure value => .pure value
  | .request call next => .request ⟨context, .run call⟩ fun reply => serve context (next reply)

def Operation.work (config : Config) (operation : Operation) : Work Unit :=
  match operation with
  | .request scope planID => do let _ ← Acknowledge.request config operation scope planID
  | .decide candidate => do let _ ← Acknowledge.decide config operation candidate
  | .status planID => do let _ ← Acknowledge.status operation planID
  | .submit submission => Acknowledge.submit config operation submission
  | .engine job => serve operation job

inductive Reaction where
  | clock (time : Time)
  | check (outcome : Except Failure Unit)
  | decision (outcome : Except Failure Bool)
  | store (fault : Fault Failure)
  | run (answer : Answer)
  | done

def answer (query : Query) (reaction : Reaction) (authority : Authority) : Option (query.Reply × Authority) :=
  match query, reaction with
  | .clock, .clock time => some (time, authority)
  | .validateCurrent _, .check outcome => some (outcome, authority)
  | .authorize _ _ _, .decision outcome => some (outcome, authority)
  | .get planID, .store fault => some (readState fault (Repository.get · planID) authority)
  | .create record, .store fault => some (commit fault (Repository.create · record) authority)
  | .decide record, .store fault => some (commit fault (Repository.decide · record) authority)
  | .consume stored planID time, .store fault => some (commit fault (Repository.consume · stored planID time) authority)
  | .verifyRunClaim planID id time, .store fault =>
    some (readState fault (Repository.verifyRunClaim · planID id time) authority)
  | .recordDenial record, .store fault => some (commit fault (Repository.recordDenial · record) authority)
  | .run call, .run choice =>
    (respond call choice authority.store).map fun outcome => (outcome.1, { authority with store := outcome.2 })
  | .admissionActivated _, .done => some ((), authority)
  | _, _ => none

abbrev office : Library.Service Ask Response where
  State := Authority
  Answer := Reaction
  respond := fun ask reaction authority => answer ask.query reaction authority

abbrev Record := Entry office

def execute (config : Config) (initial : Authority) (actions : List (Action office Operation)) : Option (System office) :=
  (System.boot initial : System office).run (Operation.work config) actions

end VskLabs.Acknowledge

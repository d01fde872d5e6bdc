import VskLabs.Run.OneWorkItem

/-! What an external success rests on. The lease is read, the receipt recorded
and the step finished in separate transactions, and a sweep may expire the lease
between any two of them. -/

namespace VskLabs
open Library RunRepository ExecutorLeaseRepository

def Achieves (record : Record) (runID stepID : String) : Prop :=
  Store.stage record.before runID stepID ≠ some (.succeeded, .verified) ∧
    Store.stage record.after runID stepID = some (.succeeded, .verified)

def liveFinish (record : Record) : Prop :=
  ∀ request, record.event.call = .mutate (.finishStep request) → ∀ row : LeaseRow,
    (Store.leases record.before).find? request.leaseID = some row → row.kind = .external → row.status = .active

/-- The receipt behind a finished step: recorded by the same thread while its
lease was active and before its expiry, exact to the lease and its current nonce,
and verified. -/
structure Authority (earlier : List Record) (thread : Nat) (request : StepFinishRequest) (recording : Record)
    (report : ExecutorReceiptPersistenceRequest) (row : LeaseRow) : Prop where
  prior : recording ∈ earlier
  own : recording.thread = thread
  recorded : ∃ receipt, recording.event = ⟨.recordExternalReceipt report, .ok receipt⟩
  receipt : report.request.receipt = request.receipt
  lease : (Store.leases recording.before).find? request.leaseID = some row
  external : row.kind = .external
  runID : row.runID = request.runID
  stepID : row.stepID = request.stepID
  active : row.status = .active
  binding : validExecutionReceiptBinding row.lease request.receipt = true
  early : report.time < row.lease.leaseExpiresAt
  verified : ∃ operation verification, verification.verified = true ∧
    ⟨.verifyReceipt operation request.receipt.status request.receipt.resultDigest, (verification, none)⟩ ∈
      eventsOf thread earlier

variable {runID : String}

theorem Move.achieves {stepID : String} {query : Call} {old new : Stage} (move : Move runID stepID query old new)
    (succeeded : new = (.succeeded, .verified)) :
    ∃ request, query = .mutate (.finishStep request) ∧ request.runID = runID ∧ request.stepID = stepID ∧
      request.status = .succeeded := by
  cases move with
  | finished request ofRun ofStep => exact ⟨request, rfl, ofRun, ofStep, congrArg Prod.fst succeeded⟩
  | begun | claimed | received | reported | doubted | failed | interrupted | requeued => cases succeeded
  | closed request ofRun status effect closing =>
    cases succeeded
    simp at closing

variable {earlier newer history : List Record}

theorem Took.achieves {resumes : Bool} {record : Record} (took : Took resumes earlier record)
    {stepID : String} (achieves : Achieves record runID stepID) :
    ∃ request, record.event.call = .mutate (.finishStep request) ∧ request.runID = runID ∧ request.stepID = stepID ∧
      request.status = .succeeded := by
  cases took.documents.stage runID stepID with
  | kept same =>
    rw [Achieves, same] at achieves
    exact absurd achieves.2 achieves.1
  | moved old new was now move =>
    rw [Achieves, now] at achieves
    exact move.achieves (Option.some.inj achieves.2)
  | created request asked law named absent present =>
    obtain ⟨plan, submitted⟩ := took.submitted asked
    have now := achieves.2
    simp only [Store.stage, present, Option.bind_some, Option.map_eq_some_iff] at now
    obtain ⟨step, found, stage⟩ := now
    have queued := (submitted.steps step (List.mem_of_find?_eq_some found)).1
    rw [RunStep.stage, queued] at stage
    cases stage
  | pruned now asked gone => simp [Achieves, Store.stage, gone] at achieves

/-! ### Leases over a history -/

variable {store after : Store} {row old new : LeaseRow}

theorem LeaseChange.external_row (change : LeaseChange store after)
    (sound : ∀ row ∈ store.leases.rows, row.Sound) (member : row ∈ after.leases.rows)
    (external : row.kind = .external) :
    (∃ old ∈ store.leases.rows, old.Follows row) ∨
      ∃ request run step, Claimed request run step store after ∧ row = leaseRow request.lease .external := by
  cases change with
  | kept leases nonces =>
    rw [leases] at member
    exact .inl ⟨row, member, .refl row⟩
  | acquired lease valid active leases nonces =>
    rcases (Table.mem_insert? leases).mp member with old | rfl
    · exact .inl ⟨row, old, .refl row⟩
    · cases external
  | claimed request run step claimed =>
    rcases (Table.mem_insert? claimed.leases).mp member with old | same
    · exact .inl ⟨row, old, .refl row⟩
    · exact .inr ⟨request, run, step, claimed, same⟩
  | renewed request read renewed =>
    have whole := sound read (Table.mem_of_find? renewed.read.found)
    obtain ⟨old, present, rfl⟩ := (renewed.leases row).mp member
    refine .inl ⟨old, present, ?_⟩
    split
    next chosen =>
      obtain rfl := (renewed.selected whole present).mp chosen
      exact renewed.follows whole
    next => exact .refl old
  | closed selected status inactive leases nonces =>
    rw [leases] at member
    obtain ⟨old, present, rfl⟩ := mem_closeLeases.mp member
    refine .inl ⟨old, present, ?_⟩
    split
    next chosen =>
      simp only [checks] at chosen
      exact .close chosen.2 status
    next => exact .refl old

def Store.Single (store : Store) : Prop :=
  ∀ first ∈ store.leases.rows, ∀ second ∈ store.leases.rows, first.kind = .external → second.kind = .external →
    first.stepID = second.stepID → first = second

theorem LeaseRow.Follows.stepID (follows : old.Follows new) : new.stepID = old.stepID := by
  rw [follows.same]

theorem LeaseRow.Follows.kind (follows : old.Follows new) : new.kind = old.kind := by
  rw [follows.same]

theorem LeaseChange.single (change : LeaseChange store after)
    (sound : ∀ row ∈ store.leases.rows, row.Sound) (single : store.Single) : after.Single := by
  intro first member second present external also same
  -- rows of one table with one id are one row
  have merge (ids : first.leaseID = second.leaseID) : first = second := by
    have here := Table.find?_eq_some_iff.mpr ⟨member, ids⟩
    have there := Table.find?_eq_some_iff.mpr ⟨present, rfl⟩
    exact Option.some.inj (here.symm.trans there)
  rcases change.external_row sound member external with ⟨old, older, follows⟩ | ⟨request, run, step, claimed, rfl⟩
  · rcases change.external_row sound present also with ⟨twin, elder, trails⟩ | ⟨request, run, step, claimed, rfl⟩
    · apply merge
      have one := single old older twin elder (follows.kind.symm.trans external) (trails.kind.symm.trans also)
        (follows.stepID.symm.trans (same.trans trails.stepID))
      rw [follows.leaseID, trails.leaseID, one]
    · exact absurd (follows.stepID.symm.trans same) (claimed.unleased old older)
  · rcases change.external_row sound present also with ⟨twin, elder, trails⟩ | ⟨again, _, _, reclaimed, rfl⟩
    · exact absurd (trails.stepID.symm.trans same.symm) (claimed.unleased twin elder)
    · have rows := (Table.insert?_eq_some claimed.leases).2.symm.trans (Table.insert?_eq_some reclaimed.leases).2
      simpa using rows

section History

variable {resumes : Bool} {initial final : Store}

theorem Took.leaseChange {record : Record} (took : Took resumes earlier record)
    (unpruned : ∀ now, record.event.call ≠ .pruneRunHistory now) : LeaseChange record.before record.after := by
  rcases took.effect with same | committed
  · rw [same]
    exact .kept rfl rfl
  · exact committed.leaseChange unpruned

theorem Took.continues {record : Record} (took : Took resumes earlier record)
    (unpruned : ∀ now, record.event.call ≠ .pruneRunHistory now) : Store.Continues record.before record.after :=
  (took.leaseChange unpruned).continues took.sane.leases

theorem Chronicle.continues {older : List Record} {record : Record}
    (chronicle : Chronicle resumes initial (newer ++ record :: older) final)
    (unpruned : ∀ later ∈ newer, ∀ now, later.event.call ≠ .pruneRunHistory now) :
    Store.Continues record.after final := by
  induction newer generalizing final with
  | nil =>
    obtain ⟨rfl, _⟩ := chronicle.cons
    exact .refl _
  | cons last rest ih =>
    obtain ⟨rfl, took, before⟩ := chronicle.cons
    obtain ⟨here, others⟩ := List.forall_mem_cons.mp unpruned
    exact (ih before others).trans (took.continues here)

theorem Chronicle.single {plans : Table Plan.planID} {revision epoch : Int} {final : Store}
    (chronicle : Chronicle resumes (Store.fresh plans revision epoch) history final)
    (unpruned : ∀ record ∈ history, ∀ now, record.event.call ≠ .pruneRunHistory now) : final.Single := by
  induction history generalizing final with
  | nil =>
    have same : final = Store.fresh plans revision epoch := chronicle.linked
    rw [same]
    intro first member
    cases member
  | cons last earlier ih =>
    obtain ⟨rfl, took, before⟩ := chronicle.cons
    obtain ⟨here, others⟩ := List.forall_mem_cons.mp unpruned
    exact (took.leaseChange here).single took.sane.leases (ih before others)

end History

theorem Continued.find {before : Store} (continues : before.Continues after) {leaseID : String}
    (found : before.leases.find? leaseID = some row) :
    ∃ new, after.leases.find? leaseID = some new ∧ row.Follows new := by
  obtain ⟨new, member, follows⟩ := continues.leases row (Table.mem_of_find? found)
  exact ⟨new, Table.find?_eq_some_iff.mpr ⟨member, follows.leaseID.trans (Table.find?_key found)⟩, follows⟩

variable {report : ExecutorReceiptPersistenceRequest}

theorem ExecutorLeaseRepository.Reported.late (reported : Reported report row store after) (sound : row.Sound)
    (late : row.lease.leaseExpiresAt ≤ report.time) (active : row.status = .active)
    (found : after.leases.find? report.request.receipt.leaseID = some new) : new.status = .expired := by
  have leases := reported.leases
  rw [if_pos (by simp [active, late])] at leases
  have member := Table.mem_of_find? found
  rw [leases] at member
  obtain ⟨old, present, rfl⟩ := mem_closeLeases.mp member
  have key : old.leaseID = report.request.receipt.leaseID := by
    have key := Table.find?_key found
    split at key
    · exact key
    · exact key
  have same : old = row := by
    have here := Table.find?_eq_some_iff.mpr ⟨present, key⟩
    exact Option.some.inj (here.symm.trans reported.read.found)
  subst same
  rw [if_pos (by simp [active, sound.leaseID])]

variable {lease : ExecutorLease}

theorem validExecutionReceiptBinding_ids {receipt : ExecutionReceipt}
    (binding : validExecutionReceiptBinding lease receipt = true) :
    lease.leaseID = receipt.leaseID ∧ lease.runID = receipt.runID ∧ lease.stepID = receipt.stepID := by
  simp only [validExecutionReceiptBinding, checks, and_assoc] at binding
  obtain ⟨leaseID, _, _, runID, stepID, _⟩ := binding
  exact ⟨leaseID, runID, stepID⟩

section Authority

variable {plans : Table Plan.planID} {revision epoch : Int} {older : List Record} {record : Record}

theorem Verified.authority (chronicle : Chronicle false (Store.fresh plans revision epoch) older record.before)
    (unpruned : ∀ record ∈ older, ∀ now, record.event.call ≠ .pruneRunHistory now) (live : liveFinish record)
    {request : StepFinishRequest} (asked : record.event.call = .mutate (.finishStep request))
    (verified : Verified (eventsOf record.thread older) request lease report) :
    ∃ recording row new, Authority older record.thread request recording report row ∧
      (Store.leases record.before).find? request.leaseID = some new ∧ row.Follows new := by
  obtain ⟨receipt, member⟩ := verified.recorded
  obtain ⟨recording, present, own, happened⟩ := mem_eventsOf member
  obtain ⟨later, sooner, rfl⟩ := List.append_of_mem present
  have took := chronicle.split.1
  have truthful := took.truthful
  rw [happened] at truthful
  obtain ⟨row, reported⟩ := recordReceipt_law truthful
  -- the receipt names the lease the step is finished under
  obtain ⟨ofLease, ofRun, ofStep⟩ := validExecutionReceiptBinding_ids verified.binding
  have named : report.request.receipt.leaseID = request.leaseID := by
    rw [verified.receipt, verified.leaseID]
    exact ofLease.symm
  have found := reported.read.found
  rw [named] at found
  have sound := took.sane.leases row (Table.mem_of_find? found)
  have steady := took.continues (unpruned recording present)
  have stays := chronicle.continues fun later member => unpruned later (List.mem_append_left _ member)
  obtain ⟨middle, recorded, follows⟩ := Continued.find steady found
  obtain ⟨new, now, trails⟩ := Continued.find stays recorded
  have active : new.status = .active := by
    apply live request asked new now
    rw [trails.kind, follows.kind]
    exact reported.read.external
  have kept : middle.status = .active := by
    by_contra inactive
    rw [trails.left inactive] at active
    exact inactive active
  have alive : row.status = .active := by
    by_contra inactive
    rw [follows.left inactive] at kept
    exact inactive kept
  have early : report.time < row.lease.leaseExpiresAt := by
    by_contra late
    have expired := reported.late sound (not_lt.mp late) alive (by rw [named]; exact recorded)
    rw [kept] at expired
    cases expired
  have binding : validExecutionReceiptBinding row.lease request.receipt = true := by
    rw [← verified.receipt]
    exact reported.binding
  obtain ⟨_, sameRun, sameStep⟩ := validExecutionReceiptBinding_ids binding
  refine ⟨recording, row, new, ?_, now, follows.trans trails⟩
  constructor
  case prior => exact present
  case own => exact own
  case recorded => exact ⟨receipt, happened⟩
  case receipt => exact verified.receipt
  case lease => exact found
  case external => exact reported.read.external
  case runID => rw [← sound.runID, sameRun, ← ofRun, verified.runID]
  case stepID => rw [← sound.stepID, sameStep, ← ofStep, verified.stepID]
  case active => exact alive
  case binding => exact binding
  case early => exact early
  case verified => exact verified.verified

section Whole

variable {final : Store} (chronicle : Chronicle false (Store.fresh plans revision epoch) history final)
  (unique : Along collisionFree history) (split : history = newer ++ record :: older)
include chronicle unique split

theorem Chronicle.central (entitled : Entitled (eventsOf record.thread older) runID) : ¬ ExternalRun plans history runID := by
  apply chronicle.entitled unique _ split entitled
  intro earlier member runID resumed
  rw [chronicle.unresumed member] at resumed
  cases resumed

theorem Chronicle.achieves
    (unpruned : ∀ record ∈ older, ∀ now, record.event.call ≠ .pruneRunHistory now) (live : liveFinish record)
    {stepID : String} (external : ExternalRun plans history runID) (achieves : Achieves record runID stepID) :
    ∃ request recording report row new, record.event.call = .mutate (.finishStep request) ∧ request.runID = runID ∧
      request.stepID = stepID ∧ Authority older record.thread request recording report row ∧
      (Store.leases record.before).find? request.leaseID = some new ∧ row.Follows new := by
  have whole := chronicle
  rw [split] at whole
  obtain ⟨took, before⟩ := whole.split
  obtain ⟨request, asked, ofRun, ofStep, _⟩ := took.achieves achieves
  have permitted := took.permitted
  rw [asked] at permitted
  rcases permitted with entitled | ⟨lease, report, verified⟩
  · have central := chronicle.central unique split entitled
    rw [ofRun] at central
    exact absurd external central
  · obtain ⟨recording, row, new, authority, found, follows⟩ := verified.authority before unpruned live asked
    exact ⟨request, recording, report, row, new, asked, ofRun, ofStep, authority, found, follows⟩

end Whole

theorem Chronicle.stays_expired (chronicle : Chronicle false (Store.fresh plans revision epoch) older record.before)
    (unpruned : ∀ record ∈ older, ∀ now, record.event.call ≠ .pruneRunHistory now) {expiry : Record}
    (member : expiry ∈ older) {row : LeaseRow} (present : row ∈ (Store.leases expiry.after).rows)
    (expired : row.status = .expired) : row ∈ (Store.leases record.before).rows := by
  obtain ⟨later, sooner, rfl⟩ := List.append_of_mem member
  have stays := chronicle.continues fun later member => unpruned later (List.mem_append_left _ member)
  obtain ⟨new, remains, follows⟩ := stays.leases row present
  rwa [follows.left (by rw [expired]; decide)] at remains

end Authority

/-- In every run without resumptions and pruning in which steps are finished under
active leases only: an external step succeeds only with live verified authority,
and after its lease has expired it never succeeds and is never leased again. -/
theorem external_success_needs_live_authority {config : EngineConfig} {plans : Table Plan.planID} {revision epoch : Int}
    {deeds : List (Action world Unresuming)} {system : System world}
    (ran : executeUnresuming config (Store.fresh plans revision epoch) deeds = some system)
    (unique : Along collisionFree system.history)
    (unpruned : ∀ record ∈ system.history, ∀ now, record.event.call ≠ .pruneRunHistory now)
    (live : ∀ record ∈ system.history, liveFinish record) {runID stepID : String}
    (external : ExternalRun plans system.history runID) {newer older : List Record} {record : Record}
    (split : system.history = newer ++ record :: older) :
    (Achieves record runID stepID → ∃ request recording report row, record.event.call = .mutate (.finishStep request) ∧
      request.runID = runID ∧ request.stepID = stepID ∧ Authority older record.thread request recording report row) ∧
    ∀ expiry ∈ older, ∀ row ∈ (Store.leases expiry.after).rows, row.kind = .external → row.runID = runID →
      row.stepID = stepID → row.status = .expired →
      ¬ Achieves record runID stepID ∧
      (∀ request, record.event.call = .claimLease request → request.lease.stepID = stepID → record.after = record.before) ∧
      ∀ lease, record.event.call = .acquireTargetLease lease → lease.runID ≠ runID := by
  have chronicle := Chronicle.of_unresuming ran
  have whole := chronicle
  rw [split] at whole
  obtain ⟨took, before⟩ := whole.split
  have inside : older ⊆ system.history := by
    rw [split]
    exact fun earlier member => List.mem_append_right _ (.tail _ member)
  have unpruned := fun earlier member => unpruned earlier (inside member)
  have live : liveFinish record := live record (by rw [split]; simp)
  refine ⟨?_, ?_⟩
  · intro achieves
    obtain ⟨request, recording, report, row, _, asked, ofRun, ofStep, authority, _⟩ :=
      chronicle.achieves unique split unpruned live external achieves
    exact ⟨request, recording, report, row, asked, ofRun, ofStep, authority⟩
  intro expiry member row present kind ofRun ofStep expired
  have remains := before.stays_expired unpruned member present expired
  refine ⟨?_, ?_, ?_⟩
  · -- the step would be finished under the same lease, and that lease is active
    intro achieves
    obtain ⟨request, recording, report, used, new, asked, _, sameStep, authority, found, follows⟩ :=
      chronicle.achieves unique split unpruned live external achieves
    have one : row = new := by
      apply before.single unpruned row remains new (Table.mem_of_find? found) kind
      · rw [follows.kind]
        exact authority.external
      · rw [follows.stepID, authority.stepID, sameStep, ofStep]
    have active := live request asked new found (by rw [follows.kind]; exact authority.external)
    rw [← one, expired] at active
    cases active
  · intro request asked sameStep
    rcases took.effect with same | committed
    · exact same
    · rw [asked] at committed
      obtain ⟨run, step, claimed⟩ := claim_law committed.choose_spec
      exact absurd (ofStep.trans sameStep.symm) (claimed.unleased row remains)
  · rintro lease asked rfl
    have permitted := took.permitted
    rw [asked] at permitted
    exact chronicle.central unique split permitted external

/-! The work of the sample plan is claimed at second 12, so its lease expires at
second 72. Its receipt is handed in at second 71. -/

def workReceipt : ExecutionReceipt :=
  ⟨"lease", "plan", zeros, "run", "run", "op", "worker", "adapter", "target", zeros, zeros, ones, 1, "receipt", .succeeded,
    twos, none, 13, []⟩

def claimsWork : List (Action world Unresuming) :=
  submits 0 "plan" "run" ++ looksForWork 1 11 ones ++ takesWork 1 "lease"

def handsIn (thread : Nat) : List (Action world Unresuming) :=
  .spawn ⟨.submitReceipt worker ⟨workReceipt, zeros, []⟩, rfl⟩ ::
  tells thread [accepted, accepted, accepted, passed, .adapter (.ok ⟨false, false, true⟩), .clock 71]

def settlesWork (thread : Nat) : List (Action world Unresuming) :=
  tells thread [accepted, .receipt (⟨true, twos, true⟩, none), accepted]

def overtakenReceipt : List (Action world Unresuming) :=
  claimsWork ++ handsIn 2 ++ .spawn ⟨.reconcileLeases, rfl⟩ :: tells 3 [.clock 72, accepted] ++ settlesWork 2

instance (record : Record) (runID stepID : String) : Decidable (Achieves record runID stepID) :=
  inferInstanceAs (Decidable (_ ∧ _))

def lapsedFor (runID stepID : String) (row : LeaseRow) : Bool :=
  row.kind == .external && row.runID == runID && row.stepID == stepID && row.status == .expired

theorem external_of_document {deeds : List (Action world Unresuming)} {system : System world}
    (ran : executeUnresuming sampleConfig twoPlans deeds = some system)
    (stored : ∃ run, system.state.document "run" = some run ∧ run.runID = "run" ∧ run.executorMode = .external) :
    ExternalRun ⟨[samplePlan, otherPlan], by decide⟩ system.history "run" := by
  obtain ⟨run, found, same, external⟩ := stored
  rw [← same] at found ⊢
  exact (Chronicle.of_unresuming ran).stored_external found external

theorem expired_lease_succeeds :
    ∃ system record older expiry row, executeUnresuming sampleConfig twoPlans overtakenReceipt = some system ∧
      Along collisionFree system.history ∧ ExternalRun ⟨[samplePlan, otherPlan], by decide⟩ system.history "run" ∧
      system.history = record :: older ∧ expiry ∈ older ∧ row ∈ (Store.leases expiry.after).rows ∧
      lapsedFor "run" "run" row = true ∧ Achieves record "run" "run" := by
  have found : ((executeUnresuming sampleConfig twoPlans overtakenReceipt).any fun system => clashFree system.history &&
      (system.state.document "run").any (fun run => run.runID == "run" && run.executorMode == .external) &&
      system.history.head?.any (fun record => decide (Achieves record "run" "run")) &&
      system.history.tail.any fun expiry => (Store.leases expiry.after).rows.any (lapsedFor "run" "run")) = true := by
    decide +kernel
  simp only [finds, checks] at found
  obtain ⟨system, ran, ⟨⟨free, stored⟩, record, newest, achieves⟩, expiry, member, row, present, expired⟩ := found
  exact ⟨system, record, system.history.tail, expiry, row, ran, along_of_clashFree free, external_of_document ran stored,
    (List.cons_head?_tail newest).symm, member, present, expired, achieves⟩

def prunes : Call → Bool
  | .pruneRunHistory _ => true
  | _ => false

def finishesLate (record : Record) : Bool :=
  match record.event.call with
  | .mutate (.finishStep request) => ((Store.leases record.before).find? request.leaseID).any fun row =>
      row.kind == .external && row.status != .active
  | _ => false

theorem liveFinish_of_finishesLate {record : Record} (timely : finishesLate record = false) : liveFinish record := by
  intro request asked row found external
  simp only [finishesLate, asked, found, Option.any_some, external, beq_self_eq_true, Bool.true_and,
    bne_eq_false_iff_eq] at timely
  exact timely

/-- Without the sweep the step succeeds with live authority. -/
theorem timely_receipt_succeeds :
    ∃ system record older request recording report row,
      executeUnresuming sampleConfig twoPlans (claimsWork ++ handsIn 2 ++ settlesWork 2) = some system ∧
      system.history = record :: older ∧ Achieves record "run" "run" ∧
      record.event.call = .mutate (.finishStep request) ∧ Authority older record.thread request recording report row := by
  have found : ((executeUnresuming sampleConfig twoPlans (claimsWork ++ handsIn 2 ++ settlesWork 2)).any fun system =>
      clashFree system.history &&
      (system.state.document "run").any (fun run => run.runID == "run" && run.executorMode == .external) &&
      system.history.head?.any (fun record => decide (Achieves record "run" "run")) &&
      system.history.all fun record => !prunes record.event.call && !finishesLate record) = true := by
    decide +kernel
  simp only [finds, checks] at found
  obtain ⟨system, ran, ⟨⟨free, stored⟩, record, newest, achieves⟩, calm⟩ := found
  have split : system.history = [] ++ record :: system.history.tail := (List.cons_head?_tail newest).symm
  have authority := (external_success_needs_live_authority ran (along_of_clashFree free)
    (fun earlier member now asked => by
      have unpruned := (calm earlier member).1
      rw [asked] at unpruned
      cases unpruned)
    (fun earlier member => liveFinish_of_finishesLate (calm earlier member).2) (external_of_document ran stored) split).1
    achieves
  obtain ⟨request, recording, report, row, asked, _, _, authority⟩ := authority
  exact ⟨system, record, system.history.tail, request, recording, report, row, ran, split, achieves, asked, authority⟩

end VskLabs

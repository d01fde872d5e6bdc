import VskLabs.Run.Edits
import VskLabs.Store.Pruning

/-! The columns of a run row repeat what its document says, in every state the
system can reach. -/

namespace VskLabs
open Library RunRepository ExecutorLeaseRepository

variable {mutation : Mutation} {store after : Store} {result : Option Run} {query : Call}

theorem Mutation.apply_frame (done : mutation.apply store = .ok (result, after)) :
    after = { store with
      runs := after.runs, steps := after.steps, receipts := after.receipts, details := after.details
      intents := after.intents } := by
  rcases Mutation.apply_rewrites done with ⟨_, _, rfl⟩ | ⟨run, mutate, _, mutated, body⟩
  · rfl
  · obtain ⟨row, middle, intents, _, _, changed, _, _, _, rfl⟩ := mutated.applied
    rw [(body changed).1.store]
    rfl

structure RunRow.Agrees (row : RunRow) : Prop where
  runID : row.run.runID = row.runID
  planID : row.run.planID = row.planID
  status : row.run.status = row.status

def Store.Agreed (store : Store) : Prop := ∀ row ∈ store.runs.rows, row.Agrees

theorem Store.Agreed.find?_runID (agreed : store.Agreed) {row : RunRow} {runID : String}
    (found : store.runs.find? runID = some row) : row.run.runID = runID := by
  rw [(agreed row (Table.mem_of_find? found)).runID, Table.find?_key found]

theorem Store.Agreed.write (agreed : store.Agreed) {run : Run} {row : RunRow}
    (found : store.runs.find? run.runID = some row) (planID : run.planID = row.planID)
    (rows : ∀ new ∈ after.runs.rows, ∃ old ∈ store.runs.rows, new = old ∨
      (old.runID = run.runID ∧ new.runID = old.runID ∧ new.planID = old.planID ∧ new.run = run ∧
        new.status = run.status)) : after.Agreed := by
  intro new member
  obtain ⟨old, present, rfl | ⟨mine, sameID, samePlan, document, status⟩⟩ := rows new member
  · exact agreed new present
  · have same : old = row := by
      have other := Table.find?_eq_some_iff.mpr ⟨present, mine⟩
      rw [found] at other
      exact (Option.some.inj other).symm
    refine ⟨?_, ?_, ?_⟩
    · rw [document, sameID, mine]
    · rw [document, samePlan, same, planID]
    · rw [document, status]

theorem Mutation.apply_agreed
    (done : mutation.apply store = .ok (result, after)) (agreed : store.Agreed) : after.Agreed := by
  rcases Mutation.apply_rewrites done with ⟨_, _, rfl⟩ | ⟨run, mutate, _, mutated, body⟩
  · exact agreed
  · obtain ⟨row, found, runID, planID, runs⟩ := mutated.runs fun ran => (body ran).1
    have own := agreed row (Table.mem_of_find? found)
    have here : store.runs.find? run.runID = some row := by
      rw [runID, agreed.find?_runID found]
      exact found
    refine agreed.write here (planID.trans own.planID) fun new member => ?_
    rw [runs] at member
    obtain ⟨old, present, rfl⟩ := Table.mem_modify.mp member
    refine ⟨old, present, ?_⟩
    split
    next chosen => exact .inr ⟨by simpa using chosen, rfl, rfl, rfl, rfl⟩
    next => exact .inl rfl

theorem Store.Agreed.of_runs (agreed : store.Agreed) (same : after.runs = store.runs) :
    after.Agreed := by
  intro row member
  rw [same] at member
  exact agreed row member

theorem Store.Agreed.writeBack (agreed : store.Agreed) {row : RunRow} {runID : String} {run : Run}
    (runs : after.runs = writtenBack store run)
    (found : store.runs.find? runID = some row) (sameID : run.runID = row.run.runID)
    (samePlan : run.planID = row.run.planID) (sameStatus : run.status = row.run.status) : after.Agreed := by
  have own := agreed row (Table.mem_of_find? found)
  have here : store.runs.find? run.runID = some row := by
    rw [sameID, agreed.find?_runID found]
    exact found
  have running (old : RunRow) (mine : old.runID = run.runID) (present : old ∈ store.runs.rows) :
      run.status = old.status := by
    have equal := Table.find?_eq_some_iff.mpr ⟨present, mine⟩
    rw [here] at equal
    cases equal
    exact sameStatus.trans own.status
  refine agreed.write here (samePlan.trans own.planID) fun new member => ?_
  rw [runs] at member
  obtain ⟨old, present, rfl⟩ := mem_writtenBack.mp member
  refine ⟨old, present, ?_⟩
  split
  next chosen =>
    simp only [checks] at chosen
    exact .inr ⟨chosen.1, rfl, rfl, rfl, (running old chosen.1 present).symm⟩
  next => exact .inl rfl

def Call.key : Call → Option IntentKey
  | .createRun request => some (.runSubmit request.submitKey)
  | .mutate mutation => some (.runMutation mutation.runID mutation.event)
  | .acquireTargetLease lease => some (.runLease lease.leaseID)
  | .claimRunOperation operation reference _ => some (.runOperationClaim operation reference.runID reference.idempotencyKey)
  | .completeRunOperation operation reference _ _ _ =>
    some (.runOperationComplete operation reference.runID reference.idempotencyKey)
  | .claimLease request => some (.executorLeaseClaim request.lease.leaseID)
  | .renewLease request => some (.executorLeaseRenew request.request.leaseID request.request.nonceDigest)
  | .expireLeases time => some (.executorLeaseExpire time)
  | .recordExternalReceipt request => some (.executorReceipt request.request.receipt.receiptID)
  | _ => none

/-- What a committed call did, with the state it left. -/
inductive Transacted (store : Store) : Call → Store → Prop where
  | nothing (query : Call) : Transacted store query store
  | created (request : RunCreateRequest) {after : Store} (law : Created request store after) :
      Transacted store (.createRun request) after
  | mutated (mutation : Mutation) {result : Option Run} {after : Store} (done : mutation.apply store = .ok (result, after)) :
      Transacted store (.mutate mutation) after
  | acquired (lease : ExecutorLease) {leases : Table LeaseRow.leaseID} {intents : Table IntentRow.key}
      (valid : validLease lease = true) (active : lease.status = .active)
      (added : store.leases.insert? (leaseRow lease .central) = some leases)
      (noted : store.Noted (.runLease lease.leaseID) { store with leases := leases, intents := intents }) :
      Transacted store (.acquireTargetLease lease) { store with leases := leases, intents := intents }
  | released (query : Call) (selected : LeaseRow → Bool) : Transacted store query (closeLeases store selected .released)
  | expired (time : Time) {intents : Table IntentRow.key}
      (noted : store.Noted (.executorLeaseExpire time) { store with intents := intents }) :
      Transacted store (.expireLeases time) { closeLeases store (lapsed store time) .expired with intents := intents }
  | claimed (request : ExecutorLeaseClaimRequest) {row : RunRow} {step : RunStep} {after : Store}
      (law : Claimed request row step store after) : Transacted store (.claimLease request) after
  | renewed (request : ExecutorLeaseRenewalRequest) {row : LeaseRow} {after : Store} (law : Renewed request row store after) :
      Transacted store (.renewLease request) after
  | reported (request : ExecutorReceiptPersistenceRequest) {row : LeaseRow} {after : Store}
      (law : Reported request row store after) : Transacted store (.recordExternalReceipt request) after
  | operated {query : Call} {key : IntentKey} (own : query.key = some key) {operationKeys : Table OperationRow.key}
      {intents : Table IntentRow.key} (noted : store.Noted key { store with intents := intents }) :
      Transacted store query { store with operationKeys := operationKeys, intents := intents }
  | advanced : Transacted store .advanceState { store with stateRevision := store.stateRevision + 1 }
  | referenced (row : ReferenceRow) :
      Transacted store (.insertReference row) { store with references := store.references ++ [row] }
  | pruned (now : Time) : Transacted store (.pruneRunHistory now) (Retention.pruned store now)

theorem Committed.transacted (committed : Committed query store after) : Transacted store query after := by
  cases query with
  | createRun request =>
    rcases create_law committed.choose_spec with ⟨_, rfl⟩ | ⟨_, created⟩
    · exact .nothing _
    · exact .created request created
  | mutate mutation => exact .mutated mutation committed.choose_spec
  | acquireTargetLease lease =>
    obtain ⟨_, done⟩ := committed
    simp only [acquireTargetLease, peel, Prod.mk.injEq] at done
    obtain ⟨_, valid, ⟨created, final⟩, ran, _, rfl⟩ := done
    rcases executeAuditIntent_cases ran with ⟨_, _, rfl⟩ | ⟨_, middle, intents, _, body, added, _, rfl⟩
    · exact .nothing _
    · simp only [peel, Prod.mk.injEq, checks] at body
      obtain ⟨_, _, _, ⟨_, active⟩, leased, inserted, _, rfl⟩ := body
      obtain ⟨leases, frame⟩ := insertLease_law inserted
      rw [frame] at added ⊢
      exact .acquired lease valid active leases (.of_insert rfl added _ rfl)
  | releaseTargetLease leaseID time =>
    obtain ⟨_, done⟩ := committed
    simp only [releaseTargetLease, peel, Prod.mk.injEq] at done
    obtain ⟨_, _, _, _, _, rfl⟩ := done
    exact .released _ _
  | releaseRunLeases runID time =>
    rw [releaseRunLeases_law committed.choose_spec]
    exact .released _ _
  | pruneRunHistory now =>
    rw [(Retention.pruneRunHistory_eq_ok committed.choose_spec).2.2]
    exact .pruned now
  | claimRunOperation operation reference time =>
    obtain ⟨_, done⟩ := committed
    simp only [claimRunOperation, peel, Prod.mk.injEq] at done
    obtain ⟨_, _, ⟨created, final⟩, ran, _, rfl⟩ := done
    rcases executeAuditIntent_cases ran with ⟨_, _, rfl⟩ | ⟨_, middle, intents, _, body, added, _, rfl⟩
    · exact .nothing _
    · simp only [peel, Prod.mk.injEq] at body
      obtain ⟨_, _, keys, _, _, rfl⟩ := body
      exact .operated rfl (.of_insert rfl added _ rfl)
  | completeRunOperation operation reference run errorCode time =>
    obtain ⟨_, done⟩ := committed
    simp only [completeRunOperation, peel, Prod.mk.injEq] at done
    obtain ⟨_, _, ⟨created, final⟩, ran, _, rfl⟩ := done
    rcases executeAuditIntent_cases ran with ⟨_, _, rfl⟩ | ⟨_, middle, intents, _, body, added, _, rfl⟩
    · exact .nothing _
    · simp only [peel, Prod.mk.injEq] at body
      obtain ⟨_, _, _, rfl⟩ := body
      exact .operated rfl (.of_insert rfl added _ rfl)
  | claimLease request =>
    obtain ⟨row, step, claimed⟩ := claim_law committed.choose_spec
    exact .claimed request claimed
  | renewLease request =>
    obtain ⟨row, renewed⟩ := renew_law committed.choose_spec
    exact .renewed request renewed
  | expireLeases time =>
    obtain ⟨_, done⟩ := committed
    simp only [expire, peel] at done
    obtain ⟨_, _, done⟩ := done
    rcases executeAuditIntent_cases done with ⟨_, _, rfl⟩ | ⟨_, middle, intents, _, body, added, _, rfl⟩
    · exact .nothing _
    · simp only [expireInTx, peel, Prod.mk.injEq] at body
      obtain ⟨expired, _, _, rfl⟩ := body
      exact .expired time (.of_insert rfl added _ rfl)
  | recordExternalReceipt request =>
    obtain ⟨row, reported⟩ := recordReceipt_law committed.choose_spec
    exact .reported request reported
  | advanceState =>
    obtain ⟨_, done⟩ := committed
    cases done
    exact .advanced
  | insertReference row =>
    obtain ⟨_, done⟩ := committed
    simp only [Retention.insertReference, peel, Prod.mk.injEq] at done
    obtain ⟨_, _, _, rfl⟩ := done
    exact .referenced row
  | _ => exact committed.elim

theorem Committed.agreed (committed : Committed query store after)
    (agreed : store.Agreed) : after.Agreed := by
  cases committed.transacted with
  | created request created =>
    intro row member
    rcases (Table.mem_insert? created.runs).mp member with old | rfl
    · exact agreed row old
    · exact ⟨rfl, rfl, rfl⟩
  | mutated mutation done => exact Mutation.apply_agreed done agreed
  | claimed request claimed => exact agreed.writeBack claimed.runs claimed.found rfl rfl rfl
  | reported request reported =>
    rcases reported.effect with ⟨_, same, _⟩ | ⟨_, row, step, found, _, _, _, _, _, runs, _⟩
    · exact agreed.of_runs same
    · exact agreed.writeBack runs found rfl rfl rfl
  | pruned now => exact fun row member => agreed row (Table.mem_delete.mp member).1
  | renewed request renewed => exact agreed.of_runs (by rw [renewed.others])
  | _ => exact agreed

theorem respond_agreed {answer : Answer} {reply : Reply query}
    (answered : respond query answer store = some (reply, after)) (agreed : store.Agreed) : after.Agreed := by
  rcases respond_cases answered with rfl | committed
  · exact agreed
  · exact committed.agreed agreed

/-- What a mutation that was no replay did to the tables: one document is
rewritten, one key recorded, and the step and receipt rows are those of its
body. -/
structure Wrote (store : Store) (runID : String) (event : RunEvent) (run : Run) (middle after : Store) : Prop where
  fresh : ¬ store.Recorded (.runMutation runID event)
  document : ∀ wanted, after.document wanted = if wanted = runID then some run else store.document wanted
  recorded : ∀ key, after.Recorded key ↔ key = .runMutation runID event ∨ store.Recorded key
  leases : after.leases = store.leases
  steps : after.steps = middle.steps
  receipts : after.receipts = middle.receipts
  observations : after.observations = store.observations
  plans : after.plans = store.plans

theorem RunRepository.Effected.wrote {runID : String} {event : RunEvent}
    {law : Run → Run → Store → Prop} (effected : Effected store runID event result after law) (agreed : store.Agreed) :
    (store.Recorded (.runMutation runID event) ∧ result = none ∧ after = store) ∨
      ∃ old run middle, result = some run ∧ store.document runID = some old ∧ old.runID = runID ∧
        run.runID = runID ∧ validRunDocument old = true ∧ law old run middle ∧ Wrote store runID event run middle after := by
  rcases effected with replay | ⟨run, mutate, same, mutated, body⟩
  · exact .inl replay
  obtain ⟨row, found, own, _, runs⟩ := mutated.runs fun ran => (body ran).1
  obtain ⟨stored, middle, intents, present, valid, changed, _, _, added, written⟩ := mutated.applied
  rw [found] at present
  cases present
  obtain ⟨kept, done⟩ := body changed
  have mine := agreed.find?_runID found
  have others : writeRun middle run = { store with
      runs := (writeRun middle run).runs, steps := middle.steps, receipts := middle.receipts
      details := (writeRun middle run).details } := by
    rw [kept.store]
    rfl
  rw [others] at written
  refine .inr ⟨row.run, run, middle, same, ?_, mine, own.trans mine, valid, done, ?_⟩
  · simp [Store.document, found]
  refine ⟨by simp [Store.Recorded, mutated.fresh], fun wanted => ?_, fun key => ?_, ?_, ?_, ?_, ?_, ?_⟩
  · simp only [Store.document, runs, Table.find?_modify, Bool.and_true, checks, own, mine]
    by_cases here : wanted = runID
    · subst here
      simp [found, Table.find?_key found]
    · cases other : store.runs.find? wanted with
      | none => simp [here]
      | some old => simp [here, Table.find?_key other]
  · have lookup := Table.find?_insert? added key
    rw [kept.intents] at lookup
    simp only [Store.Recorded, written, lookup]
    by_cases same : IntentKey.runMutation runID event = key
    · simp [same]
    · simp [same, Ne.symm same]
  all_goals rw [written]

end VskLabs

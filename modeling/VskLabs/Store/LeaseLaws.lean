import VskLabs.Store.Laws

/-! What the committed transactions on leases did, in full. -/

namespace VskLabs
open Library

variable {lease : ExecutorLease}

theorem RunRepository.insertLease_law {store after : Store} {kind : ExecutorMode}
    (done : insertLease store lease kind = .ok after) :
    store.leases.insert? (leaseRow lease kind) = some after.leases ∧ after = { store with leases := after.leases } := by
  simp only [insertLease, peel] at done
  obtain ⟨_, _, _, _, leases, added, rfl⟩ := done
  exact ⟨added, rfl⟩

variable {leaseID runID : String} {time : Time}

namespace RunRepository

variable {store after : Store} {done : Unit}

theorem releaseRunLeases_law
    (released : releaseRunLeases store runID time = .ok (done, after)) :
    after = closeLeases store (fun row => row.runID == runID) .released := by
  simp only [releaseRunLeases, peel, Prod.mk.injEq] at released
  obtain ⟨_, _, _, rfl⟩ := released
  rfl

end RunRepository

namespace ExecutorLeaseRepository
open RunRepository

variable {store after : Store}

theorem insertNonce_law {row : NonceRow} (done : insertNonce store row = .ok after) :
    store.nonces.insert? row = some after.nonces ∧ after = { store with nonces := after.nonces } := by
  simp only [insertNonce, peel] at done
  obtain ⟨_, _, nonces, added, rfl⟩ := done
  exact ⟨added, rfl⟩

theorem updateOneStep_law {stepID target : String} {status newStatus : Status}
    {effectState newEffectState : EffectState}
    (done : updateOneStep store runID stepID status effectState newStatus newEffectState target = .ok after) :
    (∃ row, store.steps.find? stepID = some row ∧ row.runID = runID ∧ row.status = status ∧
        row.effectState = effectState) ∧
      after = store.updateStep runID stepID (fun row => row.status == status && row.effectState == effectState)
        newStatus newEffectState := by
  simp only [updateOneStep, peel, Option.any_eq_true, checks] at done
  obtain ⟨_, ⟨row, found, mine, same, effect⟩, rfl⟩ := done
  exact ⟨⟨row, found, mine, same, effect⟩, rfl⟩

structure Claimed (request : ExecutorLeaseClaimRequest) (row : RunRow) (step : RunStep) (store after : Store) : Prop where
  fresh : store.intents.find? (.executorLeaseClaim request.lease.leaseID) = none
  valid : validLease request.lease = true
  active : request.lease.status = .active
  executor : request.request.executorID = request.lease.executorID
  found : store.runs.find? request.lease.runID = some row
  document : validRunDocument row.run = true
  external : row.run.executorMode = .external
  bound : row.run.executorID = request.lease.executorID
  running : row.run.status = .running
  located : findStep row.run request.lease.stepID = some step
  queued : step.status = .queued
  untouched : step.effectState = .notStarted
  unleased : ∀ old ∈ store.leases.rows, old.stepID ≠ request.lease.stepID
  stored : ∃ old, store.steps.find? request.lease.stepID = some old ∧ old.runID = request.lease.runID ∧
    old.status = .queued ∧ old.effectState = .notStarted
  leases : store.leases.insert? (leaseRow request.lease .external) = some after.leases
  nonces : store.nonces.insert? ⟨request.lease.leaseID, 0, request.lease.nonceDigest, request.lease.claimedAt⟩ =
    some after.nonces
  runs : after.runs = writtenBack store
    { row.run.writeStep request.lease.stepID .running .intentRecorded with updatedAt := request.time }
  steps : after.steps = (store.updateStep request.lease.runID request.lease.stepID
    (fun row => row.status == .queued && row.effectState == .notStarted) .running .intentRecorded).steps
  noted : store.Noted (.executorLeaseClaim request.lease.leaseID) after
  others : after = { store with
    leases := after.leases, nonces := after.nonces, runs := after.runs, steps := after.steps, intents := after.intents }

theorem claim_law {request : ExecutorLeaseClaimRequest}
    (done : claim store request = .ok (lease, after)) : ∃ row step, Claimed request row step store after := by
  simp only [claim, peel, Prod.mk.injEq, checks] at done
  obtain ⟨_, ⟨⟨_, _⟩, valid⟩, _, ⟨⟨⟨⟨⟨active, _⟩, executor⟩, _⟩, _⟩, _⟩, _, _, ⟨created, final⟩, ran, _, wrote, _, rfl⟩ := done
  rcases executeAuditIntent_cases ran with ⟨_, rfl, _⟩ | ⟨_, middle, intents, fresh, body, keyed, _, rfl⟩
  · cases wrote
  simp only [claimInTx, runAndPlanInTx, peel, decodeRun_eq_ok, Prod.mk.injEq, checks] at body
  obtain ⟨_, _, ⟨_, plan⟩, ⟨row, found, _, _, _, ⟨document, rfl⟩, _, _, rfl, rfl⟩, _, _, _, ⟨⟨external, _⟩, binding⟩,
    step, located, _, ⟨⟨⟨⟨⟨⟨running, queued⟩, untouched⟩, _⟩, _⟩, _⟩, _⟩, _, unleased,
    leased, inserted, nonced, added, stepped, moved, _, rfl⟩ := body
  have bound : row.run.executorID = request.lease.executorID := by
    simp only [validExecutorLeaseBinding, checks] at binding
    obtain ⟨⟨⟨⟨_, bound⟩, _⟩, _⟩, _⟩ := binding
    exact bound
  obtain ⟨leases, first⟩ := insertLease_law inserted
  obtain ⟨nonces, second⟩ := insertNonce_law added
  obtain ⟨⟨old, stored, mine, same, effect⟩, third⟩ := updateOneStep_law moved
  rw [second, first] at stored third
  rw [first] at nonces
  refine ⟨row, step, fresh, valid, active, executor, found, document, external, bound, running, located, queued,
    untouched, unleased, ⟨old, stored, mine, same, effect⟩, ?_, ?_, ?_, ?_, .of_insert ?_ keyed _ rfl, ?_⟩
  · rw [third]
    exact leases
  · rw [third]
    exact nonces
  · simp only [writtenBack, updateRunningRun, Store.updateRun, third, Store.updateStep]
  · rw [third]
    rfl
  · rw [third]
    rfl
  · rw [third]
    rfl

/-- The row of a renewed lease. -/
def renewedRow (request : ExecutorLeaseRenewalRequest) (lease : ExecutorLease) (row : LeaseRow) : LeaseRow :=
  let renewAfter := nextRenewAfter request.time lease.leaseExpiresAt
  { row with
    nonceDigest := request.nextNonceDigest
    renewAfter := renewAfter
    lastRenewedAt := some request.time
    renewalCount := row.renewalCount + 1
    lease := { lease with nonceDigest := request.nextNonceDigest, renewAfter := renewAfter } }

def renewable (lease : ExecutorLease) (row : LeaseRow) : Bool :=
  row.leaseID == lease.leaseID && row.status == .active && row.bindingDigest == lease.bindingDigest &&
    row.nonceDigest == lease.nonceDigest && row.recoveryEpoch == lease.recoveryEpoch

structure ReadLease (store : Store) (leaseID : String) (row : LeaseRow) : Prop where
  found : store.leases.find? leaseID = some row
  external : row.kind = .external
  valid : validStoredExecutorLease row.lease = true
  documented : row.lease.status = row.status

theorem readExecutorLeaseInTx_law {row : LeaseRow}
    (read : readExecutorLeaseInTx store leaseID = .ok (lease, row)) : lease = row.lease ∧ ReadLease store leaseID row := by
  simp only [readExecutorLeaseInTx, decodeStoredExecutorLease, peel, Prod.mk.injEq, Option.filter_eq_some_iff, checks] at read
  obtain ⟨found, ⟨present, external⟩, decoded, checked, _, documented, rfl, rfl⟩ := read
  split at checked
  next valid =>
    cases checked
    exact ⟨rfl, present, external, valid, documented⟩
  next => cases checked

structure Renewed (request : ExecutorLeaseRenewalRequest) (row : LeaseRow) (store after : Store) : Prop where
  read : ReadLease store request.request.leaseID row
  active : row.status = .active
  presented : request.request.nonceDigest = row.lease.nonceDigest
  due : row.lease.renewAfter ≤ request.time
  early : request.time < row.lease.leaseExpiresAt
  next : validFingerprint request.nextNonceDigest = true
  nonces : store.nonces.insert? ⟨row.lease.leaseID, row.renewalCount + 1, request.nextNonceDigest, request.time⟩ =
    some after.nonces
  leases : ∀ new, new ∈ after.leases.rows ↔ ∃ old ∈ store.leases.rows,
    (if renewable row.lease old then renewedRow request row.lease old else old) = new
  noted : store.Noted (.executorLeaseRenew request.request.leaseID request.request.nonceDigest) after
  others : after = { store with leases := after.leases, nonces := after.nonces, intents := after.intents }

theorem renew_law {request : ExecutorLeaseRenewalRequest}
    (done : renew store request = .ok (lease, after)) : ∃ row, Renewed request row store after := by
  simp only [renew, peel, Prod.mk.injEq, checks] at done
  obtain ⟨_, ⟨⟨_, next⟩, _⟩, ⟨created, final⟩, ran, value, wrote, _, rfl⟩ := done
  rcases executeAuditIntent_cases ran with ⟨_, rfl, _⟩ | ⟨_, middle, intents, _, body, keyed, _, rfl⟩
  · cases wrote
  simp only [renewInTx, peel, Prod.mk.injEq, checks] at body
  obtain ⟨⟨held, row⟩, read, _, _, _, ⟨_, presented⟩, _, _, _, ⟨⟨active, due⟩, early⟩, nonced, added, _, _, _, rfl⟩ := body
  obtain ⟨rfl, checked⟩ := readExecutorLeaseInTx_law read
  obtain ⟨nonces, frame⟩ := insertNonce_law added
  refine ⟨row, checked, active, presented, due, early, next, nonces, fun new => ?_, .of_insert ?_ keyed _ rfl, ?_⟩
  · rw [frame]
    exact List.mem_map
  · rw [frame]
  · rw [frame]

structure Reported (request : ExecutorReceiptPersistenceRequest) (row : LeaseRow) (store after : Store) : Prop where
  fresh : store.intents.find? (.executorReceipt request.request.receipt.receiptID) = none
  read : ReadLease store request.request.receipt.leaseID row
  binding : validExecutionReceiptBinding row.lease request.request.receipt = true
  reporting : row.status = .active ∨ row.status = .expired
  leases : after.leases = (if row.status == .active && decide (row.lease.leaseExpiresAt ≤ request.time) then
    closeLeases store (fun old => old.leaseID == row.lease.leaseID) .expired else store).leases
  observed : store.observations.insert? ⟨request.request.receipt.receiptID, request.request.receipt.leaseID,
    request.request.receipt.runID, request.request.receipt.stepID, request.request.receipt.status,
    request.request.receipt⟩ = some after.observations
  effect : (request.request.receipt.status = .running ∧ after.runs = store.runs ∧ after.steps = store.steps) ∨
    (request.request.receipt.status ≠ .running ∧
      ∃ run step, store.runs.find? request.request.receipt.runID = some run ∧ validRunDocument run.run = true ∧
        findStep run.run request.request.receipt.stepID = some step ∧ step.status = .running ∧
        step.effectState = .intentRecorded ∧
        (∃ old, store.steps.find? request.request.receipt.stepID = some old ∧
          old.runID = request.request.receipt.runID ∧ old.status = .running ∧ old.effectState = .intentRecorded) ∧
        after.runs = writtenBack store { run.run.writeStep request.request.receipt.stepID .running .receiptRecorded with
          updatedAt := request.time } ∧
        after.steps = (store.updateStep request.request.receipt.runID request.request.receipt.stepID
          (fun row => row.status == .running && row.effectState == .intentRecorded) .running .receiptRecorded).steps)
  noted : store.Noted (.executorReceipt request.request.receipt.receiptID) after
  others : after = { store with
    leases := after.leases, observations := after.observations, runs := after.runs, steps := after.steps
    details := after.details, intents := after.intents }

theorem advanceToReceipt_law {receipt : ExecutionReceipt}
    (done : advanceToReceipt receipt time store = .ok after) :
    (∃ run step, store.runs.find? receipt.runID = some run ∧ validRunDocument run.run = true ∧
        findStep run.run receipt.stepID = some step ∧ step.status = .running ∧ step.effectState = .intentRecorded ∧
        (∃ old, store.steps.find? receipt.stepID = some old ∧ old.runID = receipt.runID ∧ old.status = .running ∧
          old.effectState = .intentRecorded) ∧
        after.runs = writtenBack store { run.run.writeStep receipt.stepID .running .receiptRecorded with updatedAt := time } ∧
        after.steps = (store.updateStep receipt.runID receipt.stepID
          (fun row => row.status == .running && row.effectState == .intentRecorded) .running .receiptRecorded).steps) ∧
      after = { store with runs := after.runs, steps := after.steps, details := after.details } := by
  simp only [advanceToReceipt, runAndPlanInTx, peel, decodeRun_eq_ok, checks] at done
  obtain ⟨⟨_, _⟩, ⟨row, found, _, _, _, ⟨valid, rfl⟩, _, _, pair⟩, step, located, _, ⟨running, intent⟩, moved, stepped,
    rfl⟩ := done
  cases pair
  obtain ⟨stored, frame⟩ := updateOneStep_law stepped
  refine ⟨⟨row, step, found, valid, located, running, intent, stored, ?_, ?_⟩, ?_⟩
  · simp only [writtenBack, updateRunningRun, Store.updateRun, Store.appendDetail, frame, Store.updateStep]
  · rw [frame]
    rfl
  · rw [frame]
    rfl

theorem recordReceipt_law {request : ExecutorReceiptPersistenceRequest}
    {recorded : ExecutionReceipt} (done : recordReceipt store request = .ok (recorded, after)) :
    ∃ row, Reported request row store after := by
  simp only [recordReceipt, peel, Prod.mk.injEq] at done
  obtain ⟨_, _, _, _, _, _, ⟨created, final⟩, ran, value, wrote, _, rfl⟩ := done
  rcases executeAuditIntent_cases ran with ⟨_, rfl, _⟩ | ⟨_, middle, intents, fresh, body, keyed, _, rfl⟩
  · cases wrote
  simp only [recordReceiptInTx, peel] at body
  obtain ⟨⟨lease, row⟩, read, _, _, _, binding, _, reporting, _, _, _, _, _, _, observations, observed, body⟩ := body
  obtain ⟨rfl, checked⟩ := readExecutorLeaseInTx_law read
  -- a late receipt first closes its lease, which touches the lease rows only
  have closing : ∀ condition : Bool,
      (if condition then closeLeases store (fun old => old.leaseID == row.lease.leaseID) .expired else store) =
        { store with leases := (if condition then
            closeLeases store (fun old => old.leaseID == row.lease.leaseID) .expired else store).leases } := by
    intro condition
    split
    · rfl
    · rfl
  have reports : row.status = .active ∨ row.status = .expired := by
    cases status : row.status <;> simp [status] at reporting ⊢
  rw [closing] at observed body
  split at body
  next progress =>
    simp only [peel, Prod.mk.injEq] at body
    obtain ⟨_, rfl⟩ := body
    exact ⟨row, fresh, checked, binding, reports, rfl, observed, .inl ⟨by simpa using progress, rfl, rfl⟩,
      .of_insert rfl keyed _ rfl, rfl⟩
  next terminal =>
    simp only [peel, Prod.mk.injEq] at body
    obtain ⟨moved, advanced, _, rfl⟩ := body
    obtain ⟨effect, frame⟩ := advanceToReceipt_law advanced
    refine ⟨row, fresh, checked, binding, reports, ?_, ?_, .inr ⟨by simpa using terminal, effect⟩,
      .of_insert ?_ keyed _ rfl, ?_⟩
    · rw [frame]
    · rw [frame]
      exact observed
    · rw [frame]
    · rw [frame]

end ExecutorLeaseRepository

end VskLabs

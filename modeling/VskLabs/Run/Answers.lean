import VskLabs.Run.System
import VskLabs.Store.LeaseLaws

/-! What an answered call can have done to the store: nothing, or what its own
transaction committed. -/

namespace VskLabs
open Library

def Committed : Call → Store → Store → Prop
  | .createRun request, store, after => ∃ result, RunRepository.create store request = .ok (result, after)
  | .mutate mutation, store, after => ∃ result, mutation.apply store = .ok (result, after)
  | .acquireTargetLease lease, store, after => ∃ done, RunRepository.acquireTargetLease store lease = .ok (done, after)
  | .releaseTargetLease leaseID time, store, after =>
    ∃ done, RunRepository.releaseTargetLease store leaseID time = .ok (done, after)
  | .releaseRunLeases runID time, store, after =>
    ∃ done, RunRepository.releaseRunLeases store runID time = .ok (done, after)
  | .pruneRunHistory now, store, after => ∃ pruned, Retention.pruneRunHistory store now = .ok (pruned, after)
  | .claimRunOperation operation reference time, store, after =>
    ∃ done, RunRepository.claimRunOperation store operation reference time = .ok (done, after)
  | .completeRunOperation operation reference run errorCode time, store, after =>
    ∃ done, RunRepository.completeRunOperation store operation reference run errorCode time = .ok (done, after)
  | .claimLease request, store, after => ∃ lease, ExecutorLeaseRepository.claim store request = .ok (lease, after)
  | .renewLease request, store, after => ∃ lease, ExecutorLeaseRepository.renew store request = .ok (lease, after)
  | .expireLeases time, store, after => ∃ leases, ExecutorLeaseRepository.expire store time = .ok (leases, after)
  | .recordExternalReceipt request, store, after =>
    ∃ receipt, ExecutorLeaseRepository.recordReceipt store request = .ok (receipt, after)
  | .advanceState, store, after => ∃ done, advanceState store = .ok (done, after)
  | .insertReference row, store, after => ∃ done, Retention.insertReference store row = .ok (done, after)
  | _, _, _ => False

variable {store after : Store} {query : Call} {answer : Answer}

theorem storeCall_cases {fault : Fault Failure} {reply : Reply query}
    (called : storeCall query fault store = some (reply, after)) : after = store ∨ Committed query store after := by
  cases query with
  | getPlan _ | existingRun _ _ | getRun _ | activeRuns | runOperation _ _ | discoverExpiredRecovery _ | getLease _ =>
    simp only [storeCall, Option.some.injEq] at called
    have same := congrArg Prod.snd called
    simp only [readState_keeps] at same
    exact .inl same.symm
  | createRun _ | mutate _ | acquireTargetLease _ | releaseTargetLease _ _ | releaseRunLeases _ _ | pruneRunHistory _
  | claimRunOperation _ _ _ | completeRunOperation _ _ _ _ _ | claimLease _ | renewLease _ | expireLeases _
  | recordExternalReceipt _ | advanceState | insertReference _ =>
    simp only [storeCall, Option.some.injEq] at called
    exact commit_cases called
  | _ => simp [storeCall] at called

theorem respond_cases {reply : Reply query}
    (answered : respond query answer store = some (reply, after)) : after = store ∨ Committed query store after := by
  unfold respond at answered
  split at answered
  all_goals first
    | exact storeCall_cases answered
    | cases answered
      done
    | (simp only [Option.some.injEq, Prod.mk.injEq] at answered; exact .inl answered.2.symm)
    | (split at answered
       · simp only [Option.some.injEq, Prod.mk.injEq] at answered
         exact .inl answered.2.symm
       · cases answered)

def Truthful : (query : Call) → Reply query → Store → Store → Prop
  | .getPlan planID, .ok plan, store, _ => getPlan store planID = .ok plan
  | .existingRun submitKey request, .ok found, store, _ => RunRepository.existing store submitKey request = .ok found
  | .getRun runID, .ok run, store, _ => RunRepository.getRun store runID = .ok run
  | .activeRuns, .ok runs, store, _ => RunRepository.activeRuns store = .ok runs
  | .getLease leaseID, .ok lease, store, _ => ExecutorLeaseRepository.get store leaseID = .ok lease
  | .createRun request, .ok result, store, after => RunRepository.create store request = .ok (result, after)
  | .mutate mutation, .ok result, store, after => mutation.apply store = .ok (result, after)
  | .recordExternalReceipt request, .ok receipt, store, after =>
    ExecutorLeaseRepository.recordReceipt store request = .ok (receipt, after)
  | _, _, _, _ => True

theorem respond_truthful {reply : Reply query}
    (answered : respond query answer store = some (reply, after)) : Truthful query reply store after := by
  cases query with
  | getPlan _ | existingRun _ _ | getRun _ | activeRuns | getLease _ | createRun _ | mutate _ | recordExternalReceipt _ =>
    cases reply with
    | error failure => trivial
    | ok value =>
      cases answer with
      | store fault =>
        simp only [respond, storeCall, Option.some.injEq] at answered
        first
          | exact commit_ok answered
          | have read := readState_ok answered
            exact read
      | _ => simp [respond] at answered
  | _ => trivial

theorem respond_mutate_ok {mutation : Mutation} {result : Option Run}
    (answered : respond (.mutate mutation) answer store = some (.ok result, after)) :
    mutation.apply store = .ok (result, after) :=
  respond_truthful answered

end VskLabs

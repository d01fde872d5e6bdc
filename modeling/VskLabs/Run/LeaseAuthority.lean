import VskLabs.Run.Transitions

/-! The authority of a lease never grows: not its expiry, not the number of its
renewals, not the set of nonces it answers to. -/

namespace VskLabs
open Library RunRepository ExecutorLeaseRepository

/-- What one transaction other than pruning can do to the lease rows and the
accepted nonces. -/
inductive LeaseChange (store after : Store) : Prop where
  | kept (leases : after.leases = store.leases) (nonces : after.nonces = store.nonces)
  | acquired (lease : ExecutorLease) (valid : validLease lease = true) (active : lease.status = .active)
      (leases : store.leases.insert? (leaseRow lease .central) = some after.leases) (nonces : after.nonces = store.nonces)
  | claimed (request : ExecutorLeaseClaimRequest) (row : RunRow) (step : RunStep) (claimed : Claimed request row step store after)
  | renewed (request : ExecutorLeaseRenewalRequest) (row : LeaseRow) (renewed : Renewed request row store after)
  | closed (selected : LeaseRow → Bool) (status : LeaseStatus) (inactive : status ≠ .active)
      (leases : after.leases = (closeLeases store selected status).leases) (nonces : after.nonces = store.nonces)

variable {query : Call} {store after : Store} {lease : ExecutorLease} {row : LeaseRow} {digest : String}

theorem Committed.leaseChange (committed : Committed query store after)
    (unpruned : ∀ now, query ≠ .pruneRunHistory now) : LeaseChange store after := by
  cases committed.transacted with
  | created request law => exact .kept (by rw [law.others]) (by rw [law.others])
  | mutated mutation done =>
    have frame := Mutation.apply_frame done
    exact .kept (by rw [frame]) (by rw [frame])
  | acquired lease valid active added => exact .acquired lease valid active added rfl
  | released query selected => exact .closed selected .released (by simp) rfl rfl
  | expired time => exact .closed (lapsed store time) .expired (by simp) rfl rfl
  | claimed request law => exact .claimed request _ _ law
  | renewed request law => exact .renewed request _ law
  | reported request law =>
    have nonces : after.nonces = store.nonces := by rw [law.others]
    have leases := law.leases
    split at leases
    · exact .closed _ .expired (by simp) leases nonces
    · exact .kept leases nonces
  | pruned now => exact absurd rfl (unpruned now)
  | _ => exact .kept rfl rfl

/-! ### One lease -/

/-- The columns of a lease row repeat its document, the document is valid, and
each renewal has cost one check-in period. -/
structure LeaseRow.Sound (row : LeaseRow) : Prop where
  leaseID : row.lease.leaseID = row.leaseID
  runID : row.lease.runID = row.runID
  stepID : row.lease.stepID = row.stepID
  targetID : row.lease.targetID = row.targetID
  bindingDigest : row.lease.bindingDigest = row.bindingDigest
  nonceDigest : row.lease.nonceDigest = row.nonceDigest
  recoveryEpoch : row.lease.recoveryEpoch = row.recoveryEpoch
  claimedAt : row.lease.claimedAt = row.claimedAt
  renewAfter : row.lease.renewAfter = row.renewAfter
  expiresAt : row.lease.leaseExpiresAt = row.expiresAt
  maximumExpiresAt : row.lease.maximumExpiresAt = row.maximumExpiresAt
  status : row.lease.status = row.status
  valid : validStoredExecutorLease row.lease = true
  paced : row.claimedAt + executorCheckInSeconds * (row.renewalCount + 1) ≤ row.renewAfter

theorem validStoredExecutorLease_iff : validStoredExecutorLease lease = true ↔
    lease.exactContract = true ∧ lease.leaseExpiresAt = lease.claimedAt + executorLeaseSeconds ∧
      lease.maximumExpiresAt = lease.leaseExpiresAt ∧ lease.claimedAt < lease.renewAfter ∧
      lease.renewAfter ≤ lease.leaseExpiresAt := by
  simp only [validStoredExecutorLease, checks, and_assoc]

theorem LeaseRow.Sound.expiry (sound : row.Sound) : row.expiresAt = row.claimedAt + executorLeaseSeconds := by
  have valid := (validStoredExecutorLease_iff.mp sound.valid).2.1
  rwa [sound.expiresAt, sound.claimedAt] at valid

theorem LeaseRow.Sound.maximum (sound : row.Sound) : row.maximumExpiresAt = row.expiresAt := by
  have valid := (validStoredExecutorLease_iff.mp sound.valid).2.2.1
  rwa [sound.maximumExpiresAt, sound.expiresAt] at valid

theorem LeaseRow.Sound.bounded (sound : row.Sound) : row.renewAfter ≤ row.expiresAt := by
  obtain ⟨_, _, _, _, valid⟩ := validStoredExecutorLease_iff.mp sound.valid
  rwa [sound.renewAfter, sound.expiresAt] at valid

theorem LeaseRow.Sound.renewals (sound : row.Sound) : row.renewalCount ≤ 2 := by
  have paced := sound.paced
  have bounded := sound.bounded
  have expiry := sound.expiry
  simp only [executorCheckInSeconds, executorLeaseSeconds] at paced expiry
  lia

theorem leaseRow_sound (kind : ExecutorMode) (valid : validLease lease = true) :
    (leaseRow lease kind).Sound := by
  simp only [validLease, ExecutorLease.timed, checks] at valid
  obtain ⟨contract, ⟨renewAfter, expiry⟩, maximum⟩ := valid
  have stored : validStoredExecutorLease lease = true := by
    refine validStoredExecutorLease_iff.mpr ⟨contract, expiry, maximum, ?_, ?_⟩
    · simp only [executorCheckInSeconds] at renewAfter
      lia
    · simp only [executorCheckInSeconds, executorLeaseSeconds] at renewAfter expiry
      lia
  refine ⟨rfl, rfl, rfl, rfl, rfl, rfl, rfl, rfl, rfl, rfl, rfl, rfl, stored, ?_⟩
  simp [leaseRow, renewAfter]

theorem LeaseRow.Sound.close (sound : row.Sound) (status : LeaseStatus) :
    LeaseRow.Sound { row with status := status, lease := { row.lease with status := status } } :=
  { sound with status := rfl }

theorem nextRenewAfter_le (time expiry : Time) : nextRenewAfter time expiry ≤ expiry := by
  unfold nextRenewAfter
  split
  · exact le_refl _
  · lia

theorem nextRenewAfter_cases (time expiry : Time) :
    nextRenewAfter time expiry = expiry ∨ nextRenewAfter time expiry = time + executorCheckInSeconds := by
  unfold nextRenewAfter
  split
  · exact .inl rfl
  · exact .inr rfl

theorem lt_nextRenewAfter {time expiry : Time} (early : time < expiry) : time < nextRenewAfter time expiry := by
  rcases nextRenewAfter_cases time expiry with same | same
  · rw [same]
    exact early
  · rw [same, executorCheckInSeconds]
    lia

theorem fourDigitYear_between {low time high : Time} (first : low.fourDigitYear = true) (last : high.fourDigitYear = true)
    (after : low ≤ time) (before : time ≤ high) : time.fourDigitYear = true := by
  simp only [Time.fourDigitYear, checks] at first last ⊢
  lia

theorem exactContract_renewed {nonce : String} {renewAfter : Time}
    (contract : lease.exactContract = true) (next : validFingerprint nonce = true)
    (after : lease.claimedAt ≤ renewAfter) (before : renewAfter ≤ lease.leaseExpiresAt) :
    ExecutorLease.exactContract { lease with nonceDigest := nonce, renewAfter := renewAfter } = true := by
  simp only [ExecutorLease.exactContract, checks, List.all_cons, List.all_nil, Bool.and_true] at contract ⊢
  obtain ⟨⟨⟨tokens, plan, artifact, binding, _⟩, claimed, _, expires, maximum⟩, extensions⟩ := contract
  exact ⟨⟨⟨tokens, plan, artifact, binding, next⟩, claimed, fourDigitYear_between claimed expires after before, expires,
    maximum⟩, extensions⟩

section Renewal

variable {request : ExecutorLeaseRenewalRequest} {row : LeaseRow} {store after : Store}

theorem ExecutorLeaseRepository.Renewed.moves (renewed : Renewed request row store after) :
    row.lease.renewAfter < nextRenewAfter request.time row.lease.leaseExpiresAt :=
  lt_of_le_of_lt renewed.due (lt_nextRenewAfter renewed.early)

theorem ExecutorLeaseRepository.Renewed.sound (renewed : Renewed request row store after) (sound : row.Sound) :
    (renewedRow request row.lease row).Sound := by
  obtain ⟨contract, expiry, maximum, claimed, bounded⟩ := validStoredExecutorLease_iff.mp sound.valid
  have moves := renewed.moves
  have last := nextRenewAfter_le request.time row.lease.leaseExpiresAt
  refine { sound with nonceDigest := rfl, renewAfter := rfl, valid := ?valid, paced := ?paced }
  case valid =>
    have later : row.lease.claimedAt < nextRenewAfter request.time row.lease.leaseExpiresAt := lt_trans claimed moves
    exact validStoredExecutorLease_iff.mpr
      ⟨exactContract_renewed contract renewed.next (le_of_lt later) last, expiry, maximum, later, last⟩
  case paced =>
    have paced := sound.paced
    have due := renewed.due
    have early := renewed.early
    rw [sound.renewAfter] at due
    rw [sound.claimedAt] at expiry
    have cases := nextRenewAfter_cases request.time row.lease.leaseExpiresAt
    simp only [renewedRow, executorCheckInSeconds, executorLeaseSeconds] at paced expiry cases ⊢
    lia

theorem ExecutorLeaseRepository.Renewed.selected (renewed : Renewed request row store after) (sound : row.Sound)
    {old : LeaseRow} (member : old ∈ store.leases.rows) : renewable row.lease old = true ↔ old = row := by
  constructor
  · intro chosen
    simp only [renewable, checks] at chosen
    obtain ⟨⟨⟨⟨same, _⟩, _⟩, _⟩, _⟩ := chosen
    have here : store.leases.find? row.leaseID = some row :=
      Table.find?_eq_some_iff.mpr ⟨Table.mem_of_find? renewed.read.found, rfl⟩
    have there := Table.find?_eq_some_iff.mpr ⟨member, same.trans sound.leaseID⟩
    rw [here] at there
    exact (Option.some.inj there).symm
  · rintro rfl
    simp [renewable, sound.leaseID, sound.bindingDigest, sound.nonceDigest, sound.recoveryEpoch, renewed.active]

end Renewal

/-- How a lease row may differ from what it was: its identity and its limits
never, its check-in only forward and only with a renewal, and nothing at all
once it has left the active status. -/
structure LeaseRow.Follows (old new : LeaseRow) : Prop where
  same : new = { old with
    nonceDigest := new.nonceDigest, renewAfter := new.renewAfter, status := new.status, lease := new.lease
    lastRenewedAt := new.lastRenewedAt, renewalCount := new.renewalCount }
  left : old.status ≠ .active → new = old
  renewals : old.renewalCount ≤ new.renewalCount
  unrenewed : new.renewalCount = old.renewalCount → new.renewAfter = old.renewAfter ∧ new.nonceDigest = old.nonceDigest
  renewed : old.renewalCount < new.renewalCount → old.renewAfter < new.renewAfter

theorem LeaseRow.Follows.leaseID {old new : LeaseRow} (follows : old.Follows new) : new.leaseID = old.leaseID := by
  rw [follows.same]

theorem LeaseRow.Follows.refl (row : LeaseRow) : row.Follows row :=
  ⟨rfl, fun _ => rfl, le_refl _, fun _ => ⟨rfl, rfl⟩, fun more => absurd more (lt_irrefl _)⟩

theorem LeaseRow.Follows.trans {first second third : LeaseRow} (early : first.Follows second)
    (late : second.Follows third) : first.Follows third := by
  have counted := early.renewals
  have recounted := late.renewals
  refine ⟨?_, fun inactive => ?_, counted.trans recounted, fun same => ?_, fun more => ?_⟩
  · rw [late.same, early.same]
  · have kept := early.left inactive
    rw [late.left (by rwa [kept]), kept]
  · obtain ⟨renewAfter, nonce⟩ := late.unrenewed (by lia)
    obtain ⟨before, earlier⟩ := early.unrenewed (by lia)
    exact ⟨renewAfter.trans before, nonce.trans earlier⟩
  · rcases Nat.lt_or_ge first.renewalCount second.renewalCount with moved | still
    · rcases Nat.lt_or_ge second.renewalCount third.renewalCount with again | rests
      · exact lt_trans (early.renewed moved) (late.renewed again)
      · rw [(late.unrenewed (by lia)).1]
        exact early.renewed moved
    · rw [← (early.unrenewed (by lia)).1]
      exact late.renewed (by lia)

theorem LeaseRow.Follows.close (active : row.status = .active) (status : LeaseStatus) :
    row.Follows { row with status := status, lease := { row.lease with status := status } } :=
  ⟨rfl, fun inactive => absurd active inactive, le_refl _, fun _ => ⟨rfl, rfl⟩, fun more => absurd more (lt_irrefl _)⟩

theorem ExecutorLeaseRepository.Renewed.follows {request : ExecutorLeaseRenewalRequest}
    (renewed : Renewed request row store after) (sound : row.Sound) : row.Follows (renewedRow request row.lease row) := by
  refine ⟨rfl, fun inactive => absurd renewed.active inactive, Nat.le_succ _, fun same => ?_, fun _ => ?_⟩
  · exact absurd same (Nat.succ_ne_self _)
  · have moves := renewed.moves
    rwa [sound.renewAfter] at moves

/-! ### All leases -/

/-- Every lease row is sound, and the nonce an external lease answers to is the
last one accepted for it. -/
structure Store.Leased (store : Store) : Prop where
  sound : ∀ row ∈ store.leases.rows, row.Sound
  noted : ∀ row ∈ store.leases.rows, row.kind = .external → ∃ nonce ∈ store.nonces.rows,
    nonce.leaseID = row.leaseID ∧ nonce.sequence = row.renewalCount ∧ nonce.nonceDigest = row.nonceDigest

structure Store.Continues (before after : Store) : Prop where
  leases : ∀ row ∈ before.leases.rows, ∃ new ∈ after.leases.rows, row.Follows new
  nonces : ∀ nonce ∈ before.nonces.rows, nonce ∈ after.nonces.rows

theorem Store.Continues.refl (store : Store) : store.Continues store :=
  ⟨fun row member => ⟨row, member, .refl row⟩, fun _ member => member⟩

theorem Store.Continues.trans {first second third : Store} (early : first.Continues second)
    (late : second.Continues third) : first.Continues third := by
  refine ⟨fun row member => ?_, fun nonce member => late.nonces nonce (early.nonces nonce member)⟩
  obtain ⟨middle, present, follows⟩ := early.leases row member
  obtain ⟨last, remains, again⟩ := late.leases middle present
  exact ⟨last, remains, follows.trans again⟩

theorem LeaseChange.continues (change : LeaseChange store after)
    (sound : ∀ row ∈ store.leases.rows, row.Sound) : store.Continues after := by
  cases change with
  | kept leases nonces =>
    refine ⟨fun row member => ⟨row, ?_, .refl row⟩, fun nonce member => ?_⟩
    · rwa [leases]
    · rwa [nonces]
  | acquired lease valid active leases nonces =>
    refine ⟨fun row member => ⟨row, ?_, .refl row⟩, fun nonce member => ?_⟩
    · exact Table.extends_of_insert? leases _ member
    · rwa [nonces]
  | claimed request row step claimed =>
    refine ⟨fun row member => ⟨row, ?_, .refl row⟩, fun nonce member => ?_⟩
    · exact Table.extends_of_insert? claimed.leases _ member
    · exact Table.extends_of_insert? claimed.nonces _ member
  | renewed request row renewed =>
    have read := sound row (Table.mem_of_find? renewed.read.found)
    refine ⟨fun old member => ?_, fun nonce member => ?_⟩
    · refine ⟨_, (renewed.leases _).mpr ⟨old, member, rfl⟩, ?_⟩
      split
      next chosen =>
        obtain rfl := (renewed.selected read member).mp chosen
        exact renewed.follows read
      next => exact .refl old
    · exact Table.extends_of_insert? renewed.nonces _ member
  | closed selected status inactive leases nonces =>
    refine ⟨fun row member => ?_, fun nonce member => by rwa [nonces]⟩
    refine ⟨_, by rw [leases]; exact mem_closeLeases.mpr ⟨row, member, rfl⟩, ?_⟩
    split
    next chosen =>
      simp only [checks] at chosen
      exact .close chosen.2 status
    next => exact .refl row

theorem LeaseChange.sound (change : LeaseChange store after)
    (sound : ∀ row ∈ store.leases.rows, row.Sound) : ∀ row ∈ after.leases.rows, row.Sound := by
  cases change with
  | kept leases nonces =>
    rw [leases]
    exact sound
  | acquired lease valid active leases nonces =>
    intro row member
    rcases (Table.mem_insert? leases).mp member with old | rfl
    · exact sound row old
    · exact leaseRow_sound .central valid
  | claimed request run step claimed =>
    intro row member
    rcases (Table.mem_insert? claimed.leases).mp member with old | rfl
    · exact sound row old
    · exact leaseRow_sound .external claimed.valid
  | renewed request row renewed =>
    have read := sound row (Table.mem_of_find? renewed.read.found)
    intro new member
    obtain ⟨old, present, rfl⟩ := (renewed.leases new).mp member
    split
    next chosen =>
      obtain rfl := (renewed.selected read present).mp chosen
      exact renewed.sound read
    next => exact sound old present
  | closed selected status inactive leases nonces =>
    intro new member
    rw [leases] at member
    obtain ⟨old, present, rfl⟩ := mem_closeLeases.mp member
    split
    · exact (sound old present).close status
    · exact sound old present

theorem LeaseChange.leased (change : LeaseChange store after) (leased : store.Leased) :
    after.Leased := by
  refine ⟨change.sound leased.sound, ?_⟩
  cases change with
  | kept leases nonces =>
    rw [leases, nonces]
    exact leased.noted
  | acquired lease valid active leases nonces =>
    intro row member external
    rw [nonces]
    rcases (Table.mem_insert? leases).mp member with old | rfl
    · exact leased.noted row old external
    · cases external
  | claimed request run step claimed =>
    intro row member external
    rcases (Table.mem_insert? claimed.leases).mp member with old | rfl
    · obtain ⟨nonce, present, same⟩ := leased.noted row old external
      exact ⟨nonce, Table.extends_of_insert? claimed.nonces _ present, same⟩
    · exact ⟨_, (Table.mem_insert? claimed.nonces).mpr (.inr rfl), rfl, rfl, rfl⟩
  | renewed request row renewed =>
    have sound := leased.sound row (Table.mem_of_find? renewed.read.found)
    intro new member external
    obtain ⟨old, present, rfl⟩ := (renewed.leases new).mp member
    split
    next chosen =>
      obtain rfl := (renewed.selected sound present).mp chosen
      exact ⟨_, (Table.mem_insert? renewed.nonces).mpr (.inr rfl), sound.leaseID, rfl, rfl⟩
    next other =>
      rw [if_neg other] at external
      obtain ⟨nonce, written, same⟩ := leased.noted old present external
      exact ⟨nonce, Table.extends_of_insert? renewed.nonces _ written, same⟩
  | closed selected status inactive leases nonces =>
    intro new member external
    rw [leases] at member
    rw [nonces]
    obtain ⟨old, present, rfl⟩ := mem_closeLeases.mp member
    split at external
    next chosen =>
      rw [if_pos chosen]
      exact leased.noted old present external
    next other =>
      rw [if_neg other]
      exact leased.noted old present external

/-! ### Sequences of transactions -/

def transact (store : Store) (query : Call) : Store :=
  ((storeCall query .none store).map Prod.snd).getD store

def transactAll (store : Store) (queries : List Call) : Store := queries.foldl transact store

def Accepts (store : Store) (query : Call) : Prop := Committed query store (transact store query)

theorem transact_cases (store : Store) (query : Call) : transact store query = store ∨ Accepts store query := by
  unfold Accepts transact
  cases called : storeCall query .none store with
  | none => exact .inl rfl
  | some outcome =>
    obtain ⟨reply, after⟩ := outcome
    exact storeCall_cases called

def Unpruned (queries : List Call) : Prop := ∀ query ∈ queries, ∀ now, query ≠ .pruneRunHistory now

theorem transact_authority (leased : store.Leased)
    (unpruned : ∀ now, query ≠ .pruneRunHistory now) :
    (transact store query).Leased ∧ store.Continues (transact store query) := by
  rcases transact_cases store query with same | accepts
  · rw [same]
    exact ⟨leased, .refl store⟩
  · have change := Committed.leaseChange accepts unpruned
    exact ⟨change.leased leased, change.continues leased.sound⟩

theorem transactAll_authority {queries : List Call} (leased : store.Leased) (unpruned : Unpruned queries) :
    (transactAll store queries).Leased ∧ store.Continues (transactAll store queries) := by
  induction queries generalizing store with
  | nil => exact ⟨leased, .refl store⟩
  | cons query rest ih =>
    obtain ⟨here, later⟩ := List.forall_mem_cons.mp unpruned
    obtain ⟨kept, first⟩ := transact_authority leased here
    obtain ⟨last, others⟩ := ih kept later
    exact ⟨last, first.trans others⟩

theorem Store.fresh_leased (plans : Table Plan.planID) (revision epoch : Int) : (Store.fresh plans revision epoch).Leased := by
  constructor
  · intro row member
    cases member
  · intro row member
    cases member

theorem transactAll_append (store : Store) (first second : List Call) :
    transactAll store (first ++ second) = transactAll (transactAll store first) second := by
  simp [transactAll]

theorem transactAll_between {start : Store} {older middle : List Call} (leased : start.Leased)
    (unpruned : Unpruned (older ++ query :: middle)) :
    (transactAll start older).Leased ∧ (transactAll start (older ++ query :: middle)).Leased ∧
      (transact (transactAll start older) query).Continues (transactAll start (older ++ query :: middle)) := by
  have before := (transactAll_authority leased fun call member => unpruned call (List.mem_append_left _ member)).1
  have step := (transact_authority before (unpruned query (by simp))).1
  have rest : Unpruned middle := fun call member => unpruned call (by simp [member])
  have after := transactAll_authority step rest
  rw [transactAll_append]
  exact ⟨before, after⟩

def introduces : Call → Option String
  | .claimLease request => some request.lease.nonceDigest
  | .renewLease request => some request.nextNonceDigest
  | _ => none

def presents : Call → Option String
  | .renewLease request => some request.request.nonceDigest
  | .recordExternalReceipt request => some request.request.receipt.nonceDigest
  | _ => none

def rotates : Call → Option String
  | .renewLease request => some request.request.nonceDigest
  | _ => none

def Store.Rotated (store : Store) (digest : String) : Prop :=
  ∃ nonce ∈ store.nonces.rows, nonce.nonceDigest = digest ∧
    ∃ row ∈ store.leases.rows, row.leaseID = nonce.leaseID ∧ nonce.sequence < row.renewalCount

theorem Store.Rotated.continues {before : Store} (rotated : before.Rotated digest)
    (continues : before.Continues after) : after.Rotated digest := by
  obtain ⟨nonce, written, same, row, member, owner, earlier⟩ := rotated
  obtain ⟨new, present, follows⟩ := continues.leases row member
  exact ⟨nonce, continues.nonces nonce written, same, new, present, follows.leaseID.trans owner,
    lt_of_lt_of_le earlier follows.renewals⟩

theorem Store.Rotated.unanswered (rotated : store.Rotated digest) (leased : store.Leased)
    {leaseID : String} (read : ReadLease store leaseID row) : row.lease.nonceDigest ≠ digest := by
  intro answers
  have member := Table.mem_of_find? read.found
  rw [(leased.sound row member).nonceDigest] at answers
  obtain ⟨nonce, written, same, other, present, owner, earlier⟩ := rotated
  obtain ⟨last, noted, leaseOf, sequence, digestOf⟩ := leased.noted row member read.external
  -- digests are the keys of the history, lease ids those of the leases
  obtain rfl := List.inj_on_of_nodup_map store.nonces.distinct noted written (by rw [digestOf, answers, same])
  obtain rfl := List.inj_on_of_nodup_map store.leases.distinct present member (owner.trans leaseOf)
  lia

theorem ExecutorLeaseRepository.Renewed.rotated {request : ExecutorLeaseRenewalRequest}
    (renewed : Renewed request row store after) (leased : store.Leased) :
    after.Rotated request.request.nonceDigest := by
  have member := Table.mem_of_find? renewed.read.found
  have sound := leased.sound row member
  obtain ⟨nonce, written, owner, sequence, digest⟩ := leased.noted row member renewed.read.external
  refine ⟨nonce, ?_, ?_, renewedRow request row.lease row, ?_, owner.symm, ?_⟩
  · exact Table.extends_of_insert? renewed.nonces _ written
  · rw [digest, renewed.presented, sound.nonceDigest]
  · exact (renewed.leases _).mpr ⟨row, member, by rw [if_pos ((renewed.selected sound member).mpr rfl)]⟩
  · rw [sequence]
    exact Nat.lt_succ_self _

theorem Accepts.introduced (accepts : Accepts store query)
    (new : introduces query = some digest) : store.nonces.find? digest = none ∧
      ∃ nonce ∈ (transact store query).nonces.rows, nonce.nonceDigest = digest := by
  cases query with
  | claimLease request =>
    cases new
    obtain ⟨row, step, claimed⟩ := claim_law accepts.choose_spec
    exact ⟨(Table.insert?_eq_some claimed.nonces).1, _, (Table.mem_insert? claimed.nonces).mpr (.inr rfl), rfl⟩
  | renewLease request =>
    cases new
    obtain ⟨row, renewed⟩ := renew_law accepts.choose_spec
    exact ⟨(Table.insert?_eq_some renewed.nonces).1, _, (Table.mem_insert? renewed.nonces).mpr (.inr rfl), rfl⟩
  | _ => cases new

theorem Accepts.rotated (accepts : Accepts store query)
    (leased : store.Leased) (old : rotates query = some digest) : (transact store query).Rotated digest := by
  cases query with
  | renewLease request =>
    cases old
    obtain ⟨row, renewed⟩ := renew_law accepts.choose_spec
    exact renewed.rotated leased
  | _ => cases old

theorem Accepts.presented (accepts : Accepts store query)
    (shown : presents query = some digest) : ∃ leaseID row, ReadLease store leaseID row ∧ row.lease.nonceDigest = digest := by
  cases query with
  | renewLease request =>
    cases shown
    obtain ⟨row, renewed⟩ := renew_law accepts.choose_spec
    exact ⟨_, row, renewed.read, renewed.presented.symm⟩
  | recordExternalReceipt request =>
    cases shown
    obtain ⟨row, reported⟩ := recordReceipt_law accepts.choose_spec
    have binding := reported.binding
    simp only [validExecutionReceiptBinding, checks] at binding
    exact ⟨_, row, reported.read, binding.1.2⟩
  | _ => cases shown

structure NeverGrows (start : Store) (queries : List Call) : Prop where
  sound : ∀ row ∈ (transactAll start queries).leases.rows, row.Sound
  limits : ∀ row ∈ (transactAll start queries).leases.rows, row.expiresAt = row.claimedAt + executorLeaseSeconds ∧
    row.maximumExpiresAt = row.claimedAt + executorLeaseSeconds ∧ row.renewAfter ≤ row.expiresAt ∧ row.renewalCount ≤ 2
  follows : ∀ earlier later, queries = earlier ++ later → ∀ row ∈ (transactAll start earlier).leases.rows,
    ∃ new ∈ (transactAll start queries).leases.rows, row.Follows new
  counted : ∀ older request newer, queries = older ++ .renewLease request :: newer →
    Accepts (transactAll start older) (.renewLease request) →
      ∃ row ∈ (transactAll start older).leases.rows, row.leaseID = request.request.leaseID ∧
        ∃ new ∈ (transactAll start (older ++ [.renewLease request])).leases.rows,
          new.leaseID = request.request.leaseID ∧ new.renewalCount = row.renewalCount + 1
  fresh : ∀ older first middle second newer digest, queries = older ++ first :: middle ++ second :: newer →
    Accepts (transactAll start older) first → Accepts (transactAll start (older ++ first :: middle)) second →
      introduces first = some digest → introduces second ≠ some digest
  rotated : ∀ older first middle second newer digest, queries = older ++ first :: middle ++ second :: newer →
    Accepts (transactAll start older) first → Accepts (transactAll start (older ++ first :: middle)) second →
      rotates first = some digest → presents second ≠ some digest

/-- Over every sequence of transactions that prunes nothing, at any times and
with any arguments, no lease gains authority. -/
theorem lease_authority_never_grows {plans : Table Plan.planID} {revision epoch : Int} {queries : List Call}
    (unpruned : Unpruned queries) : NeverGrows (Store.fresh plans revision epoch) queries := by
  have start := Store.fresh_leased plans revision epoch
  have part {chosen : List Call} (inside : chosen ⊆ queries) : Unpruned chosen :=
    fun query member => unpruned query (inside member)
  constructor
  case sound => exact (transactAll_authority start unpruned).1.sound
  case limits =>
    intro row member
    have sound := (transactAll_authority start unpruned).1.sound row member
    exact ⟨sound.expiry, sound.maximum.trans sound.expiry, sound.bounded, sound.renewals⟩
  case follows =>
    rintro earlier later rfl row member
    have first := transactAll_authority start (part (List.subset_append_left earlier later))
    rw [transactAll_append]
    exact (transactAll_authority first.1 (part (List.subset_append_right earlier later))).2.leases row member
  case counted =>
    rintro older request newer rfl accepts
    have leased := (transactAll_authority start (part (List.subset_append_left older _))).1
    obtain ⟨row, renewed⟩ := renew_law accepts.choose_spec
    have member := Table.mem_of_find? renewed.read.found
    have named := Table.find?_key renewed.read.found
    refine ⟨row, member, named, renewedRow request row.lease row, ?_, named, rfl⟩
    rw [transactAll_append]
    exact (renewed.leases _).mpr ⟨row, member, by
      rw [if_pos ((renewed.selected (leased.sound row member) member).mpr rfl)]⟩
  case fresh =>
    rintro older first middle second newer digest rfl accepted accepts mine again
    obtain ⟨_, nonce, written, same⟩ := accepted.introduced mine
    have kept := (transactAll_between start (part (List.subset_append_left _ _))).2.2.nonces nonce written
    exact Table.find?_eq_none_iff.mp (accepts.introduced again).1 nonce kept same
  case rotated =>
    rintro older first middle second newer digest rfl accepted accepts mine again
    obtain ⟨before, after, continues⟩ := transactAll_between start (part (List.subset_append_left _ _))
    obtain ⟨leaseID, row, read, answers⟩ := accepts.presented again
    exact ((accepted.rotated before mine).continues continues).unanswered after read answers

/-! One external run whose lease is claimed and renewed twice. -/

def ones : String := "sha256:1111111111111111111111111111111111111111111111111111111111111111"
def twos : String := "sha256:2222222222222222222222222222222222222222222222222222222222222222"

def sampleStep : RunStep :=
  ⟨1, "op", "service.check", "adapter", "worker", "target", zeros, zeros, true, "step", .queued, .notStarted⟩

def sampleRun : Run where
  runID := "run"
  planID := "plan"
  planDigest := zeros
  authorizationDecisionID := "decision"
  acknowledgementID := none
  policyVersion := "1.0.0"
  executorMode := .external
  executorID := "worker"
  executorBindingDigest := zeros
  status := .queued
  steps := [sampleStep]
  cancellationRequested := false
  rollbackStatus := .notRequested
  verificationStatus := .pending
  verificationDigest := none
  changed := false
  stateRevision := 1
  recoveryEpoch := 1
  createdAt := 10
  updatedAt := 10
  extensions := []

def sampleLease : ExecutorLease :=
  ⟨"lease", "plan", zeros, "run", "step", "op", "worker", "adapter", "target", zeros, zeros, zeros, 1, 20, 40, 80, 80,
    .active, []⟩

def sampleRenewal (nonce next : String) (time : Time) : Call := .renewLease ⟨⟨"lease", zeros, nonce, 1, []⟩, next, time⟩

def renewedTwice : List Call :=
  [.createRun ⟨sampleRun, "key", ⟨⟨"plan", zeros, 1, "key", []⟩, "human", some .preauthorized, none⟩⟩,
    .mutate (.transitionRun { runID := "run", source := .queued, target := .running, time := 11 }),
    .claimLease ⟨⟨"worker", "principal", "adapter", 1, zeros, []⟩, sampleLease, 20, "principal"⟩,
    sampleRenewal zeros ones 40, sampleRenewal ones twos 60, sampleRenewal twos zeros 79]

/-- Two renewals bring the check-in to the expiry; a third finds no window. -/
theorem lease_renewed_twice :
    (∃ row ∈ (transactAll sampleStore renewedTwice).leases.rows, row.renewalCount = 2 ∧ row.renewAfter = 80 ∧
      row.nonceDigest = twos) ∧ NeverGrows sampleStore renewedTwice := by
  refine ⟨by decide +kernel, lease_authority_never_grows ?_⟩
  rintro query member now rfl
  simp [renewedTwice, sampleRenewal] at member

end VskLabs

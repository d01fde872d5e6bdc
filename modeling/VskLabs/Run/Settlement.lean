import VskLabs.Run.ReceiptAuthority

/-! Over every sequence of transactions, pruning included, a key takes effect
once, an external step has one terminal receipt, and what is terminal stays. -/

namespace VskLabs
open Library ExecutorLeaseRepository

variable {query : Call} {store after : Store}

theorem transactAll_invariant (queries : List Call) {motive : Store → Prop}
    (keeps : ∀ {query store after}, Committed query store after → motive store → motive after)
    (initial : motive store) : motive (transactAll store queries) := by
  induction queries generalizing store with
  | nil => exact initial
  | cons query rest ih =>
    apply ih
    rcases transact_cases store query with same | accepts
    · rwa [same]
    · exact keeps accepts initial

variable (plans : Table Plan.planID) (revision epoch : Int)

theorem transactAll_agreed (queries : List Call) : (transactAll (Store.fresh plans revision epoch) queries).Agreed :=
  transactAll_invariant queries Committed.agreed (Store.fresh_agreed plans revision epoch)

/-! ### Keys -/

variable {key : IntentKey}

theorem executeAuditIntent_keyed {α : Type} {request : RequestDigest} {expected : Option (Int × Int)} {result : Option α}
    {business : Store → Except Failure (α × Store)}
    (done : executeAuditIntent store expected key request business = .ok (result, after)) :
    after.Recorded key ∧ (store.Recorded key → after = store) := by
  simpa [Store.Recorded, Store.register] using (executeAuditIntent_registered done).settled

theorem Committed.keyed (committed : Committed query store after) (agreed : store.Agreed) (own : query.key = some key) :
    after.Recorded key ∧ (store.Recorded key → after = store) := by
  cases query with
  | mutate mutation =>
    cases own
    rcases (Mutation.apply_rewrites committed.choose_spec).wrote agreed with
      ⟨recorded, _, rfl⟩ | ⟨_, _, _, _, _, _, _, _, _, wrote⟩
    · exact ⟨recorded, fun _ => rfl⟩
    · exact ⟨(wrote.recorded _).mpr (.inl rfl), fun recorded => absurd recorded wrote.fresh⟩
  | createRun | acquireTargetLease | claimRunOperation | completeRunOperation | claimLease | renewLease | expireLeases
  | recordExternalReceipt =>
    cases own
    obtain ⟨_, done⟩ := committed
    simp only [RunRepository.create, RunRepository.acquireTargetLease, RunRepository.claimRunOperation,
      RunRepository.completeRunOperation, claim, renew, expire, recordReceipt, peel, Prod.mk.injEq] at done
    grind [executeAuditIntent_keyed]
  | _ => cases own

/-- If the first call committed, the second one under its key changes nothing. -/
def Once (store : Store) (first : Call) (middle : List Call) (second : Call) : Prop :=
  Accepts store first → ∀ key, first.key = some key → second.key = some key →
    transact (transactAll (transact store first) middle) second = transactAll (transact store first) middle

theorem keys_take_effect_once (older middle : List Call) (first second : Call) :
    Once (transactAll (Store.fresh plans revision epoch) older) first middle second := by
  intro accepts key own again
  have agreed := transactAll_agreed plans revision epoch older
  have kept := transactAll_invariant middle (motive := fun store => store.Agreed ∧ store.Recorded key)
    (fun committed held => ⟨committed.agreed held.1, (committed.kept held.1).keys key held.2⟩)
    ⟨Committed.agreed accepts agreed, (Committed.keyed accepts agreed own).1⟩
  rcases transact_cases _ second with same | repeated
  · exact same
  · exact (Committed.keyed repeated kept.1 again).2 kept.2

def creation (runID : String) : Call :=
  .createRun ⟨{ sampleRun with runID := runID }, "key", ⟨⟨"plan", zeros, 1, "key", []⟩, "human", some .preauthorized, none⟩⟩

/-- A second run under the key of the first is not made, long after the first. -/
theorem second_creation_ignored :
    transact (transactAll (transact sampleStore (creation "run")) renewedTwice.tail) (creation "other") =
      transactAll (transact sampleStore (creation "run")) renewedTwice.tail := by
  have once : Once sampleStore (creation "run") renewedTwice.tail (creation "other") :=
    keys_take_effect_once _ 1 1 [] renewedTwice.tail (creation "run") (creation "other")
  refine once ?_ (.runSubmit "key") rfl rfl
  rcases transact_cases sampleStore (creation "run") with same | accepts
  · have made : ((transact sampleStore (creation "run")).document "run").isSome = true := by decide +kernel
    rw [same] at made
    cases made
  · exact accepts

/-! ### Receipts -/

theorem recordReceipt_terminal {request : ExecutorReceiptPersistenceRequest} {recorded : ExecutionReceipt}
    (done : recordReceipt store request = .ok (recorded, after)) (terminal : request.request.receipt.status ≠ .running) :
    ∀ old ∈ store.observations.rows, old.leaseID = request.request.receipt.leaseID → old.status = .running := by
  unfold recordReceipt at done
  simp only [↓ensure_bind, bind_eq_ok, require_eq_ok] at done
  obtain ⟨exact_, bound, timely, ⟨created, final⟩, ran, value, wrote, _⟩ := done
  rcases executeAuditIntent_cases ran with ⟨_, rfl, _⟩ | ⟨_, _, _, _, body, _⟩
  · cases wrote
  · unfold recordReceiptInTx at body
    simp only [↓ensure_bind, bind_eq_ok, require_eq_ok] at body
    obtain ⟨lease, read, epoch, binding, reports, current, only, _⟩ := body
    intro old member same
    simp only [checks, terminal, false_or] at only
    -- a late receipt closes its lease first, which leaves the receipts alone
    split at only <;> simpa [same] using only old member

/-- The receipt was reported under an external lease of its step. -/
def Store.Holds (store : Store) (receipt : ReceiptRow) : Prop :=
  ∃ row ∈ store.leases.rows, row.leaseID = receipt.leaseID ∧ row.stepID = receipt.stepID ∧ row.kind = .external

/-- Terminal receipts that agree on the key are one receipt. -/
def SettledBy (key : ReceiptRow → String) (receipts : List ReceiptRow) : Prop :=
  ∀ first ∈ receipts, ∀ second ∈ receipts, key first = key second →
    first.status ≠ .running → second.status ≠ .running → first = second

structure Store.Filed (store : Store) : Prop where
  sound : ∀ row ∈ store.leases.rows, row.Sound
  single : store.Single
  held : ∀ receipt ∈ store.observations.rows, store.Holds receipt
  last : SettledBy ReceiptRow.leaseID store.observations.rows

theorem Store.Filed.prune (filed : store.Filed) (now : Time) : (Retention.pruned store now).Filed := by
  constructor
  · exact fun row member => filed.sound row (Table.mem_delete.mp member).1
  · exact fun first member second present =>
      filed.single first (Table.mem_delete.mp member).1 second (Table.mem_delete.mp present).1
  · -- a receipt that is kept keeps its lease
    intro receipt member
    obtain ⟨old, kept⟩ := Table.mem_delete.mp member
    obtain ⟨row, present, lease, rest⟩ := filed.held receipt old
    have found := Table.find?_eq_some_iff.mpr ⟨present, lease⟩
    simp only [Retention.deletesReceiptRow, Retention.deletesLease, found, Bool.or_eq_false_iff] at kept
    exact ⟨row, Table.mem_delete.mpr ⟨present, by simpa using kept.1.1⟩, lease, rest⟩
  · exact fun first member second present =>
      filed.last first (Table.mem_delete.mp member).1 second (Table.mem_delete.mp present).1

theorem Committed.filed (committed : Committed query store after) (filed : store.Filed) :
    after.Filed := by
  by_cases pruning : ∃ now, query = .pruneRunHistory now
  · obtain ⟨now, rfl⟩ := pruning
    rw [(Retention.pruneRunHistory_eq_ok committed.choose_spec).2.2]
    exact filed.prune now
  have unpruned := not_exists.mp pruning
  have change := committed.leaseChange unpruned
  have sound := change.sound filed.sound
  have single := change.single filed.sound filed.single
  have carry (receipt : ReceiptRow) (held : store.Holds receipt) : after.Holds receipt := by
    obtain ⟨row, member, lease, step, kind⟩ := held
    obtain ⟨new, present, follows⟩ := (change.continues filed.sound).leases row member
    exact ⟨new, present, follows.leaseID.trans lease, follows.stepID.trans step, follows.kind.trans kind⟩
  have held := fun receipt member => carry receipt (filed.held receipt member)
  have kept (same : after.observations = store.observations) : after.Filed :=
    ⟨sound, single, same ▸ held, same ▸ filed.last⟩
  cases committed.transacted with
  | reported request law =>
    have only := recordReceipt_terminal committed.choose_spec
    have present := Table.mem_of_find? law.read.found
    have step := (filed.sound _ present).stepID.symm.trans (validExecutionReceiptBinding_ids law.binding).2.2
    refine ⟨sound, single, ?_, ?_⟩
    all_goals rw [(Table.insert?_eq_some law.observed).2]
    · refine List.forall_mem_append.mpr ⟨held, List.forall_mem_singleton.mpr ?_⟩
      exact carry _ ⟨_, present, Table.find?_key law.read.found, step, law.read.external⟩
    · have last := filed.last
      grind [SettledBy]
  | pruned now => exact absurd rfl (unpruned now)
  | mutated mutation done => exact kept (by rw [Mutation.apply_frame done])
  | created _ law | claimed _ law | renewed _ law => exact kept (by rw [law.others])
  | _ => exact kept rfl

/-- Whatever is called in whatever order, two terminal receipts of one step are
one receipt. -/
theorem steps_settle_once (queries : List Call) :
    SettledBy ReceiptRow.stepID (transactAll (Store.fresh plans revision epoch) queries).observations.rows := by
  have filed : (transactAll (Store.fresh plans revision epoch) queries).Filed := by
    refine transactAll_invariant queries Committed.filed ⟨?_, ?_, ?_, ?_⟩
    all_goals intro row member; cases member
  intro first member second present same here there
  obtain ⟨held, one, lease, step, kind⟩ := filed.held first member
  obtain ⟨twin, other, again, also, external⟩ := filed.held second present
  obtain rfl := filed.single held one twin other kind external (step.trans (same.trans also.symm))
  exact filed.last first member second present (lease.symm.trans again) here there

/-- The executor of the sample lease reports. -/
def reporting (receiptID : String) (status : Status) (time : Time) : Call :=
  .recordExternalReceipt ⟨⟨{ workReceipt with
    stepID := "step", receiptID := receiptID, status := status, nonceDigest := zeros, recordedAt := 30 }, zeros, []⟩, time⟩

def reportedTwice : List Call := renewedTwice.take 3 ++ [reporting "first" .succeeded 35, reporting "second" .failed 36]

theorem second_report_not_stored :
    (∃ receipt ∈ (transactAll sampleStore reportedTwice).observations.rows, receipt.stepID = "step" ∧
      receipt.status = .succeeded) ∧
    ∀ receipt ∈ (transactAll sampleStore reportedTwice).observations.rows, receipt.stepID = "step" →
      receipt.status ≠ .running → receipt.status = .succeeded := by
  have stored : ∃ receipt ∈ (transactAll sampleStore reportedTwice).observations.rows, receipt.stepID = "step" ∧
      receipt.status = .succeeded := by decide +kernel
  refine ⟨stored, fun receipt member own final => ?_⟩
  obtain ⟨first, present, same, succeeded⟩ := stored
  rw [steps_settle_once _ 1 1 reportedTwice receipt member first present (own.trans same.symm) final (by simp [succeeded]),
    succeeded]

/-! ### Runs -/

variable {old new : Run} {runID : String}

/-- A later document is of the same plan and keeps what is terminal. -/
structure Run.Follows (old new : Run) : Prop where
  planID : new.planID = old.planID
  status : ∀ status, terminalRunStatus status = true → old.status = status → new.status = status
  steps : ∀ stepID stage, terminalRunStatus stage.1 = true → (findStep old stepID).map RunStep.stage = some stage →
    (findStep new stepID).map RunStep.stage = some stage

theorem Run.Follows.refl (run : Run) : run.Follows run := ⟨rfl, fun _ _ => id, fun _ _ _ => id⟩

theorem Edited.follows (edited : Edited query old new) : old.Follows new := by
  refine ⟨edited.planID, ?_, ?_⟩
  · rintro _ final rfl
    cases edited.shift with
    | kept same => exact same
    | moved request _ allowed source =>
      rw [source] at final
      revert allowed final
      cases request.source <;> cases request.target <;> simp [terminalRunStatus, validRunTransition, runTransitions]
  · intro stepID stage final stored
    rcases edited.findStep stepID with ⟨before, later⟩ | ⟨step, next, before, later, same | move⟩
    all_goals rw [before] at stored; rw [later]
    · cases stored
    · rwa [Option.map_some, same]
    · cases stored
      generalize step.stage = source, next.stage = target at move final ⊢
      cases move <;> simp [terminalRunStatus] at final

theorem Documents.follows (documents : Documents query store after) (stored : store.document runID = some old)
    (later : after.document runID = some new) : old.Follows new := by
  rcases documents.stored later with same | ⟨request, _, law, rfl, _⟩ | ⟨first, found, rfl, law⟩
  · cases stored.symm.trans same
    exact .refl old
  · simp [Store.document, (Table.insert?_eq_some law.runs).1] at stored
  · cases stored.symm.trans found
    exact law.follows

/-- A stored run is pruned at some point or is still followed at the end. -/
def Lasts (store : Store) (queries : List Call) (runID : String) : Prop :=
  ∀ old, store.document runID = some old →
    (∃ first, first <+: queries ∧ (transactAll store first).document runID = none) ∨
      ∃ new, (transactAll store queries).document runID = some new ∧ old.Follows new

theorem Lasts.of_agreed {queries : List Call} (agreed : store.Agreed) : Lasts store queries runID := by
  induction queries generalizing store with
  | nil => exact fun old stored => .inr ⟨old, stored, .refl old⟩
  | cons query rest ih =>
    intro old stored
    cases next : (transact store query).document runID with
    | none => exact .inl ⟨[query], by simp, next⟩
    | some middle =>
      have step : (transact store query).Agreed ∧ old.Follows middle := by
        rcases transact_cases store query with same | accepts
        · rw [same] at next ⊢
          cases stored.symm.trans next
          exact ⟨agreed, .refl old⟩
        · exact ⟨Committed.agreed accepts agreed, (Committed.documents accepts agreed).follows stored next⟩
      rcases ih step.1 middle next with ⟨first, part, gone⟩ | ⟨new, last, follows⟩
      · exact .inl ⟨query :: first, List.cons_prefix_cons.mpr ⟨rfl, part⟩, gone⟩
      · exact .inr ⟨new, last, follows.planID.trans step.2.planID,
          fun status final held => follows.status status final (step.2.status status final held),
          fun stepID stage final held => follows.steps stepID stage final (step.2.steps stepID stage final held)⟩

theorem terminal_runs_stay (earlier later : List Call) (runID : String) :
    Lasts (transactAll (Store.fresh plans revision epoch) earlier) later runID :=
  .of_agreed (transactAll_agreed plans revision epoch earlier)

def moving (source target : Status) (time : Time) : Call :=
  .mutate (.transitionRun { runID := "run", source := source, target := target, time := time })

def failedRun : List Call := renewedTwice ++ [moving .running .failed 90]

/-- A failed run is not set running again. -/
theorem failed_run_stays_failed :
    ∃ run, (transactAll (transactAll sampleStore failedRun) [moving .failed .running 91]).document "run" = some run ∧
      run.status = .failed := by
  have failed : ((transactAll sampleStore failedRun).document "run").any (fun run => run.status == .failed) = true := by
    decide +kernel
  have kept : ((transactAll (transactAll sampleStore failedRun) [moving .failed .running 91]).document "run").isSome = true := by
    decide +kernel
  simp only [finds, checks] at failed
  obtain ⟨old, stored, failed⟩ := failed
  rcases terminal_runs_stay _ 1 1 failedRun [moving .failed .running 91] "run" old stored with
    ⟨first, part, gone⟩ | ⟨new, found, follows⟩
  · -- the run is stored before and after the only later call
    have ends : first = [] ∨ first = [moving .failed .running 91] := by
      rcases first with _ | ⟨query, rest⟩
      · exact .inl rfl
      · obtain ⟨rfl, short⟩ := List.cons_prefix_cons.mp part
        rw [List.prefix_nil.mp short]
        exact .inr rfl
    rcases ends with rfl | rfl
    · exact absurd (stored.symm.trans gone) (by simp)
    · change (transactAll (transactAll sampleStore failedRun) _).document "run" = none at gone
      rw [gone] at kept
      cases kept
  · exact ⟨new, found, follows.status .failed rfl failed⟩

end VskLabs

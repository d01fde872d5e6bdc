import VskLabs.Run.EntryObedience
import VskLabs.Run.Documents
import VskLabs.Run.LeaseAuthority

/-! Histories of the running system. Each call in one was permitted by what its
thread had seen, and each reply tells the truth about the store it came from. -/

namespace VskLabs
open Library RunRepository ExecutorLeaseRepository

structure Store.Sane (store : Store) : Prop where
  agreed : store.Agreed
  leases : ∀ row ∈ store.leases.rows, row.Sound
  planned : ∀ row ∈ store.runs.rows, row.request.reference.planID = row.planID

variable {store after : Store} {run : Run} {query : Call} {resumes : Bool} {earlier : List Record} {record : Record}

theorem getRun_law {runID : String} (read : RunRepository.getRun store runID = .ok run) :
    ∃ row, store.runs.find? runID = some row ∧ row.run = run := by
  simp only [RunRepository.getRun, peel, decodeRun_eq_ok] at read
  obtain ⟨_, _, row, found, _, same⟩ := read
  exact ⟨row, found, same⟩

theorem existing_law {submitKey : String} {request : SubmitDigest}
    (read : existing store submitKey request = .ok (some run)) :
    ∃ row ∈ store.runs.rows, row.request = request ∧ row.run = run := by
  unfold existing at read
  split at read
  · cases read
  next row found =>
    simp only [peel, checks, decodeRun_eq_ok, Option.some.injEq] at read
    obtain ⟨_, same, _, ⟨_, rfl⟩, rfl⟩ := read
    exact ⟨row, List.mem_of_find?_eq_some found, same, rfl⟩

theorem Store.Agreed.document (agreed : store.Agreed) {row : RunRow} (member : row ∈ store.runs.rows) :
    store.document row.run.runID = some row.run := by
  have found := Table.find?_eq_some_iff.mpr ⟨member, rfl⟩
  rw [Store.document, (agreed row member).runID, found]
  rfl

theorem Truthful.credible {reply : Reply query}
    (truthful : Truthful query reply store after) (sane : store.Sane) : credible query reply := by
  cases query with
  | getRun runID =>
    cases reply with
    | error failure => trivial
    | ok run =>
      obtain ⟨row, found, rfl⟩ := getRun_law truthful
      exact sane.agreed.find?_runID found
  | getPlan planID =>
    cases reply with
    | error failure => trivial
    | ok plan =>
      simp only [Truthful, getPlan, peel] at truthful
      exact Table.find?_key truthful
  | getLease leaseID =>
    cases reply with
    | error failure => trivial
    | ok lease =>
      simp only [Truthful, ExecutorLeaseRepository.get, peel] at truthful
      obtain ⟨_, _, ⟨_, row⟩, read, rfl⟩ := truthful
      obtain ⟨rfl, held⟩ := readExecutorLeaseInTx_law read
      exact (sane.leases row (Table.mem_of_find? held.found)).leaseID.trans (Table.find?_key held.found)
  | existingRun submitKey request =>
    rcases reply with failure | _ | run
    · trivial
    · trivial
    · obtain ⟨row, member, same, rfl⟩ := existing_law truthful
      rw [← same]
      exact (sane.agreed row member).planID.trans (sane.planned row member).symm
  | createRun request =>
    rcases reply with failure | _ | run
    · trivial
    · trivial
    · rcases create_law truthful with ⟨impossible, _⟩ | ⟨same, _⟩
      · cases impossible
      · exact Option.some.inj same
  | mutate mutation =>
    rcases reply with failure | _ | run
    · trivial
    · trivial
    · rcases (Mutation.apply_rewrites truthful).wrote sane.agreed with
        ⟨_, impossible, _⟩ | ⟨_, changed, _, same, _, _, own, _⟩
      · cases impossible
      · cases same
        exact own
  | _ => trivial

theorem Truthful.delivered {reply : Reply query}
    (truthful : Truthful query reply store after) (effect : after = store ∨ Committed query store after)
    (agreed : store.Agreed) (given : run ∈ delivered ⟨query, reply⟩) :
    after.document run.runID = some run := by
  cases query with
  | getRun runID =>
    rcases reply with failure | read
    · cases given
    · obtain ⟨row, found, rfl⟩ := getRun_law truthful
      obtain rfl := List.mem_singleton.mp given
      obtain rfl := effect.resolve_right id
      exact agreed.document (Table.mem_of_find? found)
  | existingRun submitKey request =>
    rcases reply with failure | _ | read
    · cases given
    · cases given
    · obtain ⟨row, member, _, rfl⟩ := existing_law truthful
      obtain rfl := List.mem_singleton.mp given
      obtain rfl := effect.resolve_right id
      exact agreed.document member
  | activeRuns =>
    rcases reply with failure | runs
    · cases given
    · obtain ⟨row, member, _, rfl⟩ := (mem_activeRuns truthful).mp given
      obtain rfl := effect.resolve_right id
      exact agreed.document member
  | createRun request =>
    rcases reply with failure | _ | made
    · cases given
    · cases given
    · obtain rfl := List.mem_singleton.mp given
      rcases create_law truthful with ⟨impossible, _⟩ | ⟨same, created⟩
      · cases impossible
      · cases same
        simp [Store.document, Table.find?_insert? created.runs]
  | mutate mutation =>
    rcases reply with failure | _ | changed
    · cases given
    · cases given
    · obtain rfl := List.mem_singleton.mp given
      rcases (Mutation.apply_rewrites truthful).wrote agreed with
        ⟨_, impossible, _⟩ | ⟨_, written, _, same, _, _, own, _, _, wrote⟩
      · cases impossible
      · cases same
        rw [wrote.document, if_pos own]
  | _ => cases given

/-! ### Keys and plans -/

structure Kept (query : Call) (store after : Store) : Prop where
  keys : ∀ key, store.Recorded key → after.Recorded key
  new : ∀ key, after.Recorded key → store.Recorded key ∨ query.key = some key
  plans : after.plans = store.plans

theorem Kept.refl (query : Call) (store : Store) : Kept query store store :=
  ⟨fun _ recorded => recorded, fun _ recorded => .inl recorded, rfl⟩

theorem Kept.of_noted {key : IntentKey} (noted : store.Noted key after)
    (own : query.key = some key) (plans : after.plans = store.plans) : Kept query store after := by
  refine ⟨fun wanted recorded => (noted wanted).mpr (.inr recorded), ?_, plans⟩
  intro wanted recorded
  rcases (noted wanted).mp recorded with same | old
  · exact .inr (by rw [own, same])
  · exact .inl old

theorem Kept.of_intents (intents : after.intents = store.intents)
    (plans : after.plans = store.plans) : Kept query store after := by
  have same (key : IntentKey) : after.Recorded key ↔ store.Recorded key := by rw [Store.Recorded, intents]; rfl
  exact ⟨fun key => (same key).mpr, fun key recorded => .inl ((same key).mp recorded), plans⟩

theorem Committed.kept (committed : Committed query store after)
    (agreed : store.Agreed) : Kept query store after := by
  cases committed.transacted with
  | nothing => exact .refl _ _
  | created request law => exact .of_noted law.noted rfl (by rw [law.others])
  | mutated mutation done =>
    rcases (Mutation.apply_rewrites done).wrote agreed with
      ⟨_, _, rfl⟩ | ⟨_, _, _, _, _, _, _, _, _, wrote⟩
    · exact .refl _ _
    · exact .of_noted wrote.recorded rfl wrote.plans
  | acquired lease _ _ _ noted => exact .of_noted noted rfl rfl
  | expired time noted => exact .of_noted noted rfl rfl
  | operated own noted => exact .of_noted noted own rfl
  | claimed request law => exact .of_noted law.noted rfl (by rw [law.others])
  | renewed request law => exact .of_noted law.noted rfl (by rw [law.others])
  | reported request law => exact .of_noted law.noted rfl (by rw [law.others])
  | _ => exact .of_intents rfl rfl

/-! ### Sane states -/

def RunRow.Stems (old new : RunRow) : Prop := new.planID = old.planID ∧ new.request = old.request

theorem stems_of_runs (same : after.runs = store.runs) :
    ∀ new ∈ after.runs.rows, ∃ old ∈ store.runs.rows, old.Stems new := by
  intro new member
  rw [same] at member
  exact ⟨new, member, rfl, rfl⟩

theorem stems_of_writtenBack (runs : after.runs = writtenBack store run) :
    ∀ new ∈ after.runs.rows, ∃ old ∈ store.runs.rows, old.Stems new := by
  intro new member
  rw [runs] at member
  obtain ⟨old, present, rfl⟩ := mem_writtenBack.mp member
  refine ⟨old, present, ?_⟩
  split
  · exact ⟨rfl, rfl⟩
  · exact ⟨rfl, rfl⟩

theorem Committed.stems (committed : Committed query store after) :
    (∃ request, query = .createRun request ∧ Created request store after) ∨
      ∀ new ∈ after.runs.rows, ∃ old ∈ store.runs.rows, old.Stems new := by
  cases committed.transacted with
  | created request law => exact .inl ⟨request, rfl, law⟩
  | mutated mutation done =>
    right
    rcases Mutation.apply_rewrites done with ⟨_, _, rfl⟩ | ⟨run, mutate, _, mutated, body⟩
    · exact stems_of_runs rfl
    · obtain ⟨row, _, _, _, runs⟩ := mutated.runs fun ran => (body ran).1
      intro new member
      rw [runs] at member
      obtain ⟨old, present, rfl⟩ := Table.mem_modify.mp member
      refine ⟨old, present, ?_⟩
      split
      · exact ⟨rfl, rfl⟩
      · exact ⟨rfl, rfl⟩
  | claimed request law => exact .inr (stems_of_writtenBack law.runs)
  | reported request law =>
    rcases law.effect with ⟨_, same, _⟩ | ⟨_, row, step, _, _, _, _, _, _, runs, _⟩
    · exact .inr (stems_of_runs same)
    · exact .inr (stems_of_writtenBack runs)
  | pruned now => exact .inr fun row member => ⟨row, (Table.mem_delete.mp member).1, rfl, rfl⟩
  | renewed request law => exact .inr (stems_of_runs (by rw [law.others]))
  | _ => exact .inr (stems_of_runs rfl)

theorem Committed.sound (committed : Committed query store after)
    (sound : ∀ row ∈ store.leases.rows, row.Sound) : ∀ row ∈ after.leases.rows, row.Sound := by
  by_cases pruning : ∃ now, query = .pruneRunHistory now
  · obtain ⟨now, rfl⟩ := pruning
    intro row member
    rw [(Retention.pruneRunHistory_eq_ok committed.choose_spec).2.2] at member
    exact sound row (Table.mem_delete.mp member).1
  · exact (committed.leaseChange fun now same => pruning ⟨now, same⟩).sound sound

theorem Committed.sane {past : Past}
    (committed : Committed query store after) (permitted : Permitted resumes past query) (sane : store.Sane) :
    after.Sane := by
  refine ⟨committed.agreed sane.agreed, committed.sound sane.leases, ?_⟩
  intro row member
  rcases committed.stems with ⟨request, rfl, created⟩ | stems
  · obtain ⟨plan, submitted⟩ := permitted
    rcases (Table.mem_insert? created.runs).mp member with old | rfl
    · exact sane.planned row old
    · exact submitted.reference.trans submitted.planID.symm
  · obtain ⟨old, present, planID, request⟩ := stems row member
    rw [planID, request]
    exact sane.planned old present

theorem Store.fresh_sane (plans : Table Plan.planID) (revision epoch : Int) : (Store.fresh plans revision epoch).Sane := by
  refine ⟨Store.fresh_agreed plans revision epoch, ?_, ?_⟩
  · intro row member
    cases member
  · intro row member
    cases member

/-! ### Chronicles -/

structure Chronicle (resumes : Bool) (initial : Store) (history : List Record) (final : Store) : Prop where
  linked : System.Linked initial history final
  recorded : Along (System.Recorded Store.Sane (Permitted resumes)) history
  sane : final.Sane

theorem Chronicle.of_run {E : Type} {programs : E → Job Unit}
    (obedient : ∀ entry, Obedient resumes (programs entry) [] whatever) {plans : Table Plan.planID} {revision epoch : Int}
    {actions : List (Action world E)} {last : System world}
    (ran : (System.boot (Store.fresh plans revision epoch) : System world).run programs actions = some last) :
    Chronicle resumes (Store.fresh plans revision epoch) last.history last.state := by
  have recorded := System.Recorded.of_boot Store.Sane (fun query choice store reply after sane responded =>
      Truthful.credible (respond_truthful responded) sane)
    (fun past query choice store reply after sane permitted responded => by
      rcases respond_cases responded with rfl | committed
      · exact sane
      · exact committed.sane permitted sane)
    obedient (Store.fresh_sane plans revision epoch) ran
  exact ⟨System.Linked.of_boot ran, recorded.2, recorded.1⟩

theorem Chronicle.of_execute {config : EngineConfig} {plans : Table Plan.planID} {revision epoch : Int} {deeds : List Deed}
    {system : System world} (ran : execute config (Store.fresh plans revision epoch) deeds = some system) :
    Chronicle true (Store.fresh plans revision epoch) system.history system.state :=
  Chronicle.of_run (fun entry => EntryPoint.program_obedient entry fun _ => rfl) ran

structure Took (resumes : Bool) (earlier : List Record) (record : Record) : Prop where
  sane : Store.Sane record.before
  permitted : Permitted resumes (eventsOf record.thread earlier) record.event.call
  effect : record.after = record.before ∨ Committed record.event.call record.before record.after
  truthful : Truthful record.event.call record.event.reply record.before record.after

theorem Took.documents (took : Took resumes earlier record) :
    Documents record.event.call record.before record.after := by
  rcases took.effect with same | committed
  · exact .of_runs (by rw [same])
  · exact committed.documents took.sane.agreed

theorem Took.submitted {request : RunCreateRequest} (took : Took resumes earlier record)
    (asked : record.event.call = .createRun request) :
    ∃ plan, Submitted (eventsOf record.thread earlier) request plan := by
  have permitted := took.permitted
  rwa [asked] at permitted

theorem Took.kept (took : Took resumes earlier record) :
    Kept record.event.call record.before record.after := by
  rcases took.effect with same | committed
  · rw [same]
    exact .refl _ _
  · exact committed.kept took.sane.agreed

theorem Took.delivered (took : Took resumes earlier record) (given : run ∈ delivered record.event) :
    Store.document record.after run.runID = some run :=
  took.truthful.delivered took.effect took.sane.agreed given

section Chronicle

variable {resumes : Bool} {initial final : Store} {history : List Record}

theorem Chronicle.cons {last : Record} {earlier : List Record}
    (chronicle : Chronicle resumes initial (last :: earlier) final) :
    final = last.after ∧ Took resumes earlier last ∧ Chronicle resumes initial earlier last.before := by
  obtain ⟨rfl, linked⟩ := chronicle.linked
  obtain ⟨⟨sane, permitted, choice, answered⟩, recorded⟩ := chronicle.recorded
  exact ⟨rfl, ⟨sane, permitted, respond_cases answered, respond_truthful answered⟩, linked, recorded, sane⟩

theorem Chronicle.induct {motive : List Record → Store → Prop} (start : motive [] initial)
    (step : ∀ earlier last, Chronicle resumes initial earlier last.before → Took resumes earlier last →
      motive earlier last.before → motive (last :: earlier) last.after)
    (chronicle : Chronicle resumes initial history final) : motive history final := by
  induction history generalizing final with
  | nil =>
    have same : final = initial := chronicle.linked
    rw [same]
    exact start
  | cons last earlier ih =>
    obtain ⟨rfl, took, before⟩ := chronicle.cons
    exact step earlier last before took (ih before)

theorem Chronicle.split {newer older : List Record} {record : Record}
    (chronicle : Chronicle resumes initial (newer ++ record :: older) final) :
    Took resumes older record ∧ Chronicle resumes initial older record.before := by
  induction newer generalizing final with
  | nil => exact chronicle.cons.2
  | cons last rest ih => exact ih chronicle.cons.2.2

theorem Chronicle.plans (chronicle : Chronicle resumes initial history final) : final.plans = initial.plans := by
  refine Chronicle.induct (motive := fun _ store => store.plans = initial.plans) rfl ?_ chronicle
  intro earlier last _ took same
  exact took.kept.plans.trans same

theorem Chronicle.upto {newer older : List Record} {record : Record}
    (chronicle : Chronicle resumes initial (newer ++ record :: older) final) :
    Chronicle resumes initial (record :: older) record.after := by
  induction newer generalizing final with
  | nil =>
    obtain ⟨rfl, _⟩ := chronicle.cons
    exact chronicle
  | cons last rest ih => exact ih chronicle.cons.2.2

end Chronicle

end VskLabs

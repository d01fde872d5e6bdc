import VskLabs.Run.History

/-! Where the runs of a history come from. A run is created once, for one plan,
and what a thread has seen of it names that plan. -/

namespace VskLabs
open Library RunRepository

def Made (history : List Record) (runID planID : String) : Prop :=
  ∃ record ∈ history, ∃ request, record.event.call = .createRun request ∧ request.run.runID = runID ∧
    request.run.planID = planID ∧ Created request record.before record.after

def Lasting (fact : Run → Prop) : Prop := ∀ query old new, Edited query old new → fact old → fact new

variable {runID planID : String}

theorem Made.grow {older newer : List Record} (inside : older ⊆ newer)
    (made : Made older runID planID) : Made newer runID planID := by
  obtain ⟨record, member, found⟩ := made
  exact ⟨record, inside member, found⟩

section Lineage

variable {resumes : Bool} {plans : Table Plan.planID} {revision epoch : Int} {history : List Record} {final : Store}

variable {run : Run} (chronicle : Chronicle resumes (Store.fresh plans revision epoch) history final)
include chronicle

theorem Chronicle.stored_made (stored : final.document runID = some run) : Made history runID run.planID := by
  refine Chronicle.induct (motive := fun history store => ∀ runID run, store.document runID = some run →
    Made history runID run.planID) ?_ ?_ chronicle runID run stored
  · intro runID run stored
    cases stored
  · intro earlier last _ took ih runID run stored
    have older : earlier ⊆ last :: earlier := List.subset_cons_self _ _
    rcases took.documents.stored stored with stored | ⟨request, asked, law, here, rfl⟩ | ⟨old, found, here, law⟩
    · exact (ih runID run stored).grow older
    · exact ⟨last, .head _, request, asked, here.symm, rfl, law⟩
    · rw [law.planID, here]
      exact (ih old.runID old found).grow older

variable {request : RunCreateRequest}

theorem Chronicle.submitted {record : Record} (member : record ∈ history)
    (created : Created request record.before record.after) : final.Recorded (.runSubmit request.submitKey) := by
  refine Chronicle.induct (motive := fun history store => ∀ record ∈ history, ∀ request,
    Created request record.before record.after → store.Recorded (.runSubmit request.submitKey)) ?_ ?_ chronicle
    record member request created
  · intro record member
    cases member
  · intro earlier last _ took ih record member request created
    rcases List.mem_cons.mp member with rfl | old
    · exact (created.noted _).mpr (.inl rfl)
    · exact took.kept.keys _ (ih record old request created)

omit chronicle in
theorem Chronicle.made_once {last : Record} {earlier : List Record}
    (chronicle : Chronicle resumes (Store.fresh plans revision epoch) earlier last.before)
    (unique : collisionFree earlier last) (asked : last.event.call = .createRun request)
    (created : Created request last.before last.after) : ¬ Made earlier request.run.runID planID := by
  rintro ⟨record, member, other, otherAsked, same, _, otherCreated⟩
  have keys : other.submitKey = request.submitKey := by
    obtain ⟨thread, ⟨call, reply⟩, before, after⟩ := last
    simp only at asked
    subst asked
    exact unique record member other otherAsked same
  have recorded := chronicle.submitted member otherCreated
  rw [keys, Store.Recorded, created.fresh] at recorded
  cases recorded

theorem Chronicle.made_unique (unique : Along collisionFree history) {first second : String} (made : Made history runID first)
    (again : Made history runID second) : first = second := by
  induction history generalizing final with
  | nil =>
    obtain ⟨record, member, _⟩ := made
    cases member
  | cons last earlier ih =>
    obtain ⟨_, _, before⟩ := chronicle.cons
    obtain ⟨record, member, request, asked, rfl, rfl, created⟩ := made
    obtain ⟨other, present, twin, otherAsked, same, rfl, otherCreated⟩ := again
    rcases List.mem_cons.mp member with rfl | old
    · rcases List.mem_cons.mp present with rfl | older
      · rw [asked] at otherAsked
        cases otherAsked
        rfl
      · exact absurd ⟨other, older, twin, otherAsked, same, rfl, otherCreated⟩
          (before.made_once unique.1 asked created)
    · rcases List.mem_cons.mp present with rfl | older
      · exact absurd ⟨record, old, request, asked, same.symm, rfl, created⟩
          (before.made_once unique.1 otherAsked otherCreated)
      · exact ih before unique.2 ⟨record, old, request, asked, rfl, rfl, created⟩
          ⟨other, older, twin, otherAsked, same, rfl, otherCreated⟩

variable {thread : Nat}

theorem Chronicle.saw_stored (saw : Saw (eventsOf thread history) run) :
    ∃ newer record older, history = newer ++ record :: older ∧ Store.document record.after run.runID = some run := by
  obtain ⟨event, member, given⟩ := saw
  obtain ⟨record, present, _, rfl⟩ := mem_eventsOf member
  obtain ⟨newer, older, rfl⟩ := List.append_of_mem present
  exact ⟨newer, record, older, rfl, chronicle.split.1.delivered given⟩

theorem Chronicle.saw_made (saw : Saw (eventsOf thread history) run) : Made history run.runID run.planID := by
  obtain ⟨newer, record, older, rfl, stored⟩ := chronicle.saw_stored saw
  exact (chronicle.upto.stored_made stored).grow (List.subset_append_right newer _)

theorem Chronicle.read_plan {plan : Plan} (read : ReadPlan (eventsOf thread history) plan) :
    plans.find? plan.planID = some plan := by
  obtain ⟨record, present, _, same⟩ := mem_eventsOf read
  obtain ⟨newer, older, rfl⟩ := List.append_of_mem present
  obtain ⟨took, before⟩ := chronicle.split
  have truthful := took.truthful
  rw [same] at truthful
  simp only [Truthful, getPlan, peel] at truthful
  rw [before.plans] at truthful
  exact truthful

theorem Chronicle.every {fact : Run → Prop} (lasting : Lasting fact)
    (start : ∀ past request plan, Submitted past request plan → plans.find? plan.planID = some plan → fact request.run) :
    ∀ runID run, final.document runID = some run → fact run := by
  refine Chronicle.induct (motive := fun _ store => ∀ runID run, store.document runID = some run → fact run) ?_ ?_ chronicle
  · intro runID run stored
    cases stored
  · intro earlier last before took ih runID run stored
    rcases took.documents.stored stored with stored | ⟨request, asked, _, _, rfl⟩ | ⟨old, found, _, law⟩
    · exact ih runID run stored
    · obtain ⟨plan, submitted⟩ := took.submitted asked
      exact start _ request plan submitted (before.read_plan submitted.read)
    · exact lasting _ old run law (ih old.runID old found)

theorem Chronicle.stored_mode (stored : final.document runID = some run) :
    ∃ plan, plans.find? run.planID = some plan ∧ run.executorMode = plan.executorMode := by
  have lasting : Lasting fun run => ∃ plan, plans.find? run.planID = some plan ∧ run.executorMode = plan.executorMode := by
    intro query old new law held
    rwa [law.planID, law.executorMode]
  refine chronicle.every lasting ?_ runID run stored
  intro past request plan submitted found
  rw [submitted.planID]
  exact ⟨plan, found, submitted.executorMode⟩

end Lineage

end VskLabs

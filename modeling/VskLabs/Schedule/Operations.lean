import VskLabs.Schedule.Finality

/-! What the scheduler's callers do: dispatching, cancelling, running an occurrence
as it is read, and recovering after a restart. -/

namespace VskLabs.Schedule
open Library

inductive Operation where
  | dispatch (request : DispatchRequest)
  | cancel (jobID : String)
  | run (jobID : String) (attribution : Attribution)
  | dispatchAndRun (request : DispatchRequest) (attribution : Attribution)
  | startup
  | activate (row : ActivationRow)
  | advanceState

section Histories

variable (config : ScheduleConfig)

def Operation.program : Operation → Routine Unit
  | .dispatch request => do let _ ← Schedule.dispatch config request
  | .cancel jobID => do let _ ← Schedule.cancel jobID
  | .run jobID attribution => do
    match ← issue (.getOccurrence jobID) with
    | .error _ => return ()
    | .ok job => let _ ← Schedule.run config job attribution
  | .dispatchAndRun request attribution => do let _ ← Schedule.dispatchAndRun config request attribution
  | .startup => do let _ ← Schedule.startup config
  | .activate row => do let _ ← issue (.activate row)
  | .advanceState => do let _ ← issue .advanceState

def operate (initial : Journal) (actions : List (Action (world config) Operation)) : Option (System (world config)) :=
  (System.boot initial : System (world config)).run (Operation.program config) actions

end Histories

/-! Attempts at the slots of a policy with wider windows, for histories of fixed calls. -/

def widePolicy : ScheduledJobPolicy := { samplePolicy with windowSeconds := 2400 }

def wideJournal (policy : ScheduledJobPolicy) : Journal := Journal.fresh ⟨[⟨policy, "human"⟩], by simp⟩ ⟨1, 1⟩

def occurrencePlan (planID : String) : Plan where
  planID := planID
  planDigest := "digest"
  binding := ⟨1, 1, "1.0.0"⟩
  operations := []
  status := .planned
  authorizationBranch := .preauthorized
  executorMode := .central
  executorID := none
  expiresAt := 10000
  requests := {}
  extensions := []

def occurrenceDecision : AuthorizationDecision :=
  ⟨"decision", "runner", "execute", "target", true, some .preauthorized, 1, 1, "digest"⟩

def localRunner : Attribution := ⟨"runner", "local-os-peer", none⟩

/-- From the lease to the submission, with the start of the attempt recorded at its own time. -/
def attempted (planID : String) (now started : Time) : List Answer :=
  [accepted now, accepted now, .clock (ofSecond now), accepted now,
    .prerequisites (.ok ((requirements samplePolicy).map fun requirement => ⟨requirement, true, ofSecond now, 1⟩)),
    .fingerprint (.ok "observation"), accepted now, .clock (ofSecond now), .plan (.ok (occurrencePlan planID)),
    .decision (.ok occurrenceDecision), accepted started, accepted started, accepted started]

variable {config : ScheduleConfig}

def hear (thread : Nat) (answers : List Answer) : List (Action (world config) Operation) :=
  answers.map (.answer thread ·)

end VskLabs.Schedule

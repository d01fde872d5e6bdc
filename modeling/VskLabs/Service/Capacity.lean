import Mathlib.Algebra.Ring.Int.Defs
import Mathlib.Order.MinMax
import VskLabs.Contracts.Documents
import VskLabs.Library.Machine
import VskLabs.Library.Outcome

/-! The capacity of a host: what a deployment may ask for, and what is reserved for
its service before the provider is called. -/

namespace VskLabs.Service
open Library

inductive Resource where
  | cpu | memory | storage

structure Sizes where
  (cpuQuotaPercent memoryBytes storageBytes : Int)
  deriving DecidableEq

namespace Sizes

def of (sizes : Sizes) : Resource → Int
  | .cpu => sizes.cpuQuotaPercent
  | .memory => sizes.memoryBytes
  | .storage => sizes.storageBytes

def max (first second : Sizes) : Sizes where
  cpuQuotaPercent := Max.max first.cpuQuotaPercent second.cpuQuotaPercent
  memoryBytes := Max.max first.memoryBytes second.memoryBytes
  storageBytes := Max.max first.storageBytes second.storageBytes

@[simp] theorem of_max (first second : Sizes) (resource : Resource) :
    (first.max second).of resource = Max.max (first.of resource) (second.of resource) := by
  cases resource <;> rfl

end Sizes

/-- A row of `service_capacity_reservations`; `serviceID` is its primary key. -/
structure Reservation where
  (serviceID hostID : String)
  sizes : Sizes

/-- `ServiceDefinition`, as far as a row of `service_catalog` is read here. -/
structure ServiceDefinition where
  (serviceID hostID : String)
  deriving DecidableEq

structure ServiceCapacity where
  hostID : String
  sizes : Sizes
  deriving DecidableEq

/-- A row of `service_capacity_observations`. -/
structure Observation where
  serviceID : String
  capacity : ServiceCapacity
  deriving DecidableEq

/-- What the plan's deployment says, and whether the execution passes the checks that
read none of the tables below. -/
structure ServiceDeploymentRequest where
  definition : ServiceDefinition
  configuration : Option Sizes
  capacity : Option ServiceCapacity
  admitted : Bool

/-- `attempted` lists the services with an open deployment attempt, `begun` the
configurations admitted so far, the latest first. -/
structure Reservations where
  catalog : List ServiceDefinition
  observations : List Observation
  attempted : List String
  (rows begun : List Reservation)

namespace Reservations

def empty : Reservations := ⟨[], [], [], [], []⟩

variable (state : Reservations) (request : ServiceDeploymentRequest)

def readService (serviceID : String) : Option ServiceDefinition := state.catalog.find? (·.serviceID = serviceID)

/-- The insert of a service import; the row is never updated or deleted. -/
def register (definition : ServiceDefinition) : Except ErrorCode Reservations := do
  ensure (state.readService definition.serviceID).isNone .stateConflict
  return { state with catalog := definition :: state.catalog }

def recordCapacity (serviceID : String) (capacity : ServiceCapacity) : Except ErrorCode Reservations := do
  let definition ← require (state.readService serviceID) .resourceNotFound
  ensure (capacity.hostID = definition.hostID) .prerequisiteBlocked
  return { state with observations := ⟨serviceID, capacity⟩ :: state.observations }

def held (hostID : String) (resource : Resource) : Int :=
  ((state.rows.filter (·.hostID = hostID)).map (·.sizes.of resource)).sum

/-- The reservations of the other services on the request's host. -/
def others (resource : Resource) : Int :=
  ((state.rows.filter fun row => row.hostID = request.definition.hostID ∧
      row.serviceID ≠ request.definition.serviceID).map
    (·.sizes.of resource)).sum

def earlier : Option Reservation := state.rows.find? (·.serviceID = request.definition.serviceID)

def checkServiceCapacity : Except ErrorCode Unit :=
  match request.configuration, request.capacity with
  | none, _ => .ok ()
  | some _, none => .error .prerequisiteBlocked
  | some wanted, some capacity => ensure ([Resource.cpu, .memory, .storage].all fun resource =>
      state.others request resource ≤ capacity.sizes.of resource ∧
        wanted.of resource ≤ capacity.sizes.of resource - state.others request resource) .prerequisiteBlocked

/-- The upsert of `reserveServiceCapacity`. -/
def reserve (wanted : Sizes) : Reservations :=
  let ⟨serviceID, hostID⟩ := request.definition
  { state with
    rows := ⟨serviceID, hostID, (state.earlier request).elim wanted (·.sizes.max wanted)⟩ ::
      state.rows.filter (·.serviceID ≠ serviceID)
    begun := ⟨serviceID, hostID, wanted⟩ :: state.begun }

def reserveServiceCapacity : Except ErrorCode Reservations :=
  match request.configuration with
  | none => .ok state
  | some wanted => do
    state.checkServiceCapacity request
    return state.reserve request wanted

def validateConfiguration : Except ErrorCode Unit :=
  match request.configuration, request.capacity with
  | none, capacity => ensure capacity.isNone .inputInvalid
  | some _, none => .error .prerequisiteBlocked
  | some _, some capacity => do
    ensure (capacity.hostID = request.definition.hostID) .planStale
    ensure (state.observations.contains ⟨request.definition.serviceID, capacity⟩) .evidenceInvalid
    state.checkServiceCapacity request

/-- `DeploymentRepository.validate` when it is not preparing. -/
def validate : Except ErrorCode Unit := do
  ensure request.admitted .authorizationDenied
  let current ← require (state.readService request.definition.serviceID) .resourceNotFound
  ensure (current = request.definition) .planStale
  state.validateConfiguration request

/-- `DeploymentRepository.Begin`. -/
def begins : Except ErrorCode Reservations := do
  state.validate request
  ensure (request.definition.serviceID ∉ state.attempted) .stateConflict
  let after ← state.reserveServiceCapacity request
  return { after with attempted := request.definition.serviceID :: after.attempted }

end Reservations

inductive Deed where
  | register (definition : ServiceDefinition)
  | recordCapacity (serviceID : String) (capacity : ServiceCapacity)
  | begins (request : ServiceDeploymentRequest)
  | completes (serviceID : String)

def Reservations.step (state : Reservations) : Deed → Reservations
  | .register definition => (state.register definition).toOption.getD state
  | .recordCapacity serviceID capacity => (state.recordCapacity serviceID capacity).toOption.getD state
  | .begins request => (state.begins request).toOption.getD state
  | .completes serviceID => { state with attempted := state.attempted.filter (· ≠ serviceID) }

/-- Every reservation covers the configuration its service was last admitted with, on
the host the service is registered for. -/
structure Reservations.Covered (state : Reservations) : Prop where
  latest : ∀ row ∈ state.rows, ∃ latest, state.begun.find? (·.serviceID = row.serviceID) = some latest ∧
    latest.hostID = row.hostID ∧ ∀ resource, latest.sizes.of resource ≤ row.sizes.of resource
  placed : ∀ row ∈ state.rows, state.readService row.serviceID = some ⟨row.serviceID, row.hostID⟩

section Laws

variable {state after : Reservations} {request : ServiceDeploymentRequest}

theorem checkServiceCapacity_fits {wanted : Sizes} {capacity : ServiceCapacity} (asked : request.configuration = some wanted)
    (given : request.capacity = some capacity) (passed : state.checkServiceCapacity request = .ok ()) (resource : Resource) :
    wanted.of resource + state.others request resource ≤ capacity.sizes.of resource := by
  simp only [Reservations.checkServiceCapacity, asked, given, peel, List.all_cons, List.all_nil, checks] at passed
  obtain ⟨⟨_, cpu⟩, ⟨_, memory⟩, ⟨_, storage⟩, _⟩ := passed
  cases resource with
  | cpu => omega
  | memory => omega
  | storage => omega

/-- A successful begin of a registered service. -/
theorem begins_cases (done : state.begins request = .ok after) :
    state.readService request.definition.serviceID = some request.definition ∧
    (request.configuration = none ∧ after = { state with attempted := request.definition.serviceID :: state.attempted } ∨
      ∃ wanted, request.configuration = some wanted ∧ state.checkServiceCapacity request = .ok () ∧
        after = { state.reserve request wanted with attempted := request.definition.serviceID :: state.attempted }) := by
  simp only [Reservations.begins, Reservations.validate, peel, checks] at done
  obtain ⟨_, ⟨_, _, _, found, _, rfl, _⟩, _, _, reserved, ran, rfl⟩ := done
  refine ⟨found, ?_⟩
  cases asked : request.configuration with
  | none =>
    simp only [Reservations.reserveServiceCapacity, asked, Except.ok.injEq] at ran
    exact .inl ⟨rfl, by rw [ran]⟩
  | some wanted =>
    simp only [Reservations.reserveServiceCapacity, asked, peel] at ran
    obtain ⟨_, passed, rfl⟩ := ran
    exact .inr ⟨wanted, rfl, passed, rfl⟩

theorem held_reserve (wanted : Sizes) (resource : Resource) :
    (state.reserve request wanted).held request.definition.hostID resource =
      ((state.earlier request).elim wanted (·.sizes.max wanted)).of resource + state.others request resource := by
  simp [Reservations.held, Reservations.reserve, Reservations.others, List.filter_filter]

theorem reserve_covered (wanted : Sizes) (known : state.readService request.definition.serviceID = some request.definition)
    (covered : state.Covered) : (state.reserve request wanted).Covered := by
  have kept : ∀ row ∈ state.rows.filter (·.serviceID ≠ request.definition.serviceID),
      row ∈ state.rows ∧ request.definition.serviceID ≠ row.serviceID := by
    intro row member
    simp only [List.mem_filter, decide_eq_true_eq] at member
    exact ⟨member.1, member.2.symm⟩
  constructor
  · intro row member
    rcases List.mem_cons.mp member with rfl | member
    · refine ⟨_, List.find?_cons_of_pos (by simp), rfl, ?_⟩
      intro resource
      cases state.earlier request with
      | none => exact le_refl _
      | some old => simp
    · obtain ⟨old, other⟩ := kept row member
      rw [Reservations.reserve, List.find?_cons_of_neg (by simp [other])]
      exact covered.latest row old
  · intro row member
    rcases List.mem_cons.mp member with rfl | member
    · exact known
    · exact covered.placed row (kept row member).1

theorem begins_covered (covered : state.Covered) (done : state.begins request = .ok after) : after.Covered := by
  obtain ⟨known, ⟨_, rfl⟩ | ⟨wanted, _, _, rfl⟩⟩ := begins_cases done
  · exact ⟨covered.latest, covered.placed⟩
  · obtain ⟨latest, placed⟩ := reserve_covered wanted known covered
    exact ⟨latest, placed⟩

theorem register_covered {definition : ServiceDefinition} (covered : state.Covered)
    (done : state.register definition = .ok after) : after.Covered := by
  simp only [Reservations.register, peel, Option.isNone_iff_eq_none] at done
  obtain ⟨_, fresh, rfl⟩ := done
  refine ⟨covered.latest, fun row member => ?_⟩
  have placed := covered.placed row member
  have other : definition.serviceID ≠ row.serviceID := by
    rintro same
    rw [same, placed] at fresh
    cases fresh
  rw [Reservations.readService, List.find?_cons_of_neg (by simpa using other)]
  exact placed

theorem step_covered (state : Reservations) (deed : Deed) (covered : state.Covered) : (state.step deed).Covered := by
  have committed : ∀ outcome : Except ErrorCode Reservations, (∀ after, outcome = .ok after → after.Covered) →
      (outcome.toOption.getD state).Covered := by
    intro outcome kept
    cases outcome with
    | error failure => exact covered
    | ok after => exact kept after rfl
  cases deed with
  | register definition => exact committed _ fun _ => register_covered covered
  | recordCapacity serviceID capacity =>
    refine committed _ fun after done => ?_
    simp only [Reservations.recordCapacity, peel] at done
    obtain ⟨_, _, _, _, rfl⟩ := done
    exact ⟨covered.latest, covered.placed⟩
  | begins request => exact committed _ fun _ => begins_covered covered
  | completes serviceID => exact ⟨covered.latest, covered.placed⟩

theorem covered_after (deeds : List Deed) : (execute Reservations.step .empty deeds).Covered :=
  execute_invariant ⟨nofun, nofun⟩ step_covered

end Laws

section Shrinking

def onHost (cpuQuotaPercent : Int) : ServiceCapacity := ⟨"host-a", cpuQuotaPercent, 4096, 4096⟩

def deployment (serviceID : String) (cpuQuotaPercent observed : Int) : ServiceDeploymentRequest :=
  ⟨⟨serviceID, "host-a"⟩, some ⟨cpuQuotaPercent, 512, 0⟩, some (onHost observed), true⟩

/-- A service is deployed, and its host has less to give when it is deployed again. -/
def redeployed : List Deed :=
  [.register ⟨"service-a", "host-a"⟩, .recordCapacity "service-a" (onHost 150),
    .begins (deployment "service-a" 100 150), .completes "service-a", .recordCapacity "service-a" (onHost 60)]

end Shrinking

end VskLabs.Service

import Mathlib.Algebra.Group.Nat.Defs
import Mathlib.Algebra.Ring.Int.Defs
import VskLabs.Authorization.Plans

/-! Scheduled policies: their contract, the slot a time falls into, the backoff
between attempts and the prerequisites of one occurrence. -/

namespace VskLabs.Schedule

/-- Nanoseconds since the zero value of Go's `time.Time`. -/
abbrev Instant := Int

def nanoseconds : Int := 1000000000

/-- `UTC().Truncate(time.Second)`, which is also what the stored texts keep. -/
def Instant.second (instant : Instant) : Time := instant / nanoseconds

def ofSecond (time : Time) : Instant := time * nanoseconds

/-- The value an `int64` computation leaves. -/
def wrap64 (value : Int) : Int := value.bmod (2 ^ 64)

/-- `time.Duration(count) * time.Second`. -/
def durationOfSeconds (count : Int) : Int := wrap64 (count * nanoseconds)

/-- `later.Sub(earlier)`, which saturates. -/
def elapsed (later earlier : Instant) : Int := max (-(2 ^ 63)) (min (2 ^ 63 - 1) (later - earlier))

inductive ActionKind where
  | gateCheck | observationRefresh | backupCreate | backupIntegrityVerify | auditCheckpointExport
  deriving DecidableEq

inductive CatchUp where
  | none | latest
  deriving DecidableEq

/-- `ScheduledJobPolicy`. Its two timestamps are what their texts parse to, and
`none` for a text that fits the pattern without being a date. -/
structure ScheduledJobPolicy where
  policyID : String
  revision : Int
  actionKind : ActionKind
  (operationType adapterID : String)
  (exactSourceIDs exactSubjectIDs exactTargetIDs : List String)
  maximumWork : Int
  credentialReferenceIDs : List String
  (grantRevision stateRevision recoveryEpoch : Int)
  retentionRuleDigest : String
  anchorAt : Option Time
  (intervalSeconds windowSeconds : Int)
  catchUp : CatchUp
  (maxAttempts initialBackoffSeconds maximumBackoffSeconds : Int)
  expiresAt : Option Time
  enabled : Bool
  deriving DecidableEq

def actionOperation : ActionKind → String × String
  | .gateCheck => ("schedule.gate.check", "core.schedule-observe")
  | .observationRefresh => ("schedule.observation.refresh", "core.schedule-observe")
  | .backupCreate => ("backup.local.create", "local.backup")
  | .backupIntegrityVerify => ("backup.local.verify", "local.backup")
  | .auditCheckpointExport => ("audit.checkpoint.anchor", "core.audit")

def ascending : List String → Bool
  | first :: second :: rest => decide (first < second) && ascending (second :: rest)
  | _ => true

def sortedUnique (values : List String) : Bool := !values.isEmpty && ascending values

def fits64 (value : Int) : Bool := decide (value < 2 ^ 63)

/-- The contract of the schema: patterns, minima and maxima. The array items
carry no pattern of their own. -/
def ScheduledJobPolicy.exactContract (policy : ScheduledJobPolicy) : Bool :=
  [policy.policyID, policy.operationType, policy.adapterID].all validRunToken &&
    validFingerprint policy.retentionRuleDigest &&
    [policy.revision, policy.maximumWork, policy.grantRevision, policy.maxAttempts, policy.initialBackoffSeconds,
      policy.maximumBackoffSeconds, policy.intervalSeconds].all (fun value => decide (1 ≤ value) && fits64 value) &&
    [policy.stateRevision, policy.recoveryEpoch].all (fun value => decide (0 ≤ value) && fits64 value) &&
    decide (policy.intervalSeconds ≤ 604800) && decide (1800 ≤ policy.windowSeconds) &&
    decide (policy.windowSeconds ≤ 604800) &&
    [policy.exactSourceIDs, policy.exactSubjectIDs, policy.exactTargetIDs, policy.credentialReferenceIDs].all fun ids =>
      decide (ids.length ≤ 64) && decide ids.Nodup

def planValiditySeconds : Int := 1800

/-- The checks of `CanonicalPolicy`. -/
def canonicalPolicy (policy : ScheduledJobPolicy) : Bool :=
  policy.exactContract && policy.enabled && decide (planValiditySeconds ≤ policy.windowSeconds) &&
    decide (policy.windowSeconds ≤ policy.intervalSeconds) &&
    decide (policy.initialBackoffSeconds ≤ policy.maximumBackoffSeconds) &&
    policy.maximumWork == 1 && policy.exactTargetIDs.length == 1 &&
    (match policy.anchorAt, policy.expiresAt with
      | some anchor, some expires => decide (anchor < expires)
      | _, _ => false) &&
    actionOperation policy.actionKind == (policy.operationType, policy.adapterID) &&
    Authorization.preauthorizedOperation policy.operationType &&
    [policy.exactSourceIDs, policy.exactSubjectIDs, policy.exactTargetIDs].all sortedUnique &&
    match policy.actionKind with
    | .gateCheck | .observationRefresh => policy.credentialReferenceIDs.isEmpty
    | _ => policy.credentialReferenceIDs.length == 1 && sortedUnique policy.credentialReferenceIDs

/-- `Slot`; the window opens at the scheduled time. -/
structure Slot where
  (scheduledAt windowClosesAt : Instant)
  deriving DecidableEq

/-- What `Due` answers: no slot, a slot, or a slot whose window is over. -/
inductive Due where
  | invalid
  | notDue
  | slot (slot : Slot)
  | windowMissed (slot : Slot)
  deriving DecidableEq

def due (policy : ScheduledJobPolicy) (observedAt : Time) : Due :=
  match policy.anchorAt with
  | none => .invalid
  | some anchor =>
    if policy.intervalSeconds ≤ 0 || policy.windowSeconds ≤ 0 then .invalid
    else if observedAt < anchor then .notDue
    else
      let interval := durationOfSeconds policy.intervalSeconds
      let offset := wrap64 ((elapsed (ofSecond observedAt) (ofSecond anchor)).tdiv interval * interval)
      let scheduled := ofSecond anchor + offset
      let slot : Slot := ⟨scheduled, scheduled + durationOfSeconds policy.windowSeconds⟩
      if slot.windowClosesAt ≤ ofSecond observedAt && policy.catchUp == .none then .windowMissed slot else .slot slot

/-- The loop of `Backoff`: double the value until it reaches the maximum or the
rounds are used up. Doubling wraps like any `int64` product. -/
def doubled (maximum : Int) : Nat → Int → Int
  | 0, value => value
  | rounds + 1, value =>
    if value < maximum then
      let twice := wrap64 (value * 2)
      doubled maximum rounds (if maximum < twice then maximum else twice)
    else value

/-- `Backoff`, in nanoseconds. -/
def backoff (policy : ScheduledJobPolicy) (attempt : Int) : Int :=
  durationOfSeconds (doubled policy.maximumBackoffSeconds (attempt - 1).toNat policy.initialBackoffSeconds)

structure PrerequisiteRequirement where
  (kind sourceID subjectID targetID policyID : String)
  (policyRevision recoveryEpoch maximumAgeSeconds : Int)
  deriving DecidableEq

structure PrerequisiteStatus where
  requirement : PrerequisiteRequirement
  current : Bool
  observedAt : Instant
  recoveryEpoch : Int

/-- `Requirements`. Every canonical policy names a source, a subject and a target. -/
def requirements (policy : ScheduledJobPolicy) : List PrerequisiteRequirement :=
  let of (kind : String) : PrerequisiteRequirement :=
    ⟨kind, policy.exactSourceIDs.headD "", policy.exactSubjectIDs.headD "", policy.exactTargetIDs.headD "",
      policy.policyID, policy.revision, policy.recoveryEpoch, wrap64 (policy.intervalSeconds * 2)⟩
  of "recovery-authority" ::
    match policy.actionKind with
    | .gateCheck => [of "applicable-gate-current"]
    | .observationRefresh => [of "observation-authority-current"]
    | .backupCreate | .backupIntegrityVerify => [of "local-backup-qualification", of "retirement-certainty"]
    | .auditCheckpointExport => [of "audit-chain-current"]

def requireCurrent (requirements : List PrerequisiteRequirement) (statuses : List PrerequisiteStatus) (now : Time) : Bool :=
  !requirements.isEmpty && statuses.length == requirements.length && decide requirements.Nodup &&
    decide (statuses.map PrerequisiteStatus.requirement).Nodup &&
    statuses.all fun status => requirements.contains status.requirement && status.current &&
      status.recoveryEpoch == status.requirement.recoveryEpoch && status.observedAt != 0 &&
      decide (elapsed (ofSecond now) status.observedAt ≤ durationOfSeconds status.requirement.maximumAgeSeconds)

end VskLabs.Schedule

import Mathlib.Algebra.Ring.Int.Defs
import VskLabs.Backup.Records
import Mathlib.Data.List.Sort

/-! The retirement of offsite generations: the catalog of what the database holds, the
choice of one generation, and the settlement of its retirement. -/

namespace VskLabs.Backup
open Library

structure RetentionRuleRef where
  (ruleID path : String)

/-- A row of `backup_offsite_generations`; `valid` is what `ValidatePendingOffsiteGeneration` finds. -/
structure OffsiteGeneration where
  (generationID sourcePointID : String)
  protectedRules : List RetentionRuleRef
  objectBytes : Int
  issuanceStoppedAt : Instant
  sessionExpiries : List Instant
  recoveryEpoch : Int
  createdAt : Instant
  valid : Bool

/-- `qualified` are the generations with a qualified provider's proof, `lastGood` is the
history of each epoch, newest first, and `retired` are the generations whose retirement
has a verified receipt. -/
structure OffsiteLedger where
  generations : List OffsiteGeneration
  qualified : List String
  lastGood : List (Int × String)
  retired : List String

inductive OffsiteEvent where
  | appendGeneration (row : OffsiteGeneration)
  | appendProof (generationID : String)
  | advanceLastGood (epoch : Int) (generationID : String)
  | settleVerified (generationID : String)

def OffsiteLedger.record (ledger : OffsiteLedger) : OffsiteEvent → OffsiteLedger
  | .appendGeneration row =>
    if ledger.generations.any fun old => old.generationID == row.generationID ||
      old.sourcePointID == row.sourcePointID && old.recoveryEpoch == row.recoveryEpoch then ledger
    else { ledger with generations := row :: ledger.generations }
  | .appendProof generationID => { ledger with qualified := generationID :: ledger.qualified }
  | .advanceLastGood epoch generationID => { ledger with lastGood := (epoch, generationID) :: ledger.lastGood }
  | .settleVerified generationID => { ledger with retired := generationID :: ledger.retired }

def ledgerAfter (history : List OffsiteEvent) : OffsiteLedger := history.foldl OffsiteLedger.record ⟨[], [], [], []⟩

/-- What the gate evidence, the profile and the provider's rules give; `admitted` stands
for the evidence and the digests. -/
structure OffsiteObservation where
  rules : List RetentionRuleRef
  ruleCount : Nat
  availableBytes : Int
  observedAt : Instant
  admitted : Bool

structure OffsiteRetirementCatalog where
  generations : List OffsiteGeneration
  currentRules : List RetentionRuleRef
  (verifiedPointIDs lastGoodPointIDs dependencyPointIDs activePromisePointIDs : List String)
  ruleLimit : Nat
  (totalBytes availableBytes expectedGrowthBytes : Int)
  observedAt : Instant
  admitted : Bool

abbrev createdBefore (first second : OffsiteGeneration) : Prop :=
  first.createdAt < second.createdAt ∨ first.createdAt = second.createdAt ∧ first.generationID ≤ second.generationID

def currentCatalogGenerations (ledger : OffsiteLedger) (epoch : Int) : List OffsiteGeneration :=
  (ledger.generations.filter fun row => row.recoveryEpoch == epoch).insertionSort createdBefore

def currentOffsiteRetirementCatalog (ledger : OffsiteLedger) (observed : OffsiteObservation) (epoch : Int) :
    Except String OffsiteRetirementCatalog := do
  ensure (observed.admitted && observed.rules.length == observed.ruleCount) "qualified complete R2 rule catalog unavailable"
  let records := currentCatalogGenerations ledger epoch
  ensure (decide (2 ≤ records.length)) "durable offsite generation catalog unavailable"
  let points := fun (held : String → Bool) => (records.filter (held ·.generationID)).map (·.sourcePointID)
  return {
    generations := records
    currentRules := observed.rules
    verifiedPointIDs := points ledger.qualified.contains
    lastGoodPointIDs := points fun id => (ledger.lastGood.find? (·.1 == epoch)).any (·.2 == id)
    dependencyPointIDs := []
    activePromisePointIDs := []
    ruleLimit := 1000
    totalBytes := (records.map (·.objectBytes)).sum + max observed.availableBytes 0
    availableBytes := observed.availableBytes
    expectedGrowthBytes := 0
    observedAt := observed.observedAt
    admitted := observed.admitted }

structure OffsiteRetirementCandidate where
  (generationID pointID : String)
  survivorPointIDs : List String
  recoveryEpoch : Int
  deriving DecidableEq

section Select

variable (catalog : OffsiteRetirementCatalog) (targets : List String) (epoch : Int) (now : Instant)

/-- Fourteen days. -/
def offsiteRetentionWindow : Int := 14 * 24 * 3600 * 1000000000

def stringSet (values : List String) : List String := values.filter (· != "")

def verifiedOffsite (row : OffsiteGeneration) : Bool := (stringSet catalog.verifiedPointIDs).contains row.sourcePointID

def offsiteEligible (newestVerified : Instant) (row : OffsiteGeneration) : Bool :=
  (stringSet targets).contains row.sourcePointID && !(stringSet catalog.lastGoodPointIDs).contains row.sourcePointID &&
    !(stringSet catalog.dependencyPointIDs).contains row.sourcePointID &&
    !(stringSet catalog.activePromisePointIDs).contains row.sourcePointID &&
    decide (row.createdAt ≤ newestVerified - offsiteRetentionWindow)

/-- The observed rules are well formed and hold every rule of the generation. -/
def subtractable (owned : List RetentionRuleRef) : Bool :=
  catalog.currentRules.all (fun rule => rule.ruleID != "" && rule.path != "" &&
      owned.all fun target => target.ruleID != rule.ruleID || target.path == rule.path) &&
    decide (catalog.currentRules.map (·.ruleID)).Nodup &&
    owned.all fun target => catalog.currentRules.any (·.ruleID == target.ruleID)

def selectOffsiteRetirement : Except String OffsiteRetirementCandidate := do
  let blocked := "offsite retirement prerequisite blocked"
  ensure (catalog.admitted && decide (catalog.observedAt ≤ now ∧ 0 < catalog.ruleLimit ∧ catalog.ruleLimit ≤ 1000 ∧
    catalog.currentRules.length ≤ catalog.ruleLimit ∧ 0 < catalog.totalBytes ∧ 0 ≤ catalog.availableBytes ∧
    catalog.availableBytes ≤ catalog.totalBytes ∧ 0 ≤ epoch)) blocked
  ensure (!(stringSet catalog.lastGoodPointIDs).isEmpty && decide (2 ≤ catalog.generations.length)) blocked
  let generations := catalog.generations.insertionSort fun first second => first.generationID ≤ second.generationID
  ensure (generations.all fun row => decide (row.createdAt ≤ catalog.observedAt)) blocked
  let newestVerified ← require ((generations.filter (verifiedOffsite catalog)).map (·.createdAt)).max? blocked
  ensure (generations.all fun row => row.valid && row.recoveryEpoch == epoch && verifiedOffsite catalog row) blocked
  let eligible := offsiteEligible catalog targets newestVerified
  let _ ← (generations.filter (!eligible ·)).foldlM (fun retained row => do
    ensure (decide (row.objectBytes ≤ catalog.totalBytes - retained)) blocked
    return retained + row.objectBytes) (0 : Int)
  let chosen ← require ((generations.filter eligible).insertionSort createdBefore).head? blocked
  let survivors := generations.filter fun row => row.generationID != chosen.generationID
  let retained := (survivors.map (·.objectBytes)).sum
  ensure (!survivors.isEmpty && chosen.protectedRules.length == 5 &&
    decide (chosen.issuanceStoppedAt ≤ now) && chosen.sessionExpiries.all (decide <| · ≤ now)) blocked
  -- what remains and is expected to grow keeps 30% headroom
  ensure (decide (0 ≤ retained + catalog.expectedGrowthBytes ∧
    retained + catalog.expectedGrowthBytes ≤ catalog.totalBytes * 7 / 10)) blocked
  ensure (subtractable catalog chosen.protectedRules) blocked
  return ⟨chosen.generationID, chosen.sourcePointID, (survivors.map (·.sourcePointID)).insertionSort (· ≤ ·), chosen.recoveryEpoch⟩

end Select

/-- The part of `derive` that finds the candidate. -/
def offsiteCandidate (ledger : OffsiteLedger) (observed : OffsiteObservation) (targets : List String) (epoch : Int)
    (now : Instant) : Except String OffsiteRetirementCandidate := do
  let catalog ← currentOffsiteRetirementCatalog ledger observed epoch
  selectOffsiteRetirement catalog targets epoch now

structure OffsiteSurvivorSettlement where
  (pointID generationID ruleDigest inventoryDigest fullReadDigest restoreDigest : String)
  recoveryEpoch : Int

structure OffsiteSurvivorProof extends OffsiteSurvivorSettlement where
  (fullReadAt restoredAt observedAt : Instant)

section Verify

variable (intent : OffsiteRetirementCandidate) (expected : String → Option OffsiteSurvivorSettlement)
  (verifier : String → Option OffsiteSurvivorProof) (now : Instant)

/-- A proof made after the deletions, of the generation the catalog expects. -/
def provesSurvivor (id : String) (known : OffsiteSurvivorSettlement) (proof : OffsiteSurvivorProof) : Bool :=
  proof.pointID == id && proof.generationID != intent.generationID && proof.recoveryEpoch == intent.recoveryEpoch &&
    decide (proof.fullReadAt ≤ proof.observedAt ∧ proof.restoredAt ≤ proof.observedAt ∧ now ≤ proof.fullReadAt ∧
      now ≤ proof.restoredAt ∧ now ≤ proof.observedAt) &&
    known.pointID == id && known.generationID == proof.generationID && known.recoveryEpoch == proof.recoveryEpoch &&
    known.ruleDigest == proof.ruleDigest && known.inventoryDigest == proof.inventoryDigest &&
    proof.fullReadDigest != known.fullReadDigest && proof.restoreDigest != known.restoreDigest

def verifySurvivors : List String → List String → Except String (List OffsiteSurvivorProof)
  | _, [] => .ok []
  | seen, id :: rest => do
    ensure (!seen.contains id) "duplicate survivor"
    let known ← require (expected id) "offsite survivor catalog failed"
    let proof ← require (verifier id) "offsite survivor proof failed"
    ensure (provesSurvivor intent now id known proof) "offsite survivor proof failed"
    return proof :: (← verifySurvivors (id :: seen) rest)

/-- `settled` stands for the comparison of the observed effects with the intent. -/
def verifyOffsiteRetirement (settled : Bool) (lastGood : Option String) : Except String (List OffsiteSurvivorProof) := do
  ensure (settled && !intent.survivorPointIDs.isEmpty) "offsite retirement effect is not settled"
  let lastGood ← require lastGood "offsite last-good catalog unavailable"
  let proofs ← verifySurvivors intent expected verifier now [] intent.survivorPointIDs
  ensure (intent.survivorPointIDs.contains lastGood) "current offsite last-good is not a survivor"
  return proofs

variable {intent expected verifier now}

theorem verifySurvivors_reads {seen ids : List String} {proofs : List OffsiteSurvivorProof}
    (done : verifySurvivors intent expected verifier now seen ids = .ok proofs) :
    ∀ id ∈ ids, ∃ proof ∈ proofs, proof.pointID = id ∧ now ≤ proof.fullReadAt := by
  induction ids generalizing seen proofs with
  | nil =>
    intro id member
    cases member
  | cons first rest ih =>
    simp only [verifySurvivors, peel] at done
    obtain ⟨_, _, known, _, proof, _, _, proves, proofs, others, rfl⟩ := done
    intro id member
    rcases List.mem_cons.mp member with rfl | later
    · simp only [provesSurvivor, checks] at proves
      exact ⟨proof, .head _, by tauto, by tauto⟩
    · obtain ⟨read, present, facts⟩ := ih others id later
      exact ⟨read, .tail _ present, facts⟩

end Verify

section Retired

variable {observed : OffsiteObservation} {catalog : OffsiteRetirementCatalog} {epoch : Int} {now : Instant}
  {targets : List String} {candidate : OffsiteRetirementCandidate} {row : OffsiteGeneration}

/-- The catalog lists every generation of the epoch, with or without a receipt. -/
theorem currentOffsiteRetirementCatalog_lists {ledger : OffsiteLedger}
    (listed : currentOffsiteRetirementCatalog ledger observed epoch = .ok catalog) :
    row ∈ catalog.generations ↔ row ∈ ledger.generations ∧ row.recoveryEpoch = epoch := by
  simp only [currentOffsiteRetirementCatalog, peel] at listed
  obtain ⟨_, _, _, _, rfl⟩ := listed
  simp [currentCatalogGenerations]

theorem selectOffsiteRetirement_chosen (selected : selectOffsiteRetirement catalog targets epoch now = .ok candidate) :
    ∃ chosen : OffsiteGeneration, candidate = ⟨chosen.generationID, chosen.sourcePointID,
      (((catalog.generations.insertionSort fun first second => first.generationID ≤ second.generationID).filter
        fun row => row.generationID != chosen.generationID).map (·.sourcePointID)).insertionSort (· ≤ ·),
      chosen.recoveryEpoch⟩ := by
  simp only [selectOffsiteRetirement, peel] at selected
  grind

/-- A generation that is not chosen survives. -/
theorem selectOffsiteRetirement_covers (selected : selectOffsiteRetirement catalog targets epoch now = .ok candidate)
    (member : row ∈ catalog.generations) :
    row.generationID = candidate.generationID ∨ row.sourcePointID ∈ candidate.survivorPointIDs := by
  obtain ⟨chosen, rfl⟩ := selectOffsiteRetirement_chosen selected
  by_cases same : row.generationID = chosen.generationID
  · exact .inl same
  · right
    simp only [List.mem_insertionSort, List.mem_map, List.mem_filter, checks]
    exact ⟨row, ⟨member, same⟩, rfl⟩

/-- A selection leaves retired generations alone only where the epoch has none. Each one
it lists as a survivor must be read again before the retirement is settled. -/
theorem retired_generation_spared_iff (history : List OffsiteEvent)
    (derived : offsiteCandidate (ledgerAfter history) observed targets epoch now = .ok candidate) :
    ((∀ row ∈ (ledgerAfter history).generations, row.recoveryEpoch = epoch → row.generationID ∈ (ledgerAfter history).retired →
        row.generationID ≠ candidate.generationID ∧ row.sourcePointID ∉ candidate.survivorPointIDs) ↔
      ∀ row ∈ (ledgerAfter history).generations, row.recoveryEpoch = epoch →
        row.generationID ∉ (ledgerAfter history).retired) ∧
    ∀ expected verifier start settled lastGood proofs,
      verifyOffsiteRetirement candidate expected verifier start settled lastGood = .ok proofs →
      ∀ pointID ∈ candidate.survivorPointIDs, ∃ proof ∈ proofs, proof.pointID = pointID ∧ start ≤ proof.fullReadAt := by
  obtain ⟨catalog, listed, selected⟩ := bind_eq_ok.mp derived
  refine ⟨⟨?_, ?_⟩, ?_⟩
  · intro spared row member current retired
    have untouched := spared row member current retired
    have inside := (currentOffsiteRetirementCatalog_lists listed).mpr ⟨member, current⟩
    rcases selectOffsiteRetirement_covers selected inside with chosen | survives
    · exact untouched.1 chosen
    · exact untouched.2 survives
  · intro none row member current retired
    exact absurd retired (none row member current)
  · intro expected verifier start settled lastGood proofs done
    simp only [verifyOffsiteRetirement, peel] at done
    obtain ⟨_, _, _, _, _, verified, _, _, rfl⟩ := done
    exact verifySurvivors_reads verified

def rulesOf (name : String) : List RetentionRuleRef :=
  ["config", "keys", "data", "index", "snapshots"].map fun part => ⟨name ++ part, name ++ "/" ++ part⟩

def generationOf (name : String) (createdAt : Instant) : OffsiteGeneration :=
  ⟨name, "point-" ++ name, rulesOf name, 10, createdAt, [createdAt], 0, createdAt, true⟩

/-- Three generations, the last of them last good. -/
def offsiteHistory : List OffsiteEvent :=
  [.appendGeneration (generationOf "a" 1), .appendProof "a", .appendGeneration (generationOf "b" 2), .appendProof "b",
    .appendGeneration (generationOf "c" (2 * offsiteRetentionWindow)), .appendProof "c", .advanceLastGood 0 "c"]

def observedWith (names : List String) : OffsiteObservation :=
  ⟨names.flatMap rulesOf, 5 * names.length, 1000, 3 * offsiteRetentionWindow, true⟩

/-- Generation a has been retired and its rules and objects are gone. The retirement of b
names its point as a survivor. -/
theorem deleted_generation_survives :
    offsiteCandidate (ledgerAfter (offsiteHistory ++ [.settleVerified "a"])) (observedWith ["b", "c"]) ["point-b"] 0
      (3 * offsiteRetentionWindow) = .ok ⟨"b", "point-b", ["point-a", "point-c"], 0⟩ := by
  decide +kernel

theorem first_retirement_spares :
    offsiteCandidate (ledgerAfter offsiteHistory) (observedWith ["a", "b", "c"]) ["point-a"] 0 (3 * offsiteRetentionWindow) =
      .ok ⟨"a", "point-a", ["point-b", "point-c"], 0⟩ ∧
    ∀ row ∈ (ledgerAfter offsiteHistory).generations, row.recoveryEpoch = 0 →
      row.generationID ∈ (ledgerAfter offsiteHistory).retired →
        row.generationID ≠ "a" ∧ row.sourcePointID ∉ ["point-b", "point-c"] := by
  have chosen : offsiteCandidate (ledgerAfter offsiteHistory) (observedWith ["a", "b", "c"]) ["point-a"] 0
    (3 * offsiteRetentionWindow) = .ok ⟨"a", "point-a", ["point-b", "point-c"], 0⟩ := by decide +kernel
  exact ⟨chosen, (retired_generation_spared_iff _ chosen).1.mpr (by decide +kernel)⟩

end Retired

end VskLabs.Backup

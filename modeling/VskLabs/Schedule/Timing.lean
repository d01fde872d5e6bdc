import Mathlib.Algebra.Order.Ring.Int
import Mathlib.Tactic.Ring
import VskLabs.Schedule.Finality

/-! Slots, backoffs and retries, in the `int64` nanoseconds they are computed in. -/

namespace VskLabs.Schedule
open Library

theorem wrap64_of_small {value : Int} (positive : 0 ≤ value) (small : value < 2 ^ 63) : wrap64 value = value := by
  have same : value % ((2 ^ 64 : Nat) : Int) = value := Int.emod_eq_of_lt positive (by omega)
  simp only [wrap64, Int.bmod, same]
  split
  · rfl
  · omega

theorem wrap64_lt (value : Int) : wrap64 value < 2 ^ 63 := by
  have below := @Int.bmod_lt value (2 ^ 64) (by decide)
  unfold wrap64
  omega

variable {policy : ScheduledJobPolicy}

theorem canonicalPolicy_window (canonical : canonicalPolicy policy = true) :
    1 ≤ policy.intervalSeconds ∧ policy.intervalSeconds ≤ 604800 ∧ 1800 ≤ policy.windowSeconds ∧
      policy.windowSeconds ≤ policy.intervalSeconds := by
  simp only [canonicalPolicy, ScheduledJobPolicy.exactContract, checks, and_assoc] at canonical
  obtain ⟨_, _, bounds, _, interval, window, _, _, _, _, fits, _⟩ := canonical
  exact ⟨(bounds policy.intervalSeconds (by simp)).1, interval, window, fits⟩

theorem canonicalPolicy_backoffs (canonical : canonicalPolicy policy = true) :
    1 ≤ policy.initialBackoffSeconds ∧ policy.initialBackoffSeconds ≤ policy.maximumBackoffSeconds := by
  simp only [canonicalPolicy, ScheduledJobPolicy.exactContract, checks, and_assoc] at canonical
  obtain ⟨_, _, bounds, _, _, _, _, _, _, _, _, ordered, _⟩ := canonical
  exact ⟨(bounds policy.initialBackoffSeconds (by simp)).1, ordered⟩

/-! ### Slots of one policy -/

theorem durationOfSeconds_small {count : Int} (positive : 0 ≤ count) (small : count ≤ 604800) :
    durationOfSeconds count = count * nanoseconds := by
  unfold durationOfSeconds
  apply wrap64_of_small
  · unfold nanoseconds
    omega
  · unfold nanoseconds
    omega

/-- The distance of two slots. -/
def ScheduledJobPolicy.period (policy : ScheduledJobPolicy) : Int := policy.intervalSeconds * nanoseconds

def ScheduledJobPolicy.slotAt (policy : ScheduledJobPolicy) (anchor : Time) (index : Int) : Slot :=
  ⟨ofSecond anchor + index * policy.period, ofSecond anchor + index * policy.period + policy.windowSeconds * nanoseconds⟩

/-- The slot `Due` counts to: the elapsed time stops at the largest `Duration`. -/
def ScheduledJobPolicy.slotIndex (policy : ScheduledJobPolicy) (anchor observedAt : Time) : Int :=
  min (2 ^ 63 - 1) (ofSecond observedAt - ofSecond anchor) / policy.period

theorem period_pos (canonical : canonicalPolicy policy = true) : 0 < policy.period :=
  Int.mul_pos (canonicalPolicy_window canonical).1 (by decide)

variable {anchor observedAt : Time} {slot : Slot}

theorem slotIndex_nonneg (canonical : canonicalPolicy policy = true) (reached : anchor ≤ observedAt) :
    0 ≤ policy.slotIndex anchor observedAt := by
  apply Int.ediv_nonneg _ (Int.le_of_lt (period_pos canonical))
  simp only [ofSecond, nanoseconds]
  lia

theorem slotIndex_mul_le (canonical : canonicalPolicy policy = true) (anchor observedAt : Time) :
    policy.slotIndex anchor observedAt * policy.period ≤
    min (2 ^ 63 - 1) (ofSecond observedAt - ofSecond anchor) :=
  Int.ediv_mul_le _ (Int.ne_of_gt (period_pos canonical))

theorem due_eq (canonical : canonicalPolicy policy = true) (anchored : policy.anchorAt = some anchor)
    (reached : anchor ≤ observedAt) : due policy observedAt =
      if (policy.slotAt anchor (policy.slotIndex anchor observedAt)).windowClosesAt ≤ ofSecond observedAt ∧
        policy.catchUp = .none then .windowMissed (policy.slotAt anchor (policy.slotIndex anchor observedAt))
      else .slot (policy.slotAt anchor (policy.slotIndex anchor observedAt)) := by
  obtain ⟨positive, bounded, window, fits⟩ := canonicalPolicy_window canonical
  have interval : durationOfSeconds policy.intervalSeconds = policy.period :=
    durationOfSeconds_small (Int.le_of_lt positive) bounded
  have length : durationOfSeconds policy.windowSeconds = policy.windowSeconds * nanoseconds :=
    durationOfSeconds_small (by omega) (Int.le_trans fits bounded)
  have started : ¬ (decide (policy.intervalSeconds ≤ 0) || decide (policy.windowSeconds ≤ 0)) = true := by
    simp only [Bool.or_eq_true, decide_eq_true_eq]
    omega
  have span : elapsed (ofSecond observedAt) (ofSecond anchor) = min (2 ^ 63 - 1) (ofSecond observedAt - ofSecond anchor) ∧
      0 ≤ min (2 ^ 63 - 1) (ofSecond observedAt - ofSecond anchor) := by
    simp only [elapsed, ofSecond, nanoseconds]
    lia
  have index : (elapsed (ofSecond observedAt) (ofSecond anchor)).tdiv policy.period = policy.slotIndex anchor observedAt := by
    rw [span.1, Int.tdiv_eq_ediv_of_nonneg span.2]
    rfl
  have whole : wrap64 (policy.slotIndex anchor observedAt * policy.period) = policy.slotIndex anchor observedAt * policy.period := by
    apply wrap64_of_small (Int.mul_nonneg (slotIndex_nonneg canonical reached) (Int.le_of_lt (period_pos canonical)))
    have inside := slotIndex_mul_le canonical anchor observedAt
    omega
  simp only [due, anchored, if_neg started, if_neg (Int.not_lt.mpr reached), interval, length, index, whole,
    Bool.and_eq_true, decide_eq_true_eq, beq_iff_eq]
  rfl

/-- The slot `Due` finds, open or missed. -/
def Falls (policy : ScheduledJobPolicy) (observedAt : Time) (slot : Slot) : Prop :=
  due policy observedAt = .slot slot ∨ due policy observedAt = .windowMissed slot

theorem falls_iff (canonical : canonicalPolicy policy = true) (anchored : policy.anchorAt = some anchor)
    (reached : anchor ≤ observedAt) :
    Falls policy observedAt slot ↔ slot = policy.slotAt anchor (policy.slotIndex anchor observedAt) := by
  rw [Falls, due_eq canonical anchored reached]
  split
  · simp [eq_comm]
  · simp [eq_comm]

theorem Falls.reached (falls : Falls policy observedAt slot) : ∃ anchor, policy.anchorAt = some anchor ∧ anchor ≤ observedAt := by
  simp only [Falls, due] at falls
  split at falls
  · simp at falls
  next anchor anchored =>
    split at falls
    · simp at falls
    split at falls
    · simp at falls
    next reached => exact ⟨anchor, anchored, Int.not_lt.mp reached⟩

theorem Falls.past (falls : Falls policy observedAt slot) (canonical : canonicalPolicy policy = true) :
    slot.scheduledAt ≤ ofSecond observedAt := by
  obtain ⟨anchor, anchored, reached⟩ := falls.reached
  have inside := slotIndex_mul_le canonical anchor observedAt
  rw [(falls_iff canonical anchored reached).mp falls]
  simp only [ScheduledJobPolicy.slotAt]
  lia

theorem slotAt_apart (canonical : canonicalPolicy policy = true) {early late : Int} (before : early < late) :
    (policy.slotAt anchor early).windowClosesAt ≤ (policy.slotAt anchor late).scheduledAt := by
  obtain ⟨positive, _, _, fits⟩ := canonicalPolicy_window canonical
  have shorter : policy.windowSeconds * nanoseconds ≤ policy.period := Int.mul_le_mul_of_nonneg_right fits (by decide)
  have gap : (early + 1) * policy.period ≤ late * policy.period :=
    Int.mul_le_mul_of_nonneg_right before (Int.le_of_lt (period_pos canonical))
  rw [Int.add_mul] at gap
  simp only [ScheduledJobPolicy.slotAt]
  lia

theorem Falls.apart {early late : Time} {first second : Slot} (falls : Falls policy early first)
    (also : Falls policy late second) (canonical : canonicalPolicy policy = true) :
    first.scheduledAt = second.scheduledAt ∨ first.windowClosesAt ≤ second.scheduledAt ∨
      second.windowClosesAt ≤ first.scheduledAt := by
  obtain ⟨anchor, anchored, reached⟩ := falls.reached
  obtain ⟨same, again, alsoReached⟩ := also.reached
  obtain rfl : anchor = same := Option.some.inj (anchored.symm.trans again)
  rw [(falls_iff canonical anchored reached).mp falls, (falls_iff canonical anchored alsoReached).mp also]
  rcases Int.lt_trichotomy (policy.slotIndex anchor early) (policy.slotIndex anchor late) with before | equal | after
  · exact .inr (.inl (slotAt_apart canonical before))
  · exact .inl (by rw [equal])
  · exact .inr (.inr (slotAt_apart canonical after))

/-- A time in its slot. -/
structure InSlot (policy : ScheduledJobPolicy) (anchor : Time) (instant : Instant) (slot : Slot) (index : Int) : Prop where
  found : Falls policy instant.second slot
  counted : 0 ≤ index
  scheduled : slot.scheduledAt = ofSecond anchor + index * (policy.intervalSeconds * nanoseconds)
  closes : slot.windowClosesAt = slot.scheduledAt + policy.windowSeconds * nanoseconds
  started : slot.scheduledAt ≤ instant
  current : instant < slot.scheduledAt + policy.intervalSeconds * nanoseconds
  missed : due policy instant.second = .windowMissed slot ↔ slot.windowClosesAt ≤ instant ∧ policy.catchUp = .none

/-- Two times, their slots and the windows of these. -/
def Slotted (policy : ScheduledJobPolicy) (anchor : Time) (early late : Instant) : Prop :=
  ∃ first second i j, InSlot policy anchor early first i ∧ InSlot policy anchor late second j ∧ i ≤ j ∧
    (i = j ↔ first.scheduledAt = second.scheduledAt) ∧ (i ≠ j → first.windowClosesAt ≤ second.scheduledAt)

/-- The end of the last slot that a `Duration` since the anchor reaches. -/
def ScheduledJobPolicy.horizon (policy : ScheduledJobPolicy) (anchor : Time) : Instant :=
  ofSecond anchor + ((2 ^ 63 - 1) / (policy.intervalSeconds * nanoseconds) + 1) * (policy.intervalSeconds * nanoseconds)

variable {instant : Instant}

theorem ofSecond_le_second (instant : Instant) (time : Time) : ofSecond time ≤ ofSecond instant.second ↔ ofSecond time ≤ instant := by
  simp only [ofSecond, Instant.second, nanoseconds]
  lia

theorem seen_second (reached : ofSecond anchor ≤ instant) : anchor ≤ instant.second := by
  simp only [ofSecond, Instant.second, nanoseconds] at reached ⊢
  lia

theorem slotIndex_current (canonical : canonicalPolicy policy = true)
    (within : instant < policy.horizon anchor) :
    instant < ofSecond anchor + (policy.slotIndex anchor instant.second + 1) * policy.period := by
  have positive := (canonicalPolicy_window canonical).1
  by_cases saturated : 2 ^ 63 - 1 ≤ ofSecond instant.second - ofSecond anchor
  · rw [ScheduledJobPolicy.slotIndex, min_eq_left saturated]
    exact within
  · -- both sides are whole seconds, so the fraction of the reading fits in
    have index : policy.slotIndex anchor instant.second = (instant.second - anchor) / policy.intervalSeconds := by
      rw [ScheduledJobPolicy.slotIndex, min_eq_right (by lia), ofSecond, ofSecond, ← Int.sub_mul, ScheduledJobPolicy.period]
      exact Int.mul_ediv_mul_of_pos_left _ _ (by decide)
    have next := Int.lt_ediv_add_one_mul_self (instant.second - anchor) positive
    rw [index, ScheduledJobPolicy.period, ← Int.mul_assoc]
    generalize ((instant.second - anchor) / policy.intervalSeconds + 1) * policy.intervalSeconds = whole at next
    simp only [ofSecond, Instant.second, nanoseconds] at next ⊢
    lia

theorem inSlot (canonical : canonicalPolicy policy = true) (anchored : policy.anchorAt = some anchor)
    (reached : ofSecond anchor ≤ instant) (within : instant < policy.horizon anchor) :
    InSlot policy anchor instant (policy.slotAt anchor (policy.slotIndex anchor instant.second))
      (policy.slotIndex anchor instant.second) := by
  have seen := seen_second reached
  have falls := (falls_iff canonical anchored seen).mpr rfl
  refine ⟨falls, slotIndex_nonneg canonical seen, rfl, rfl, ?_, ?_, ?_⟩
  · have past := falls.past canonical
    have fraction := (ofSecond_le_second instant instant.second).mp (Int.le_refl _)
    lia
  · have current := slotIndex_current canonical within
    rw [Int.add_mul, Int.one_mul] at current
    simp only [ScheduledJobPolicy.slotAt]
    unfold ScheduledJobPolicy.period at current ⊢
    lia
  · have closing : (policy.slotAt anchor (policy.slotIndex anchor instant.second)).windowClosesAt =
        ofSecond (anchor + policy.slotIndex anchor instant.second * policy.intervalSeconds + policy.windowSeconds) := by
      simp only [ScheduledJobPolicy.slotAt, ScheduledJobPolicy.period, ofSecond, Int.add_mul, Int.mul_assoc]
    rw [due_eq canonical anchored seen, closing, ← ofSecond_le_second instant]
    split <;> simp_all

/-- Slots are those of the calendar exactly up to the horizon of the anchor. -/
theorem slots_exact_iff (canonical : canonicalPolicy policy = true) (anchored : policy.anchorAt = some anchor)
    {early late : Instant} (reached : ofSecond anchor ≤ early) (ordered : early ≤ late) :
    Slotted policy anchor early late ↔ late < policy.horizon anchor := by
  have step := period_pos canonical
  constructor
  · rintro ⟨_, slot, _, index, _, inside, _⟩
    have seen := seen_second (Int.le_trans reached ordered)
    have current := inside.current
    rw [(falls_iff canonical anchored seen).mp inside.found] at current
    -- the index counts a time that has stopped at the largest duration
    have last : policy.slotIndex anchor late.second * policy.period ≤ (2 ^ 63 - 1) / policy.period * policy.period :=
      Int.mul_le_mul_of_nonneg_right (Int.ediv_le_ediv step (min_le_left _ _)) (Int.le_of_lt step)
    simp only [ScheduledJobPolicy.slotAt] at current
    unfold ScheduledJobPolicy.horizon
    rw [Int.add_mul, Int.one_mul]
    unfold ScheduledJobPolicy.period at current last
    lia
  · intro within
    have ascending : policy.slotIndex anchor early.second ≤ policy.slotIndex anchor late.second := by
      apply Int.ediv_le_ediv step
      simp only [ofSecond, Instant.second, nanoseconds]
      lia
    refine ⟨_, _, _, _, inSlot canonical anchored reached (Int.lt_of_le_of_lt ordered within),
      inSlot canonical anchored (Int.le_trans reached ordered) within, ascending, ?_, ?_⟩
    · constructor
      · intro same
        rw [same]
      · intro same
        exact Int.eq_of_mul_eq_mul_right (Int.ne_of_gt step) (Int.add_left_cancel same)
    · intro different
      exact slotAt_apart canonical (by omega)

/-- Anchored in the year 1700. -/
def agedPolicy : ScheduledJobPolicy := { samplePolicy with anchorAt := some 53615260800, expiresAt := some 70000000000 }

/-- On the first two days of 2026 the due slot is the same one of 1992. -/
theorem aged_policy_stands_still : canonicalPolicy agedPolicy = true ∧
    due agedPolicy 63902822400 = due agedPolicy 63902908800 ∧
    ¬ Slotted agedPolicy 53615260800 (ofSecond 63902822400) (ofSecond 63902908800) := by
  refine ⟨by decide, by decide, ?_⟩
  rintro ⟨_, slot, _, index, _, inside, _⟩
  have found : due agedPolicy 63902908800 = .windowMissed ⟨ofSecond 62838630000, ofSecond 62838631800⟩ := by decide
  have current := inside.current
  rcases inside.found with other | same
  · exact absurd (found.symm.trans other) nofun
  · cases found.symm.trans same
    exact absurd current (by decide)

theorem sample_slots_exact : canonicalPolicy samplePolicy = true ∧ ofSecond 3600 ≤ ofSecond 3700 ∧
    ofSecond 3700 ≤ ofSecond 7300 ∧ Slotted samplePolicy 3600 (ofSecond 3700) (ofSecond 7300) :=
  ⟨by decide, by decide, by decide, (slots_exact_iff (by decide) rfl (by decide) (by decide)).mpr (by decide)⟩

/-! ### Backoffs -/

/-- What the loop of `Backoff` is meant to reach. -/
def capped (maximum value : Int) (rounds : Nat) : Int := min (value * 2 ^ rounds) maximum

theorem le_doubling {value : Int} (positive : 0 ≤ value) (rounds : Nat) : value ≤ value * 2 ^ rounds :=
  le_mul_of_one_le_right positive (one_le_pow₀ (by decide))

theorem capped_succ {maximum value : Int} (positive : 0 < value) (bounded : value ≤ maximum) (rounds : Nat) :
    capped maximum value (rounds + 1) = capped maximum (min (value * 2) maximum) rounds := by
  have shifted : value * 2 ^ (rounds + 1) = value * 2 * 2 ^ rounds := by ring
  unfold capped
  rw [shifted]
  rcases Int.le_total (value * 2) maximum with below | above
  · rw [min_eq_left below]
  · have reached := le_doubling (by omega : 0 ≤ value * 2) rounds
    rw [min_eq_right above, min_eq_right (Int.le_trans above reached), min_eq_right (le_doubling (by omega) rounds)]

theorem capped_mono {maximum value : Int} (positive : 0 ≤ value) {few many : Nat} (fewer : few ≤ many) :
    capped maximum value few ≤ capped maximum value many :=
  min_le_min_right maximum (mul_le_mul_of_nonneg_left (pow_le_pow_right₀ (by decide) fewer) positive)

theorem le_capped {maximum value : Int} (positive : 0 ≤ value) (bounded : value ≤ maximum) (rounds : Nat) :
    value ≤ capped maximum value rounds :=
  le_min (le_doubling positive rounds) bounded

theorem doubled_eq_capped {maximum value : Int} {rounds : Nat} (positive : 0 < value) (bounded : value ≤ maximum)
    (small : capped maximum value rounds < 2 ^ 62) : doubled maximum rounds value = capped maximum value rounds := by
  induction rounds generalizing value with
  | zero => simp [doubled, capped, bounded]
  | succ rounds ih =>
    have value_small := le_capped (Int.le_of_lt positive) bounded (rounds + 1)
    by_cases below : value < maximum
    · have twice : wrap64 (value * 2) = value * 2 := wrap64_of_small (by omega) (by omega)
      have next : (if maximum < value * 2 then maximum else value * 2) = min (value * 2) maximum := by
        split <;> omega
      rw [capped_succ positive bounded] at small ⊢
      simp only [doubled, if_pos below, twice, next]
      exact ih (by omega) (by omega) small
    · have same : value = maximum := by omega
      have reached := le_doubling (Int.le_of_lt positive) (rounds + 1)
      rw [doubled, if_neg below, capped, min_eq_right (by rwa [same] at reached ⊢), same]

/-- The claimed value of `Backoff`, in seconds. -/
def ScheduledJobPolicy.backoffSeconds (policy : ScheduledJobPolicy) (attempt : Int) : Int :=
  capped policy.maximumBackoffSeconds policy.initialBackoffSeconds (attempt - 1).toNat

structure SoundBackoff (policy : ScheduledJobPolicy) (attempt : Int) : Prop where
  computed : backoff policy attempt = policy.backoffSeconds attempt * nanoseconds
  positive : 0 < backoff policy attempt
  bounded : backoff policy attempt ≤ policy.maximumBackoffSeconds * nanoseconds
  monotone : ∀ earlier ≤ attempt, backoff policy earlier ≤ backoff policy attempt
  -- every value of the loop can be doubled and converted
  fitting : ∀ earlier ≤ attempt,
    doubled policy.maximumBackoffSeconds (earlier - 1).toNat policy.initialBackoffSeconds * nanoseconds < 2 ^ 63 ∧
      doubled policy.maximumBackoffSeconds (earlier - 1).toNat policy.initialBackoffSeconds * 2 < 2 ^ 63

variable {attempt : Int}

theorem backoffSeconds_mono (canonical : canonicalPolicy policy = true) {earlier : Int} (before : earlier ≤ attempt) :
    policy.backoffSeconds earlier ≤ policy.backoffSeconds attempt := by
  have positive := (canonicalPolicy_backoffs canonical).1
  exact capped_mono (by omega) (by omega)

theorem doubled_eq (canonical : canonicalPolicy policy = true) (small : policy.backoffSeconds attempt * nanoseconds < 2 ^ 63) :
    doubled policy.maximumBackoffSeconds (attempt - 1).toNat policy.initialBackoffSeconds = policy.backoffSeconds attempt ∧
      0 < policy.backoffSeconds attempt := by
  obtain ⟨positive, bounded⟩ := canonicalPolicy_backoffs canonical
  have least : policy.initialBackoffSeconds ≤ policy.backoffSeconds attempt := le_capped (by omega) bounded _
  unfold nanoseconds at small
  exact ⟨doubled_eq_capped positive bounded (show policy.backoffSeconds attempt < 2 ^ 62 by omega), by omega⟩

theorem backoff_eq (canonical : canonicalPolicy policy = true) (small : policy.backoffSeconds attempt * nanoseconds < 2 ^ 63) :
    backoff policy attempt = policy.backoffSeconds attempt * nanoseconds := by
  obtain ⟨counted, positive⟩ := doubled_eq canonical small
  rw [backoff, counted]
  exact wrap64_of_small (by unfold nanoseconds; omega) small

/-- The backoff is the one that is meant exactly when that one is a `Duration`. -/
theorem backoff_sound_iff (canonical : canonicalPolicy policy = true) (attempt : Int) :
    SoundBackoff policy attempt ↔ policy.backoffSeconds attempt * nanoseconds < 2 ^ 63 := by
  constructor
  · intro sound
    rw [← sound.computed]
    exact wrap64_lt _
  · intro small
    have before : ∀ earlier ≤ attempt, policy.backoffSeconds earlier * nanoseconds ≤ policy.backoffSeconds attempt * nanoseconds :=
      fun earlier less => Int.mul_le_mul_of_nonneg_right (backoffSeconds_mono canonical less) (by decide)
    have positive := (doubled_eq canonical small).2
    have computed := backoff_eq canonical small
    have least : policy.backoffSeconds attempt ≤ policy.maximumBackoffSeconds := min_le_right _ _
    refine ⟨computed, ?_, ?_, ?_, ?_⟩
    · rw [computed]
      exact Int.mul_pos positive (by decide)
    · rw [computed]
      exact Int.mul_le_mul_of_nonneg_right least (by decide)
    · intro earlier less
      rw [computed, backoff_eq canonical (Int.lt_of_le_of_lt (before earlier less) small)]
      exact before earlier less
    · intro earlier less
      have value := Int.lt_of_le_of_lt (before earlier less) small
      rw [(doubled_eq canonical value).1]
      unfold nanoseconds at value ⊢
      omega

/-- A backoff of about three hundred years is negative from the first attempt on. -/
theorem first_backoff_negative :
    canonicalPolicy { samplePolicy with initialBackoffSeconds := 9223372037, maximumBackoffSeconds := 9223372037 } = true ∧
      backoff { samplePolicy with initialBackoffSeconds := 9223372037, maximumBackoffSeconds := 9223372037 } 1 < 0 ∧
      ¬ SoundBackoff { samplePolicy with initialBackoffSeconds := 9223372037, maximumBackoffSeconds := 9223372037 } 1 := by
  have negative : backoff { samplePolicy with initialBackoffSeconds := 9223372037, maximumBackoffSeconds := 9223372037 } 1 < 0 := by
    decide
  exact ⟨by decide, negative, fun sound => absurd sound.positive (Int.not_lt.mpr (Int.le_of_lt negative))⟩

theorem sample_backoff_sound : canonicalPolicy samplePolicy = true ∧ SoundBackoff samplePolicy 5 :=
  ⟨by decide, (backoff_sound_iff (by decide) 5).mpr (by decide)⟩

/-! ### Retries -/

/-- When an attempt is decided and what its occurrence allows. -/
structure RetryTiming where
  policy : ScheduledJobPolicy
  attempt : Int
  (recordedAt now scheduledAt windowClosesAt : Time)

/-- From now on there is a time for the next attempt: the backoff since the
recorded attempt is over, the window is open and `CreateScheduled` accepts. -/
def RetryTiming.Possible (timing : RetryTiming) : Prop :=
  ∃ reading : Instant, ofSecond timing.now ≤ reading ∧
    ofSecond timing.recordedAt + backoff timing.policy timing.attempt ≤ reading ∧
    ofSecond timing.scheduledAt ≤ reading ∧ reading < ofSecond timing.windowClosesAt ∧
    planWindowAdmits timing.scheduledAt timing.windowClosesAt reading = true

/-- A whole plan still fits after the backoff. -/
def RetryTiming.Roomy (timing : RetryTiming) : Prop :=
  timing.now + planValiditySeconds ≤ timing.windowClosesAt ∧
    timing.scheduledAt + planValiditySeconds ≤ timing.windowClosesAt ∧
    ofSecond timing.recordedAt + backoff timing.policy timing.attempt <
      ofSecond (timing.windowClosesAt - planValiditySeconds + 1)

theorem RetryTiming.possible_iff (timing : RetryTiming) : timing.Possible ↔ timing.Roomy := by
  simp only [Possible, Roomy, planWindowAdmits, checks, Bool.or_eq_false_iff, decide_eq_false_iff_not]
  generalize backoff timing.policy timing.attempt = wait
  simp only [ofSecond, Instant.second, nanoseconds, planValiditySeconds]
  constructor
  · rintro ⟨reading, later, waited, started, opened, fits, fresh⟩
    lia
  · rintro ⟨soon, wide, waited⟩
    refine ⟨(timing.windowClosesAt - 1800) * 1000000000 + 999999999, ?_⟩
    lia

def Call.retries : Call → Prop
  | .transitionOccurrence request => request.target = .retryWait
  | _ => False

def policyRead : Event Call Reply → Option ScheduledJobPolicy
  | ⟨.getActivePolicy _, .ok policy⟩ => some policy
  | _ => none

def windowRead : Event Call Reply → Option Time
  | ⟨.windowClosesAt _, .ok windowClosesAt⟩ => some windowClosesAt
  | _ => none

def attemptRecorded : Event Call Reply → Option (Int × Time)
  | ⟨.appendAttempt request, _⟩ => some (request.attempt, request.recordedAt)
  | _ => none

/-- A granted retry is possible, by what has been read and noted. -/
def RetryTiming.Allows (timing : RetryTiming) (noted : List (Event Call Reply) → Prop) (past : List (Event Call Reply))
    (call : Call) : Prop :=
  call.retries → past.findSome? policyRead = some timing.policy →
    past.findSome? windowRead = some timing.windowClosesAt → noted past → timing.Possible

/-- `Run` decides at the time it has recorded for the attempt. -/
def RetryTiming.Recorded (timing : RetryTiming) (past : List (Event Call Reply)) : Prop :=
  past.findSome? attemptRecorded = some (timing.attempt, timing.now) ∧ timing.recordedAt = timing.now

abbrev RetryTiming.Heeds {α : Type} (timing : RetryTiming) (noted : List (Event Call Reply) → Prop) (routine : Routine α)
    (past : List (Event Call Reply)) : Prop :=
  routine.Obeys (fun _ _ => True) (timing.Allows noted) (fun _ _ => True) past

/-- Every retry granted with this timing is possible. -/
structure RetryTiming.Granted (timing : RetryTiming) : Prop where
  submitted : ∀ config job attribution, job.scheduledAt = some timing.scheduledAt →
    timing.Heeds timing.Recorded (run config job attribution) []
  recovered : ∀ job current, job.attempt = timing.attempt → job.scheduledAt = some timing.scheduledAt →
    timing.Heeds (fun _ => True) (settleRecovered job current timing.now) []

variable {timing : RetryTiming} {past : List (Event Call Reply)} {noted : List (Event Call Reply) → Prop}

section Runner

variable (possible : retryFits timing.policy timing.attempt timing.now timing.windowClosesAt = true → timing.Possible)

include possible

theorem settleSubmitted_heeds {attempt : Attempt} (policy : past.findSome? policyRead = some attempt.policy)
    (window : past.findSome? windowRead = some attempt.windowClosesAt)
    (recorded : past.findSome? attemptRecorded = some (attempt.job.attempt, attempt.now))
    (planID runID : String) (submitted : Except Failure Run) :
    timing.Heeds timing.Recorded (settleSubmitted attempt planID runID submitted) past := by
  cases submitted with
  | error failure => simp [settleSubmitted, transitionOccurrence, issue, forall_except, RetryTiming.Allows, Call.retries]
  | ok run =>
    simp [settleSubmitted, transitionOccurrence, issue, forall_except, RetryTiming.Allows, Call.retries, RetryTiming.Recorded,
      policy, window, recorded]
    intro _ _ _ _ fits samePolicy sameWindow sameAttempt sameTime _
    rw [samePolicy, sameWindow, sameAttempt, sameTime] at fits
    exact possible fits

omit possible in
theorem block_heeds (job : ScheduledJob) (reason : String) : timing.Heeds noted (block job reason) past := by
  simp [block, transitionOccurrence, issue, forall_except, RetryTiming.Allows, Call.retries]

theorem attemptOccurrence_heeds {config : ScheduleConfig} {attempt : Attempt}
    (policy : past.findSome? policyRead = some attempt.policy)
    (window : past.findSome? windowRead = some attempt.windowClosesAt) :
    timing.Heeds timing.Recorded (attemptOccurrence config attempt) past := by
  simp [attemptOccurrence, createScheduled, clock, issue, Program.ite_bind, transitionOccurrence, block_heeds,
    RetryTiming.Allows, Call.retries, forall_except]
  intros
  exact ⟨fun _ => settleSubmitted_heeds possible (by exact policy) (by exact window) rfl _ _ _,
    fun _ => settleSubmitted_heeds possible (by exact policy) (by exact window) rfl _ _ _⟩

theorem beginAttempt_heeds {config : ScheduleConfig} {job : ScheduledJob} {policy : ScheduledJobPolicy}
    (read : past.findSome? policyRead = some policy) (attribution : Attribution) (now : Time) :
    timing.Heeds timing.Recorded (beginAttempt config job policy attribution now) past := by
  cases scheduled : job.scheduledAt with
  | none => simp [beginAttempt, scheduled, block_heeds]
  | some scheduledAt =>
    simp [beginAttempt, scheduled, acquireOccurrenceLease, clock, issue, Program.ite_bind, block_heeds, RetryTiming.Allows,
      Call.retries, forall_except]
    intros
    apply (attemptOccurrence_heeds possible (by exact read) rfl).bind
    exact fun _ _ _ => ⟨by rintro ⟨⟩, fun _ _ => trivial⟩

theorem run_heeds (config : ScheduleConfig) (job : ScheduledJob) (attribution : Attribution) :
    timing.Heeds timing.Recorded (run config job attribution) past := by
  simp [run, clock, issue, block_heeds, RetryTiming.Allows, Call.retries, forall_except, Option.forall]
  intros
  exact ⟨fun _ _ _ => beginAttempt_heeds possible rfl _ _, fun _ => beginAttempt_heeds possible rfl _ _⟩

end Runner

theorem settleRecovered_heeds {job : ScheduledJob} {current : Run} {now : Time} :
    timing.Heeds (fun _ => True) (settleRecovered job current now) past ↔
      (current.status ≠ .succeeded → [Status.failed, .interrupted, .cancelled].contains current.status = true →
        allNotStarted current = true → retryFits timing.policy job.attempt now timing.windowClosesAt = true →
          timing.Possible) := by
  simp [settleRecovered, issue, transitionOccurrence, RetryTiming.Allows, Call.retries, forall_except, policyRead, windowRead,
    List.findSome?_cons]
  constructor
  · intro heeds unfinished stopped untouched fits
    exact heeds unfinished stopped untouched _ _ fits rfl rfl
  · rintro possible unfinished stopped untouched _ _ fits rfl rfl
    exact possible unfinished stopped untouched fits

def occurrenceRun (runID : String) (status : Status) (effectState : EffectState) : Run :=
  ⟨runID, runID, "digest", "decision", none, "1.0.0", .central, "core", "", status, [⟨1, "operation", "schedule.gate.check",
    "core.schedule-observe", "core", "target", "", "", true, "step", status, effectState⟩], false, .notRequested, .pending, none,
    false, 1, 1, 3700, 3700, []⟩

/-- Retries are granted by the backoff alone, and possible when a whole plan
fits after it. -/
theorem granted_retry_possible_iff (timing : RetryTiming) : timing.Granted ↔
    (retryFits timing.policy timing.attempt timing.now timing.windowClosesAt = true → timing.Roomy) := by
  constructor
  · intro granted fits
    have heeds := granted.recovered ⟨"job", "policy", 1, some timing.scheduledAt, timing.attempt, none, none, .running, "", 1⟩
      (occurrenceRun "run" .failed .notStarted) rfl rfl
    exact timing.possible_iff.mp (settleRecovered_heeds.mp heeds nofun rfl rfl fits)
  · intro roomy
    have possible := fun fits => timing.possible_iff.mpr (roomy fits)
    exact ⟨fun config job attribution _ => run_heeds possible config job attribution,
      fun job current same _ => settleRecovered_heeds.mpr fun _ _ _ fits => possible (same ▸ fits)⟩

/-- A policy whose window is as long as a plan: even an attempt that fails as the
window opens is granted a retry, and no plan for it is accepted any more. -/
theorem granted_retry_impossible : canonicalPolicy samplePolicy = true ∧
    ¬ RetryTiming.Granted ⟨samplePolicy, 1, 3600, 3600, 3600, 5400⟩ := by
  refine ⟨by decide, fun granted => ?_⟩
  have heeds := granted.recovered ⟨"job", "policy", 1, some 3600, 1, none, none, .running, "", 1⟩
    (occurrenceRun "run" .failed .notStarted) rfl rfl
  have roomy := (RetryTiming.possible_iff _).mp (settleRecovered_heeds.mp heeds nofun rfl rfl (by decide))
  exact absurd roomy.2.2 (by decide)

end VskLabs.Schedule

/-
# A breaker and the reports it was given

SPEC_FULL.md, section 3 (Circuit-breaker state), its transitions.

Every report to a breaker is a success or a failure, and says when.  The breaker keeps
a flag, a counter that stops at its greatest value, and a few times; a reader wants to
know what they say of all reports so far.  `Breaker.Keeps` is that: the counter is at
the failures since the last success, as far as it counts; the flag is set exactly while
the counter has reached the threshold; and the times are those of the last failure and
of the last success.  One report preserves it (`Keeps.record`), so it holds after any
list of reports (`keeps_afterAll`).

Where the counter can reach the threshold, the flag is set exactly when the failures
themselves have reached it (`Keeps.isOpen_iff`), and whether a call may be made can be
read off the reports alone (`Keeps.isAvailable_eq`).  Failures in a row turn calls away
until the timeout has passed since the last of them (`isAvailable_afterAll`).

The threshold must be positive, or a breaker that should be open from the start is
closed.
-/

import Errand.Breaker
import Mathlib.Data.List.Induction

namespace Errand

/-- The outcome of a call, as it is reported to a breaker. -/
structure Report where
  succeeded : Bool
  time : Instant
deriving DecidableEq

namespace Report

/-- How many failures were reported since the last success, the oldest report standing
first. -/
def failures (rs : List Report) : Nat := (rs.reverse.takeWhile fun r => !r.succeeded).length

/-- When the last failure was reported. -/
def lastFailure? (rs : List Report) : Option Instant :=
  ((rs.filter fun r => !r.succeeded).getLast?).map (·.time)

/-- When the last success was reported. -/
def lastSuccess? (rs : List Report) : Option Instant :=
  ((rs.filter fun r => r.succeeded).getLast?).map (·.time)

/-- Whether reports leave room for a call at `now`: fewer failures than the threshold
since the last success, or more than the timeout passed since the last failure. -/
def leaveRoom (policy : BreakerPolicy) (now : Instant) (rs : List Report) : Bool :=
  failures rs < policy.failureThreshold ||
    (lastFailure? rs).any fun t => policy.openTimeout < now - t

/-- A failure more counts, and a success starts over. -/
@[simp] theorem failures_concat (rs : List Report) (r : Report) :
    failures (rs ++ [r]) = if r.succeeded then 0 else failures rs + 1 := by
  cases h : r.succeeded <;> simp [failures, h]

/-- The last failure is the last report if that is one. -/
@[simp] theorem lastFailure?_concat (rs : List Report) (r : Report) :
    lastFailure? (rs ++ [r]) = if r.succeeded then lastFailure? rs else some r.time := by
  cases h : r.succeeded <;> simp [lastFailure?, h]

/-- The last success is the last report if that is one. -/
@[simp] theorem lastSuccess?_concat (rs : List Report) (r : Report) :
    lastSuccess? (rs ++ [r]) = if r.succeeded then some r.time else lastSuccess? rs := by
  cases h : r.succeeded <;> simp [lastSuccess?, h]

/-- Where failures were counted, there was a last one. -/
theorem lastFailure?_isSome {rs : List Report} (h : 0 < failures rs) :
    ∃ t, lastFailure? rs = some t := by
  induction rs using List.reverseRecOn with
  | nil => simp [failures] at h
  | append_singleton rs r _ =>
    cases hr : r.succeeded with
    | true => simp [hr] at h
    | false => exact ⟨r.time, by simp [hr]⟩

end Report

namespace Breaker

/-- The breaker after a report. -/
def record (policy : BreakerPolicy) (b : Breaker) (r : Report) : Breaker :=
  if r.succeeded then b.recordSuccess r.time else b.recordFailure policy r.time

/-- The breaker after reports, the oldest first. -/
def afterAll (policy : BreakerPolicy) (b : Breaker) (rs : List Report) : Breaker :=
  rs.foldl (record policy) b

variable {policy : BreakerPolicy} {rs : List Report} {b : Breaker}

/-- A failure counts, as far as the counter goes. -/
theorem failureCount_recordFailure (policy : BreakerPolicy) (now : Instant) (b : Breaker) :
    (b.recordFailure policy now).failureCount = min (b.failureCount + 1) maxCount := rfl

/-- The flag of a breaker agrees with its count. -/
structure Agrees (policy : BreakerPolicy) (b : Breaker) : Prop where
  isOpen : b.isOpen = true ↔ policy.failureThreshold ≤ b.failureCount
  failureCount_le : b.failureCount ≤ maxCount

/-- A success clears both, so that they agree. -/
theorem Agrees.recordSuccess (hpos : 0 < policy.failureThreshold) (b : Breaker) (now : Instant) :
    Agrees policy (b.recordSuccess now) where
  isOpen := ⟨fun h => by simp [Breaker.recordSuccess] at h, fun h => absurd h (Nat.not_le.2 hpos)⟩
  failureCount_le := Nat.zero_le _

/-- The count does not fall at a failure, so a flag that was set stays right. -/
theorem Agrees.recordFailure (h : Agrees policy b) (now : Instant) :
    Agrees policy (b.recordFailure policy now) where
  isOpen := by
    have hset : (b.recordFailure policy now).isOpen = true ↔
        b.isOpen = true ∨ policy.failureThreshold ≤ min (b.failureCount + 1) maxCount := by
      simp [Breaker.recordFailure]
    have hle := h.failureCount_le
    rw [hset, h.isOpen, failureCount_recordFailure]
    omega
  failureCount_le := Nat.min_le_right _ _

/-- What a breaker keeps of the reports it was given. -/
structure Keeps (policy : BreakerPolicy) (rs : List Report) (b : Breaker) : Prop where
  failureCount : b.failureCount = min (Report.failures rs) maxCount
  isOpen : b.isOpen = true ↔ policy.failureThreshold ≤ b.failureCount
  lastFailure : b.lastFailure = Report.lastFailure? rs
  lastSuccess : b.lastSuccess = Report.lastSuccess? rs

/-- A new breaker has nothing to keep. -/
theorem keeps_nil (hpos : 0 < policy.failureThreshold) : Keeps policy [] {} where
  failureCount := rfl
  isOpen := ⟨fun h => by simp at h, fun h => absurd h (Nat.not_le.2 hpos)⟩
  lastFailure := rfl
  lastSuccess := rfl

/-- The flag of a breaker that keeps its reports agrees with its count. -/
theorem Keeps.agrees (h : Keeps policy rs b) : Agrees policy b where
  isOpen := h.isOpen
  failureCount_le := h.failureCount ▸ Nat.min_le_right _ _

/-- **A report preserves what a breaker keeps.** -/
theorem Keeps.record (hpos : 0 < policy.failureThreshold) (h : Keeps policy rs b) (r : Report) :
    Keeps policy (rs ++ [r]) (b.record policy r) := by
  rw [Breaker.record]
  cases hr : r.succeeded with
  | true =>
    rw [if_pos rfl]
    exact {
      failureCount := by simp [hr, Breaker.recordSuccess]
      isOpen := (Agrees.recordSuccess hpos b r.time).isOpen
      lastFailure := by simp [hr, Breaker.recordSuccess, h.lastFailure]
      lastSuccess := by simp [hr, Breaker.recordSuccess] }
  | false =>
    rw [if_neg Bool.false_ne_true]
    exact {
      failureCount := by
        rw [failureCount_recordFailure, h.failureCount, Report.failures_concat, hr,
          if_neg Bool.false_ne_true]
        omega
      isOpen := (h.agrees.recordFailure r.time).isOpen
      lastFailure := by simp [hr, Breaker.recordFailure]
      lastSuccess := by simp [hr, Breaker.recordFailure, h.lastSuccess] }

/-- The last report comes on top of all before it. -/
theorem afterAll_concat (b : Breaker) (r : Report) :
    afterAll policy b (rs ++ [r]) = (afterAll policy b rs).record policy r := by
  rw [afterAll, List.foldl_append]
  rfl

/-- **A breaker keeps this of all reports it was ever given.** -/
theorem keeps_afterAll (hpos : 0 < policy.failureThreshold) (rs : List Report) :
    Keeps policy rs (afterAll policy {} rs) := by
  induction rs using List.reverseRecOn with
  | nil => exact keeps_nil hpos
  | append_singleton rs r ih =>
    rw [afterAll_concat]
    exact ih.record hpos r

/-- **A breaker is open exactly if the failures since the last success have reached the
threshold,** as long as the counter can. -/
theorem Keeps.isOpen_iff (hmax : policy.failureThreshold ≤ maxCount) (h : Keeps policy rs b) :
    b.isOpen = true ↔ policy.failureThreshold ≤ Report.failures rs := by
  rw [h.isOpen, h.failureCount]
  omega

/-- **Whether a call may be made is settled by the reports.** -/
theorem Keeps.isAvailable_eq (hpos : 0 < policy.failureThreshold)
    (hmax : policy.failureThreshold ≤ maxCount) (h : Keeps policy rs b) (now : Instant) :
    b.isAvailable policy now = Report.leaveRoom policy now rs := by
  by_cases hopen : b.isOpen = true
  · have hle := (h.isOpen_iff hmax).1 hopen
    obtain ⟨t, ht⟩ := Report.lastFailure?_isSome (Nat.lt_of_lt_of_le hpos hle)
    simp [isAvailable, Report.leaveRoom, hopen, h.lastFailure, ht, Nat.not_lt.2 hle]
  · have hlt : Report.failures rs < policy.failureThreshold := by
      have := mt (h.isOpen_iff hmax).2 hopen
      omega
    simp [isAvailable, Report.leaveRoom, hopen, hlt]

/-! ### When a breaker turns calls away -/

/-- A breaker knows when the last failure was reported, whatever its threshold. -/
theorem lastFailure_afterAll (policy : BreakerPolicy) (rs : List Report) :
    (afterAll policy {} rs).lastFailure = Report.lastFailure? rs := by
  induction rs using List.reverseRecOn with
  | nil => rfl
  | append_singleton rs r ih =>
    rw [afterAll_concat, Report.lastFailure?_concat, record]
    by_cases hr : r.succeeded = true
    · rw [if_pos hr, if_pos hr]
      exact ih
    · rw [if_neg hr, if_neg hr]
      rfl

/-- **Failures in a row open a breaker,** once they have reached the threshold.  One is
enough where the threshold is zero. -/
theorem isOpen_afterAll (hmax : policy.failureThreshold ≤ maxCount)
    (hone : 0 < Report.failures rs) (hle : policy.failureThreshold ≤ Report.failures rs) :
    (afterAll policy {} rs).isOpen = true := by
  by_cases hpos : 0 < policy.failureThreshold
  · exact ((keeps_afterAll hpos rs).isOpen_iff hmax).2 hle
  · have hzero : policy.failureThreshold = 0 := by omega
    rcases List.eq_nil_or_concat rs with rfl | ⟨rs, r, rfl⟩
    · simp [Report.failures] at hone
    · rw [List.concat_eq_append] at hone ⊢
      have hr : r.succeeded = false := by
        by_contra h
        rw [Report.failures_concat, if_pos (by simpa using h)] at hone
        exact Nat.lt_irrefl 0 hone
      rw [afterAll_concat, record, hr]
      simp [recordFailure, hzero]

/-- **How long a breaker turns calls away** after failures in a row. -/
theorem isAvailable_afterAll (hmax : policy.failureThreshold ≤ maxCount)
    (hone : 0 < Report.failures rs) (hle : policy.failureThreshold ≤ Report.failures rs)
    {t : Instant} (ht : Report.lastFailure? rs = some t) (now : Instant) :
    (afterAll policy {} rs).isAvailable policy now = true ↔ policy.openTimeout < now - t := by
  have hopen := isOpen_afterAll hmax hone hle
  have hlast := lastFailure_afterAll policy rs
  rw [ht] at hlast
  simp [isAvailable, hopen, hlast]

end Breaker
end Errand

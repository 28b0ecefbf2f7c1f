/-
# When a breaker says that it opened

A breaker answers every failure: it says whether this failure opened it.  Because the flag
agrees with the count (`Agrees`), a failure opens a breaker exactly if it
takes the count from one below the threshold to the threshold (`Agrees.opensOnFailure_iff`).
The count does not fall from one success to the next, so a stretch of failures opens a breaker
once at most, however many of them are trials of a breaker that had been open
(`Agrees.count_answers`).  `afterAll_tells` puts all of this together.

The threshold may be out of the counter's reach: such a breaker never opens, and the flag
and the count still agree.
-/

import Errand.Proofs.Breaker

namespace Errand

namespace Report

/-- There is no last failure where all were successes, -/
theorem lastFailure?_eq_none_iff (rs : List Report) :
    lastFailure? rs = none ↔ ∀ r ∈ rs, r.succeeded = true := by
  simp [lastFailure?]

/-- and no last success where all were failures. -/
theorem lastSuccess?_eq_none_iff (rs : List Report) :
    lastSuccess? rs = none ↔ ∀ r ∈ rs, r.succeeded = false := by
  simp [lastSuccess?]

end Report

namespace Breaker

variable {policy : BreakerPolicy} {rs : List Report} {b : Breaker}

/-! ### What is said -/

/-- What a breaker says of a report: whether it was opened by it. -/
def answer (policy : BreakerPolicy) (b : Breaker) (r : Report) : Bool :=
  !r.succeeded && b.opensOnFailure policy r.time

/-- What a breaker says of reports, one after the other. -/
def answers (policy : BreakerPolicy) : Breaker → List Report → List Bool
  | _, [] => []
  | b, r :: rs => b.answer policy r :: answers policy (b.record policy r) rs

/-- **A failure opens a breaker exactly if it takes the count to the threshold,** from one
below it. -/
theorem Agrees.opensOnFailure_iff (hpos : 0 < policy.failureThreshold) (h : Agrees policy b)
    (now : Instant) : b.opensOnFailure policy now = true ↔
      b.failureCount = policy.failureThreshold - 1 ∧
        (b.recordFailure policy now).failureCount = policy.failureThreshold := by
  have hopens : b.opensOnFailure policy now = true ↔
      (b.recordFailure policy now).isOpen = true ∧ ¬b.isOpen = true := by
    simp [opensOnFailure]
  rw [hopens, (h.recordFailure now).isOpen, h.isOpen, failureCount_recordFailure]
  omega

/-- The count does not fall from one success to the next. -/
theorem Agrees.failureCount_le_afterAll {stretch : List Report} (h : Agrees policy b)
    (hfailed : ∀ r ∈ stretch, r.succeeded = false) :
    b.failureCount ≤ (afterAll policy b stretch).failureCount := by
  induction stretch generalizing b with
  | nil => exact Nat.le_refl _
  | cons r stretch ih =>
    obtain ⟨hr, hrest⟩ := List.forall_mem_cons.1 hfailed
    have hlater := ih (h.recordFailure r.time) hrest
    have hle := h.failureCount_le
    rw [failureCount_recordFailure] at hlater
    rw [afterAll, List.foldl_cons, record, hr, if_neg Bool.false_ne_true]
    exact Nat.le_trans (by omega) hlater

/-- **What a stretch of failures is answered,** by induction on the stretch: once that the
breaker opened, if the count reached the threshold within the stretch, and else never. -/
theorem Agrees.count_answers (hpos : 0 < policy.failureThreshold) {stretch : List Report}
    (h : Agrees policy b) (hfailed : ∀ r ∈ stretch, r.succeeded = false) :
    (answers policy b stretch).count true = if b.failureCount < policy.failureThreshold ∧
      policy.failureThreshold ≤ (afterAll policy b stretch).failureCount then 1 else 0 := by
  induction stretch generalizing b with
  | nil =>
    rw [answers, List.count_nil, if_neg]
    rintro ⟨hlt, hle⟩
    exact absurd hle (Nat.not_le.2 hlt)
  | cons r stretch ih =>
    obtain ⟨hr, hrest⟩ := List.forall_mem_cons.1 hfailed
    have hnext := h.recordFailure r.time
    have hmono := hnext.failureCount_le_afterAll hrest
    have hopens := h.opensOnFailure_iff hpos r.time
    have hrecord : b.record policy r = b.recordFailure policy r.time := by
      rw [record, hr, if_neg Bool.false_ne_true]
    have hafter : afterAll policy b (r :: stretch) =
        afterAll policy (b.recordFailure policy r.time) stretch := by
      rw [← hrecord]
      rfl
    have hanswer : b.answer policy r = b.opensOnFailure policy r.time := by simp [answer, hr]
    rw [hafter, answers, hrecord, hanswer, List.count_cons, ih hnext hrest]
    rw [failureCount_recordFailure] at hmono hopens ⊢
    have hle := h.failureCount_le
    cases hnow : b.opensOnFailure policy r.time with
    | true =>
      -- The threshold is reached here, so what follows starts from an open breaker.
      obtain ⟨hbelow, hreached⟩ := hopens.1 hnow
      rw [if_neg (by omega), if_pos (by rfl), if_pos (by omega)]
    | false =>
      have hnot : ¬(b.failureCount = policy.failureThreshold - 1 ∧
          min (b.failureCount + 1) maxCount = policy.failureThreshold) := by
        rw [← hopens, hnow]
        exact Bool.false_ne_true
      rw [if_neg (by decide : ¬(false == true) = true), Nat.add_zero]
      exact if_congr (by omega) rfl rfl

/-- **A breaker and the reports it was ever given.**  Its count is that of the failures since
the last success, as far as it counts; its flag is set exactly while the count has reached the
threshold; and its times are those of the last failure and of the last success, if there was
one.  A failure is said to open it exactly if it takes the count from one below the threshold
to the threshold, so between two successes that is said once at most. -/
theorem afterAll_tells (hpos : 0 < policy.failureThreshold) (rs : List Report) :
    Keeps policy rs (afterAll policy {} rs) ∧
      ((afterAll policy {} rs).lastFailure = none ↔ ∀ r ∈ rs, r.succeeded = true) ∧
      ((afterAll policy {} rs).lastSuccess = none ↔ ∀ r ∈ rs, r.succeeded = false) ∧
      (∀ now, (afterAll policy {} rs).opensOnFailure policy now = true ↔
        (afterAll policy {} rs).failureCount = policy.failureThreshold - 1 ∧
          ((afterAll policy {} rs).recordFailure policy now).failureCount =
            policy.failureThreshold) ∧
      ∀ stretch : List Report, (∀ r ∈ stretch, r.succeeded = false) →
        (answers policy (afterAll policy {} rs) stretch).count true ≤ 1 := by
  have hkeeps := keeps_afterAll hpos rs
  refine ⟨hkeeps, ?_, ?_, hkeeps.agrees.opensOnFailure_iff hpos, fun stretch hfailed => ?_⟩
  · rw [hkeeps.lastFailure, Report.lastFailure?_eq_none_iff]
  · rw [hkeeps.lastSuccess, Report.lastSuccess?_eq_none_iff]
  · rw [hkeeps.agrees.count_answers hpos hfailed]
    split <;> omega

/-- A breaker that opens at the second failure. -/
def twice : BreakerPolicy := { failureThreshold := 2, openTimeout := 10 }

/-- A success, two failures that open the breaker, and a trial after the timeout that fails as
well. -/
def trial : List Report := [⟨true, 0⟩, ⟨false, 3⟩, ⟨false, 4⟩, ⟨false, 20⟩]

/-- The trial opens nothing: that the breaker opened was said before, and is not said again. -/
theorem afterAll_tells_trial : 0 < twice.failureThreshold ∧
    afterAll twice {} trial = ⟨true, 3, some 20, some 0⟩ ∧
      (answers twice {} trial = [false, false, true, false]) ∧
        (answers twice (afterAll twice {} [⟨true, 0⟩]) trial.tail).count true ≤ 1 := by
  have hpos : 0 < twice.failureThreshold := by decide
  have htells := afterAll_tells hpos [⟨true, 0⟩]
  exact ⟨hpos, by decide, by decide, htells.2.2.2.2 trial.tail (by decide)⟩

end Breaker
end Errand

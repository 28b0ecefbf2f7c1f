/-
# The order of a plan's steps

SPEC_FULL.md, sections 3 and 8: steps run in ascending order of unique numbers.

A plan is sound in its numbers when no two steps share one, which is what
`Plan.violations` looks for (`violations_eq_nil_iff`).  The order in which steps are
taken is then strictly ascending, and depends on the steps alone and not on the order
in which they were written (`orderedSteps_eq_of_perm`).
-/

import Errand.Run.Plan

namespace Errand
namespace Plan

/-- No two steps share a number. -/
def DistinctNumbers (steps : List Step) : Prop := (steps.map Step.stepNumber).Nodup

instance (steps : List Step) : Decidable (DistinctNumbers steps) :=
  inferInstanceAs (Decidable (steps.map Step.stepNumber).Nodup)

/-- Whether numbers are distinct does not hang on the order of the steps. -/
theorem DistinctNumbers.perm {l l' : List Step} (h : DistinctNumbers l) (hl : l'.Perm l) :
    DistinctNumbers l' := (hl.map Step.stepNumber).nodup_iff.2 h

/-- By induction on the steps, for any numbers already seen. -/
theorem duplicatesFrom_eq_nil_iff (seen : List Nat) (steps : List Step) :
    duplicatesFrom seen steps = [] ↔
      (∀ s ∈ steps, s.stepNumber ∉ seen) ∧ DistinctNumbers steps := by
  unfold DistinctNumbers
  induction steps generalizing seen with
  | nil => simp [duplicatesFrom]
  | cons s r ih =>
    rw [duplicatesFrom]
    split
    · next hs =>
      have hs : s.stepNumber ∈ seen := by simpa using hs
      refine ⟨fun h => by simp at h, fun h => ?_⟩
      exact absurd hs (h.1 s List.mem_cons_self)
    · next hs =>
      have hs : s.stepNumber ∉ seen := by simpa using hs
      rw [ih, List.map_cons, List.nodup_cons]
      constructor
      · rintro ⟨hr, hd⟩
        refine ⟨fun t ht => ?_, fun hm => ?_, hd⟩
        · rcases List.mem_cons.1 ht with rfl | ht
          · exact hs
          · exact fun hm => hr t ht (List.mem_cons_of_mem _ hm)
        · obtain ⟨t, ht, hts⟩ := List.mem_map.1 hm
          exact hr t ht (hts ▸ List.mem_cons_self)
      · rintro ⟨hr, hn, hd⟩
        refine ⟨fun t ht hm => ?_, hd⟩
        rcases List.mem_cons.1 hm with hts | hm
        · exact hn (List.mem_map.2 ⟨t, ht, hts⟩)
        · exact hr t (List.mem_cons_of_mem _ ht) hm

/-- **A plan is without fault** when its numbers are distinct and it says why it cannot
be carried out, if it cannot. -/
theorem violations_eq_nil_iff (p : Plan) :
    p.violations = [] ↔
      (p.isExecutable = true ∨ p.blocker?.isSome = true) ∧ DistinctNumbers p.steps := by
  rw [violations, List.append_eq_nil_iff, duplicatesFrom_eq_nil_iff]
  cases p.isExecutable <;> cases p.blocker? <;> simp

/-- A plan goes to its first step exactly when it is executable and its numbers are
distinct. -/
theorem refusal?_eq_none_iff (p : Plan) :
    p.refusal? = none ↔ p.isExecutable = true ∧ DistinctNumbers p.steps := by
  unfold refusal?
  cases hp : p.isExecutable with
  | false => simp
  | true =>
    have hv := p.violations_eq_nil_iff
    simp only [hp, true_or, true_and] at hv
    simp only [Bool.not_true, Bool.false_eq_true, if_false, true_and, ← hv]
    cases p.violations <;> simp

/-- The steps in order are the steps of the plan. -/
theorem orderedSteps_perm (p : Plan) : p.orderedSteps.Perm p.steps := List.mergeSort_perm _ _

theorem stepNumber_le_trans (a b c : Step) : decide (a.stepNumber ≤ b.stepNumber) = true →
    decide (b.stepNumber ≤ c.stepNumber) = true →
      decide (a.stepNumber ≤ c.stepNumber) = true := by
  simp only [decide_eq_true_iff]
  exact Nat.le_trans

theorem stepNumber_le_total (a b : Step) :
    (decide (a.stepNumber ≤ b.stepNumber) || decide (b.stepNumber ≤ a.stepNumber)) = true := by
  simpa using Nat.le_total a.stepNumber b.stepNumber

/-- They ascend in their numbers. -/
theorem orderedSteps_ascending (p : Plan) :
    p.orderedSteps.Pairwise fun a b => a.stepNumber ≤ b.stepNumber :=
  (List.pairwise_mergeSort stepNumber_le_trans stepNumber_le_total p.steps).imp of_decide_eq_true

/-- **Distinct numbers are taken in strictly ascending order.** -/
theorem orderedSteps_strict {p : Plan} (h : DistinctNumbers p.steps) :
    p.orderedSteps.Pairwise fun a b => a.stepNumber < b.stepNumber := by
  have hd : p.orderedSteps.Pairwise fun a b => a.stepNumber ≠ b.stepNumber :=
    List.pairwise_map.1 (h.perm p.orderedSteps_perm)
  exact p.orderedSteps_ascending.imp₂ (fun _ _ hle hne => Nat.lt_of_le_of_ne hle hne) hd

/-- Steps in strictly ascending order are in the order in which a plan takes them. -/
theorem orderedSteps_eq {p : Plan} {steps : List Step}
    (hs : steps.Pairwise fun a b => a.stepNumber < b.stepNumber) (hp : steps.Perm p.steps) :
    p.orderedSteps = steps := by
  have hd : DistinctNumbers steps := List.pairwise_map.2 (hs.imp Nat.ne_of_lt)
  have asymm (a b : Step) (_ : a ∈ p.orderedSteps) (_ : b ∈ steps)
      (hab : a.stepNumber < b.stepNumber) (hba : b.stepNumber < a.stepNumber) : a = b :=
    absurd hab (Nat.lt_asymm hba)
  exact List.Perm.eq_of_pairwise asymm (orderedSteps_strict (hd.perm hp.symm)) hs
    (p.orderedSteps_perm.trans hp.symm)

/-- **The order in which steps are written does not matter.** -/
theorem orderedSteps_eq_of_perm {p q : Plan} (h : DistinctNumbers p.steps)
    (hq : q.steps.Perm p.steps) : q.orderedSteps = p.orderedSteps :=
  orderedSteps_eq (orderedSteps_strict h) (p.orderedSteps_perm.trans hq.symm)

end Plan
end Errand

/-
# The numbers of a plan's steps

SPEC_FULL.md, section 3, on what is reported of a plan.

What `Plan.violations` says of the numbers is a matter of how often each occurs.  Of a number
that was seen before, every occurrence is named, and of any other every occurrence after the
first (`count_repeatedFrom`, by induction on the steps).  So a number is named once less often
than it occurs, and the numbers named are, with each distinct number once more, the numbers of
the steps (`repeated_append_dedup_perm`): there are as many as the steps exceed the distinct
numbers.

The sort behind `Plan.orderedSteps` keeps the steps of one number in the order they are written
in (`filter_orderedSteps`).  `violations_tell` puts both together: where no number is named,
the steps are taken in strictly ascending order.
-/

import Errand.Proofs.Plan
import Errand.Proofs.Text.Cut
import Mathlib.Data.List.Dedup

namespace Errand
namespace Plan

/-- The numbers of the steps, in the order they are written in. -/
def numbers (p : Plan) : List Nat := p.steps.map Step.stepNumber

/-- The number that a violation names. -/
def Violation.number? : Violation → Option Nat
  | .missingBlocker => none
  | .duplicateStep n => some n

/-- Whether a violation names a number that was seen before. -/
def Violation.isDuplicate (v : Violation) : Bool := v.number?.isSome

/-- The violations that name a number are the repetitions of it. -/
theorem Violation.number?_eq_some_iff {v : Violation} {n : Nat} :
    v.number? = some n ↔ v = .duplicateStep n := by
  cases v <;> simp [number?]

/-- The numbers that the violations name. -/
def repeated (p : Plan) : List Nat := p.violations.filterMap Violation.number?

/-- The missing blocker names no number. -/
theorem repeated_eq (p : Plan) :
    p.repeated = (duplicatesFrom [] p.steps).filterMap Violation.number? := by
  rw [repeated, violations, List.filterMap_append]
  split <;> rfl

/-! ### How often a number is named -/

/-- **What is named of a number,** by induction on the steps, for any numbers already seen. -/
theorem count_repeatedFrom (seen : List Nat) (steps : List Step) (n : Nat) :
    ((duplicatesFrom seen steps).filterMap Violation.number?).count n =
      (steps.map Step.stepNumber).count n - if n ∈ seen then 0 else 1 := by
  induction steps generalizing seen with
  | nil => simp [duplicatesFrom]
  | cons s r ih =>
    rw [duplicatesFrom, List.map_cons, List.count_cons]
    by_cases hs : s.stepNumber ∈ seen
    · have hnamed : (Violation.duplicateStep s.stepNumber).number? = some s.stepNumber := rfl
      rw [if_pos (List.contains_iff_mem.2 hs), List.filterMap_cons_some hnamed, List.count_cons, ih]
      by_cases hn : s.stepNumber = n
      · rw [if_pos (hn ▸ hs)]
        rfl
      · simp only [beq_iff_eq, if_neg hn, Nat.add_zero]
    · rw [if_neg (mt List.contains_iff_mem.1 hs), ih]
      by_cases hn : s.stepNumber = n
      · -- The first occurrence is not named, and from here on the number has been seen.
        subst hn
        simp [hs]
      · simp [hn, Ne.symm hn]

/-- **A number is named once less often than it occurs.** -/
theorem count_repeated (p : Plan) (n : Nat) : p.repeated.count n = p.numbers.count n - 1 := by
  rw [repeated_eq, count_repeatedFrom]
  rfl

/-- **The numbers named are those that remain** when each distinct number is taken once. -/
theorem repeated_append_dedup_perm (p : Plan) :
    (p.repeated ++ p.numbers.dedup).Perm p.numbers := by
  rw [List.perm_iff_count]
  intro n
  rw [List.count_append, count_repeated, List.count_dedup]
  split
  · next hn => exact Nat.sub_add_cancel (List.count_pos_iff.2 hn)
  · next hn => rw [List.count_eq_zero_of_not_mem hn]

/-- A number is reported exactly if two steps at least have it. -/
theorem duplicateStep_mem_iff (p : Plan) (n : Nat) :
    .duplicateStep n ∈ p.violations ↔ 2 ≤ p.numbers.count n := by
  have hnamed : n ∈ p.repeated ↔ .duplicateStep n ∈ p.violations := by
    simp [repeated, List.mem_filterMap, Violation.number?_eq_some_iff]
  have hcount := p.count_repeated n
  rw [← hnamed, ← List.count_pos_iff]
  omega

/-- No number is named exactly when no two steps share one. -/
theorem duplicateStep_not_mem_iff (p : Plan) :
    (∀ n, .duplicateStep n ∉ p.violations) ↔ DistinctNumbers p.steps := by
  have hle (n : Nat) : .duplicateStep n ∉ p.violations ↔ p.numbers.count n ≤ 1 := by
    rw [duplicateStep_mem_iff]
    omega
  rw [DistinctNumbers, List.nodup_iff_count_le_one]
  exact forall_congr' hle

/-! ### Why a plan cannot be carried out -/

/-- The plan says why it cannot be carried out: its blocker has a character that is not
blank. -/
def SaysWhy (p : Plan) : Prop :=
  ∃ reason, p.executionBlocker = some reason ∧ ∃ c ∈ reason.toList, Text.isBlank c = false

/-- A plan says why it is blocked if its text about that is not blank. -/
theorem saysWhy_iff (p : Plan) : p.SaysWhy ↔ p.blocker?.isSome = true := by
  rw [SaysWhy, blocker?]
  cases p.executionBlocker with
  | none => simp
  | some reason =>
    have hsome : (Text.trimmed? reason).isSome = true ↔ Text.isBlankText reason = false := by
      simp [Option.isSome_iff_exists, Text.trimmed?_eq_some_iff]
    simp [hsome, Text.isBlankText]

/-! ### The order of steps that share a number -/

/-- **The order is stable:** steps of one number are taken in the order they are written in.
They are in order as they stand, so the sort keeps them, and it adds no others. -/
theorem filter_orderedSteps (p : Plan) (n : Nat) :
    p.orderedSteps.filter (·.stepNumber = n) = p.steps.filter (·.stepNumber = n) := by
  have hsame : (p.steps.filter (·.stepNumber = n)).Pairwise fun a b =>
      decide (a.stepNumber ≤ b.stepNumber) = true := by
    refine List.pairwise_iff_forall_sublist.2 fun {a b} hab => ?_
    have ha := List.of_mem_filter (hab.subset (List.mem_cons_self ..))
    have hb := List.of_mem_filter (hab.subset (List.mem_cons_of_mem _ (List.mem_cons_self ..)))
    simp only [decide_eq_true_iff] at ha hb ⊢
    exact (ha.trans hb.symm).le
  have hkept : (p.steps.filter (·.stepNumber = n)).Sublist p.orderedSteps :=
    List.sublist_mergeSort stepNumber_le_trans stepNumber_le_total hsame List.filter_sublist
  have hfilter := hkept.filter (·.stepNumber = n)
  rw [List.filter_filter] at hfilter
  simp only [Bool.and_self] at hfilter
  exact (hfilter.eq_of_length (p.orderedSteps_perm.filter _).length_eq.symm).symm

/-- **What is wrong with a plan, and the order of its steps.**  Nothing is wrong exactly when
the numbers are distinct and the plan can be carried out or says why it cannot.  The numbers
named are as many as the steps exceed the distinct numbers, and a number is named exactly if it
occurs twice, once less often than it occurs.  The steps are taken in the ascending order of
their numbers, those of one number as they are written; strictly so if no number is named. -/
theorem violations_tell (p : Plan) :
    (p.violations = [] ↔ p.numbers.Nodup ∧ (p.isExecutable = true ∨ p.SaysWhy)) ∧
      p.violations.countP Violation.isDuplicate + p.numbers.dedup.length = p.steps.length ∧
      (∀ n, p.violations.count (.duplicateStep n) = p.numbers.count n - 1) ∧
      (∀ n, .duplicateStep n ∈ p.violations ↔ 2 ≤ p.numbers.count n) ∧
      p.orderedSteps.Perm p.steps ∧
      p.orderedSteps.Pairwise (fun a b => a.stepNumber ≤ b.stepNumber) ∧
      (∀ n, p.orderedSteps.filter (·.stepNumber = n) = p.steps.filter (·.stepNumber = n)) ∧
      ((∀ n, .duplicateStep n ∉ p.violations) →
        p.orderedSteps.Pairwise fun a b => a.stepNumber < b.stepNumber) := by
  refine ⟨?_, ?_, fun n => ?_, p.duplicateStep_mem_iff, p.orderedSteps_perm,
    p.orderedSteps_ascending, p.filter_orderedSteps, fun h => ?_⟩
  · rw [violations_eq_nil_iff, saysWhy_iff, and_comm]
    rfl
  · have hnamed : p.violations.countP Violation.isDuplicate = p.repeated.length :=
      (List.length_filterMap_eq_countP ..).symm
    have hsteps : p.numbers.length = p.steps.length := List.length_map ..
    rw [hnamed, ← List.length_append, p.repeated_append_dedup_perm.length_eq, hsteps]
  · rw [← count_repeated, repeated, List.count_filterMap]
    refine List.countP_congr fun v _ => ?_
    simp [Violation.number?_eq_some_iff]
  · exact orderedSteps_strict (p.duplicateStep_not_mem_iff.1 h)

end Plan
end Errand

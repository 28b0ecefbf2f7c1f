/-
# Events of a run

SPEC_FULL.md, section 11.4 (Run events).

A run tells its observer what happens as it happens: which turn it takes, what was
thought and chosen, each piece of a streamed reply, each finished step and what was
observed.
-/

import Errand.Outcome

namespace Errand

/-- One observable moment of a run. -/
inductive Event where
  | iterationStarted (iteration : Nat)
  | thought (iteration : Nat) (text : String)
  | actionChosen (iteration : Nat) (action : Action)
  /-- A piece of a streamed reply. -/
  | chunk (stepNumber : Nat) (text : String)
  | stepCompleted (result : StepResult)
  | observation (iteration : Nat) (text : String)
deriving DecidableEq

/-- The step results among events, in order. -/
def completedSteps (events : List Event) : List StepResult :=
  events.filterMap fun
    | .stepCompleted r => some r
    | _ => none

end Errand

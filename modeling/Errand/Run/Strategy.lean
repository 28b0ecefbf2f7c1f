/-
# Strategies

SPEC_FULL.md, section 4.5 (Iteration Strategies).

There are two ways to run towards a goal: planning and executing, or reasoning and
acting.
-/

import Errand.Run.PlanExecute
import Errand.Run.React

namespace Errand

/-- A way to run towards a goal. -/
inductive Strategy where
  | planExecute
  | react
deriving DecidableEq, Repr

namespace Strategy

/-- The name of a strategy. -/
def name : Strategy → String
  | .planExecute => "plan_execute"
  | .react => "react"

/-- The strategy of a name. -/
def ofName? (n : String) : Option Strategy := [planExecute, react].find? (·.name == n)

/-- Run towards a goal under a configuration. -/
def run {σ : Type} (c : Config) (dialect : Schema.Dialect) (goal : String)
    (wantsChunks : Bool) : Strategy → Run σ RunOutcome
  | planExecute => PlanExecute.run c.planExecute (c.setting dialect goal wantsChunks)
  | react => React.run c.react (c.setting dialect goal wantsChunks)

end Strategy
end Errand

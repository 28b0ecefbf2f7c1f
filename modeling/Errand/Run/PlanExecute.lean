/-
# Planning and executing

SPEC_FULL.md, section 4.5 (Plan-Execute-Evaluate).

Each iteration asks the planner for actions, carries them out in order up to the
first finish, and asks the completion checker whether the goal is reached.  Where
there is no checker, enough successful actions stand in for its verdict; a checker
that fails or cannot be read counts as no.
-/

import Errand.Run.Goal

namespace Errand
namespace PlanExecute

open Json (Value)

variable {σ : Type}

/-- What the planner is told in an iteration. -/
def plannerInvocation (goal : String) (iteration : Nat) (tools : String) (p : Progress) :
    Invocation :=
  ({ goal } : Invocation)
    |>.withParameter "iteration" (.ofNat iteration)
    |>.withAuxiliary "tools" tools
    |>.withAuxiliary "history" (historyText (p.history.map HistoryEntry.written))

/-- What the checker is told. -/
def checkerInvocation (goal : String) (p : Progress) : Invocation :=
  ({ goal } : Invocation).withAuxiliary "history" (historyText (p.history.map HistoryEntry.written))

/-- The description of an action's step. -/
def stepDescription (iteration stepNumber : Nat) : String :=
  "iteration " ++ .ofList (Json.decimalChars iteration) ++ ", action " ++
    .ofList (Json.decimalChars stepNumber)

/-- The history entry of an action that was carried out and took so many milliseconds. -/
def entryOf (iteration : Nat) (a : Action) (r : StepResult) (millis : Nat) : HistoryEntry :=
  ⟨iteration, a, r.isSuccess, r.output, r.errorMessage, millis⟩

/-- Carry out one action.  Its entry is timed apart from its step. -/
def runAction (s : Setting) (iteration stepNumber : Nat) (a : Action) : Run σ HistoryEntry := do
  Run.send (.actionChosen iteration a)
  let started ← Run.now
  let r ← runStep s (a.toStep stepNumber (stepDescription iteration stepNumber))
  Run.send (.stepCompleted r)
  if r.isSuccess then bindOutput a.outputVariable r.output
  let ended ← Run.now
  return entryOf iteration a r (elapsedMillis started ended)

/-- Carry out actions up to the first finish: whether there was one, and the
entries. -/
def runActions (s : Setting) (iteration : Nat) :
    (stepNumber : Nat) → List Action → Run σ (Bool × List HistoryEntry)
  | _, [] => return (false, [])
  | n, a :: rest => do
    if a.kind = .finish then return (true, [])
    else
      let entry ← runAction s iteration n a
      let (finished, entries) ← runActions s iteration (n + 1) rest
      return (finished, entry :: entries)

/-- Whether the goal is reached. -/
def isComplete (c : PlanExecuteConfig) (s : Setting) (p : Progress) : Run σ Bool := do
  match ← callRole .completionChecker (checkerInvocation s.goal p) with
  | .done o => return (Reply.verdict? o.content).getD false
  | .missing => return Goal.enoughSuccesses p.history c.heuristicSuccessThreshold
  | .failed _ => return false

/-- Iterate at most `remaining` times from an iteration on. -/
def loop (c : PlanExecuteConfig) (s : Setting) :
    (remaining iteration : Nat) → Progress → Run σ (StopReason × Progress)
  | 0, _, p => return (.maxIterationsExceeded c.maxIterations, p)
  | remaining + 1, i, p => do
    Run.checkToken
    let p := { p with iterations := i }
    Run.send (.iterationStarted i)
    let tools ← catalogText
    match ← callRole .planner (plannerInvocation s.goal i tools p) with
    | .missing => return (.blocked "no planner is registered", p)
    | .failed e => return (.blocked ("planning failed: " ++ e), p)
    | .done o =>
      let plan := o.content
      let p := { p with shared := p.shared.insert "last_plan" plan }
      let (finished, entries) ← runActions s i 1 (Reply.actions plan)
      let p := { p with history := p.history ++ entries }
      if finished then return (.goalAchieved, { p with isComplete := true })
      else if ← isComplete c s p then return (.goalAchieved, { p with isComplete := true })
      else loop c s remaining (i + 1) p

/-- The output of the last entry that succeeded. -/
def finalAnswer (history : List HistoryEntry) : Option String :=
  (history.reverse.find? (·.isSuccess)).bind (·.output)

/-- Run towards a goal by planning and executing. -/
def run (c : PlanExecuteConfig) (s : Setting) : Run σ RunOutcome := do
  Run.modify fun e => { e with bindings := .empty }
  let (stop, p) ← loop c s c.maxIterations 1 {}
  return p.outcome stop (finalAnswer p.history) (← Run.get).bindings

end PlanExecute
end Errand

/-
# Reasoning and acting

SPEC_FULL.md, section 4.5 (ReAct).

Each cycle has a thought from the reasoner, a decision from the action planner, one
step, and what was observed of it.  From some cycle on the goal is checked: by the
completion checker if it answers, else by looking for keywords in the last
observation.  After the last cycle the summarizer, if there is one, writes the
final answer, whatever the run stopped for.
-/

import Errand.Run.Goal

namespace Errand
namespace React

open Json (Value)

variable {σ : Type}

/-- The thought of a cycle in which nobody could think. -/
def fallbackThought : String := "Continue working toward the goal."

/-- The cycles as prompt material. -/
def cyclesText (p : Progress) : String := historyText (p.cycles.map Cycle.written)

/-- An invocation that shows the cycles so far. -/
def historyInvocation (goal : String) (p : Progress) : Invocation :=
  ({ goal } : Invocation).withAuxiliary "history" (cyclesText p)

/-- What the action planner is told. -/
def plannerInvocation (goal tools thought : String) (p : Progress) : Invocation :=
  ({ goal } : Invocation)
    |>.withAuxiliary "tools" tools
    |>.withAuxiliary "history" (cyclesText p)
    |>.withAuxiliary "thought" thought

/-- Think. -/
def think (s : Setting) (p : Progress) : Run σ String := do
  let r ← callRole .reasoner (historyInvocation s.goal p)
  return (r.output?.bind FunctionOutput.text?).getD fallbackThought

/-- Decide.  Where nobody can decide, the run finishes. -/
def decide (s : Setting) (p : Progress) (thought : String) : Run σ Reply.Decision := do
  let tools ← catalogText
  match ← callRole .actionPlanner (plannerInvocation s.goal tools thought p) with
  | .done o => return Reply.decision o.content
  | .missing | .failed _ => return .finish none false

/-- What is observed of a step. -/
def observationOf (r : StepResult) : String :=
  if !r.isSuccess then "Error: " ++ r.errorText
  else
    let output := r.output.getD ""
    if Text.isBlankText output then "(no output)" else output

/-- Act, and observe. -/
def act (s : Setting) (iteration : Nat) (thought : String) (a : Action) : Run σ String := do
  let r ← runStep s (a.toStep iteration thought)
  Run.send (.stepCompleted r)
  if r.isSuccess then bindOutput a.outputVariable r.output
  return observationOf r

/-- Whether the last observation mentions a keyword. -/
def mentionsGoal (c : ReactConfig) (p : Progress) : Bool :=
  p.cycles.getLast?.any fun cycle => Goal.isMentioned cycle.observation c.goalKeywords

/-- Whether the goal is reached. -/
def isComplete (c : ReactConfig) (s : Setting) (p : Progress) : Run σ Bool := do
  let r ← callRole .completionChecker (historyInvocation s.goal p)
  return ((r.output?.map FunctionOutput.content).bind Reply.verdict?).getD (mentionsGoal c p)

/-- The progress after one more cycle. -/
def addCycle (p : Progress) (cycle : Cycle) : Progress :=
  { p with
    shared := (p.shared.insert "last_observation" (.string cycle.observation)).insert
      "last_record" cycle.toJson
    cycles := p.cycles ++ [cycle] }

/-- How the cycles ended: why, and the answer given with the decision to
finish. -/
structure LoopEnd where
  stop : StopReason
  answer : Option String

/-- Go through at most `remaining` cycles from an iteration on. -/
def loop (c : ReactConfig) (s : Setting) :
    (remaining iteration : Nat) → Progress → Run σ (LoopEnd × Progress)
  | 0, _, p => return (⟨.maxIterationsExceeded c.maxIterations, none⟩, p)
  | remaining + 1, i, p => do
    Run.checkToken
    let p := { p with iterations := i }
    Run.send (.iterationStarted i)
    let thought ← think s p
    Run.send (.thought i thought)
    match ← decide s p thought with
    | .finish answer explicit => return (⟨.finished, answer⟩, { p with isComplete := explicit })
    | .act action =>
      Run.send (.actionChosen i action)
      let observation ← act s i thought action
      Run.send (.observation i observation)
      let p := addCycle p ⟨i, thought, action, observation⟩
      let reached ← if c.goalCheckMinCycles ≤ i then isComplete c s p else pure false
      if reached then return (⟨.goalAchieved, none⟩, { p with isComplete := true })
      else loop c s remaining (i + 1) p

/-- The reason for stopping, as the summarizer is told it. -/
def stopText (stop : StopReason) : String :=
  stop.errorMessage.getD (if stop = .goalAchieved then "goal achieved" else "finished")

/-- What the summarizer is told. -/
def summarizerInvocation (goal : String) (p : Progress) (e : LoopEnd) : Invocation :=
  let i := (historyInvocation goal p).withParameter "stop_reason" (.string (stopText e.stop))
  match e.answer with
  | some a => i.withParameter "proposed_answer" (.string a)
  | none => i

/-- The final answer without a summarizer: the one given with the decision to
finish, else the last observation. -/
def ownAnswer (p : Progress) (e : LoopEnd) : Option String :=
  e.answer.or (p.cycles.getLast?.map (·.observation))

/-- The final answer. -/
def summarize (s : Setting) (p : Progress) (e : LoopEnd) : Run σ (Option String) := do
  let r ← callRole .summarizer (summarizerInvocation s.goal p e)
  return (r.output?.bind FunctionOutput.text?).or (ownAnswer p e)

/-- Run towards a goal by reasoning and acting. -/
def run (c : ReactConfig) (s : Setting) : Run σ RunOutcome := do
  Run.modify fun e => { e with bindings := .empty }
  let (e, p) ← loop c s c.maxIterations 1 {}
  let answer ← summarize s p e
  return p.outcome e.stop answer (← Run.get).bindings

end React
end Errand

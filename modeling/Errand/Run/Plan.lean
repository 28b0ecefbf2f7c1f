/-
# Running a plan

SPEC_FULL.md, section 4.4 (Plan Interpreter).

The steps of a plan are taken in the order of their numbers until one fails.  A
step that succeeds and names an output variable binds its output under that name,
the empty text if it has none.  A plan that cannot be carried out, or whose step
numbers repeat, fails before its first step.
-/

import Errand.Run.Step

namespace Errand

open Json (Value)

variable {σ : Type}

/-- Bind the output of a successful step under a variable, if one is named. -/
def bindOutput (variableName : Option String) (output : Option String) : Run σ Unit :=
  match variableName with
  | some name => Run.bindVariable name (.string (output.getD ""))
  | none => pure ()

/-- What is said of a plan that a step has stopped. -/
def stepFailedMessage (stepNumber : Nat) (r : StepResult) : String :=
  "step " ++ .ofList (Json.decimalChars stepNumber) ++ " failed: " ++ r.errorText

/-- Take steps until one fails: the results, and what is said of the failure. -/
def runSteps (s : Setting) : List Step → Run σ (List StepResult × Option String)
  | [] => return ([], none)
  | step :: rest => do
    Run.checkToken
    let r ← runStep s step
    Run.send (.stepCompleted r)
    if !r.isSuccess then return ([r], some (stepFailedMessage step.stepNumber r))
    else
      bindOutput step.outputVariable r.output
      let (rs, error) ← runSteps s rest
      return (r :: rs, error)

/-- Why a plan is refused before its first step. -/
def Plan.refusal? (p : Plan) : Option String :=
  if !p.isExecutable then some p.blockerText
  else
    match p.violations with
    | [] => none
    | vs => some ("invalid plan: " ++ String.intercalate "; " (vs.map Plan.Violation.message))

/-- Run a plan on the bindings of the engine. -/
def runPlan (s : Setting) (p : Plan) : Run σ PlanResult := do
  match p.refusal? with
  | some e => return .failed e
  | none =>
    let started ← Run.now
    let (steps, error) ← runSteps s p.orderedSteps
    let ended ← Run.now
    return ⟨error.isNone, steps, error, p.summary, elapsedMillis started ended⟩

end Errand

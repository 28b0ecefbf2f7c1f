/-
# Plans

SPEC_FULL.md, section 3 (Plan, Step) and section 4.4, on the order of steps.

A plan is a list of numbered steps, each naming a tool or a model function.  It
may also say that it cannot be carried out, and why.  Steps are taken in the order
of their numbers; steps with one number keep the order they were written in.
-/

import Errand.Json.Layout
import Errand.Text.Blank

namespace Errand

open Json (Value)

/-- One unit of work. -/
structure Step where
  stepNumber : Nat
  description : String := ""
  targetName : String
  /-- The parameter template; it may hold placeholders. -/
  rawParameters : Option String := none
  outputVariable : Option String := none
deriving DecidableEq, Repr

/-- An ordered, possibly blocked set of steps. -/
structure Plan where
  isExecutable : Bool := true
  /-- Why the plan cannot be carried out. -/
  executionBlocker : Option String := none
  summary : Option String := none
  steps : List Step := []
deriving DecidableEq, Repr

/-- Parameters as a template: null is none, a text is itself, and any other value
is its compact form. -/
def templateOf : Value → Option String
  | .null => none
  | v => some v.render

namespace Step

/-- How a step is laid out as JSON. -/
def layout {D : Type → Type} (s : Json.Source D) : D Step :=
  s.map (fun (n, d, t, p, o, ()) => ⟨n, d, t, p, o⟩) <| s.record "Step" <|
    .cons (.required "stepNumber" s.nat32 ["step_number"]) <|
    .cons (.withDefault "description" "" s.text) <|
    .cons (.required "targetName" s.text ["target_name", "target", "tool"]) <|
    .cons (.withDefault "rawParameters" none (s.map templateOf s.any)
      ["raw_parameters", "parameters"]) <|
    .cons (.withDefault "outputVariable" none (s.optional s.text) ["output_variable"]) <|
    .nil

/-- A step as JSON. -/
def toJson (s : Step) : Value :=
  .ofPairs [("stepNumber", .ofNat s.stepNumber), ("description", .string s.description),
    ("targetName", .string s.targetName), ("rawParameters", .ofOption .string s.rawParameters),
    ("outputVariable", .ofOption .string s.outputVariable)]

end Step

namespace Plan

/-- How a plan is laid out as JSON. -/
def layout {D : Type → Type} (s : Json.Source D) : D Plan :=
  s.map (fun (e, b, m, t, ()) => ⟨e, b, m, t⟩) <| s.record "Plan" <|
    .cons (.withDefault "isExecutable" true s.bool ["is_executable"]) <|
    .cons (.withDefault "executionBlocker" none (s.optional s.text) ["execution_blocker"]) <|
    .cons (.withDefault "summary" none (s.optional s.text)) <|
    .cons (.withDefault "steps" [] (s.list (Step.layout s))) <|
    .nil

/-- The plan a value spells. -/
def ofJson : Json.FromValue Plan := layout .value

/-- The plan a text spells. -/
def ofText (text : String) : Except Json.Snag Plan :=
  Json.readWhole (layout .document Json.maxDepth) text.toList

/-- A plan as JSON. -/
def toJson (p : Plan) : Value :=
  .ofPairs [("isExecutable", .bool p.isExecutable),
    ("executionBlocker", .ofOption .string p.executionBlocker),
    ("summary", .ofOption .string p.summary), ("steps", .array (p.steps.map Step.toJson))]

/-- A plan that can be carried out. -/
def executable (steps : List Step) : Plan := { steps }

/-- A plan that cannot. -/
def blocked (reason : String) : Plan := { isExecutable := false, executionBlocker := some reason }

/-- The steps in the order they are taken. -/
def orderedSteps (p : Plan) : List Step :=
  p.steps.mergeSort fun a b => a.stepNumber ≤ b.stepNumber

/-- The trimmed blocker, unless there is none or it is blank. -/
def blocker? (p : Plan) : Option String := p.executionBlocker.bind Text.trimmed?

/-- Why the plan cannot be carried out, in words. -/
def blockerText (p : Plan) : String := p.blocker?.getD "plan is not executable"

/-- What is wrong with a plan. -/
inductive Violation where
  | missingBlocker
  | duplicateStep (number : Nat)
deriving DecidableEq, Repr

/-- A violation in words. -/
def Violation.message : Violation → String
  | .missingBlocker => "non-executable plan must carry an execution blocker"
  | .duplicateStep n => "duplicate step number " ++ .ofList (Json.decimalChars n)

/-- A violation for every step whose number was seen before. -/
def duplicatesFrom (seen : List Nat) : List Step → List Violation
  | [] => []
  | s :: r =>
    if seen.contains s.stepNumber then .duplicateStep s.stepNumber :: duplicatesFrom seen r
    else duplicatesFrom (s.stepNumber :: seen) r

/-- What is wrong with the plan: a plan that cannot be carried out must say why,
and no two steps may share a number. -/
def violations (p : Plan) : List Violation :=
  (if !p.isExecutable && p.blocker?.isNone then [.missingBlocker] else []) ++
    duplicatesFrom [] p.steps

end Plan
end Errand

/-
# Actions

SPEC_FULL.md, sections 3 (Action) and 4.5.

An action is what a model asks for next: to run a tool, to run a model function,
or to finish.
-/

import Errand.Plan
import Errand.Text.Case

namespace Errand

open Json (Value)

/-- What an action asks for. -/
inductive ActionKind where
  | tool
  | function
  | finish
deriving DecidableEq, Repr

namespace ActionKind

/-- The kinds by name. -/
def names : List (String × ActionKind) :=
  [("tool", .tool), ("function", .function), ("finish", .finish)]

/-- The name of a kind. -/
def name : ActionKind → String
  | .tool => "tool"
  | .function => "function"
  | .finish => "finish"

/-- The words that models use for the kinds. -/
def words : List (String × ActionKind) :=
  [("tool", .tool), ("tool_call", .tool), ("call_tool", .tool), ("function", .function),
    ("model_function", .function), ("llm", .function), ("ai_function", .function),
    ("finish", .finish), ("final", .finish), ("final_answer", .finish), ("done", .finish),
    ("stop", .finish)]

/-- The kind a word means, whatever the case of its ASCII letters and the blanks
around it. -/
def ofWord? (text : String) : Option ActionKind :=
  (words.find? (·.1 == Text.lowerAscii (Text.trim text))).map (·.2)

/-- The kind a value spells. -/
def ofJson : Json.FromValue ActionKind := Json.FromValue.variant names

end ActionKind

/-- A tool or function call with its parameters, or a finish. -/
structure Action where
  kind : ActionKind
  name : String
  parameters : Option Value
  outputVariable : Option String
deriving DecidableEq

namespace Action

/-- The bare finish. -/
def finish : Action := ⟨.finish, "", none, none⟩

/-- The action a value spells. -/
def ofJson : Json.FromValue Action :=
  let s := Json.Source.value
  s.map (fun (k, n, p, o, ()) => ⟨k, n, p, o⟩) <| s.record "Action" <|
    .cons (.required "type" ActionKind.ofJson) <|
    .cons (.required "name" s.text) <|
    .cons (.withDefault "parameters" none (s.optional s.any)) <|
    .cons (.withDefault "output_variable" none (s.optional s.text)) <|
    .nil

/-- The members of a written action in the order of its fields; absent ones are
left out. -/
def fields (a : Action) : List (String × Value) :=
  [("type", .string a.kind.name), ("name", .string a.name)] ++
    (a.parameters.map fun p => ("parameters", p)).toList ++
    (a.outputVariable.map fun o => ("output_variable", Value.string o)).toList

/-- An action as JSON. -/
def toJson (a : Action) : Value := .ofPairs a.fields

/-- An action with its members in the order of its fields. -/
def written (a : Action) : Value := .object a.fields

/-- The action as a plan step. -/
def toStep (a : Action) (stepNumber : Nat) (description : String) : Step where
  stepNumber
  description
  targetName := a.name
  rawParameters := a.parameters.bind templateOf
  outputVariable := a.outputVariable

end Action
end Errand

/-
# Roles of model functions

SPEC_FULL.md, section 4.1 (Executable Resolver), on names of roles.

A model function does one of seven jobs.  Functions are addressed by role, and a
role's name may be spelt with any case, low lines, hyphens and blanks.
-/

import Errand.Json.Layout
import Errand.Text.Case

namespace Errand

/-- The job that a model function does. -/
inductive Role where
  | planner
  | actionPlanner
  | reasoner
  | completionChecker
  | summarizer
  | parameterGenerator
  | textTransformer
deriving DecidableEq, Repr, Inhabited

namespace Role

/-- All roles, in order. -/
def all : List Role :=
  [.planner, .actionPlanner, .reasoner, .completionChecker, .summarizer, .parameterGenerator,
    .textTransformer]

/-- The name of a role. -/
def name : Role → String
  | .planner => "planner"
  | .actionPlanner => "action_planner"
  | .reasoner => "reasoner"
  | .completionChecker => "completion_checker"
  | .summarizer => "summarizer"
  | .parameterGenerator => "parameter_generator"
  | .textTransformer => "text_transformer"

/-- The name of a role in capitals and without low lines. -/
def title : Role → String
  | .planner => "Planner"
  | .actionPlanner => "ActionPlanner"
  | .reasoner => "Reasoner"
  | .completionChecker => "CompletionChecker"
  | .summarizer => "Summarizer"
  | .parameterGenerator => "ParameterGenerator"
  | .textTransformer => "TextTransformer"

/-- What is compared of a spelling: its letters in lower case, joints left
out. -/
def key (spelling : String) : String :=
  .ofList ((spelling.toList.filter fun c => !(c == '_' || c == '-' || c == ' ')).flatMap
    Text.lowerChar)

/-- The roles by what is compared of their spellings. -/
def keys : List (String × Role) :=
  [("planner", .planner), ("actionplanner", .actionPlanner), ("reasoner", .reasoner),
    ("completionchecker", .completionChecker), ("evaluator", .completionChecker),
    ("summarizer", .summarizer), ("parametergenerator", .parameterGenerator),
    ("texttransformer", .textTransformer)]

/-- The role that a name spells. -/
def ofName? (spelling : String) : Option Role := (keys.find? (·.1 == key spelling)).map (·.2)

/-- What is said of a name that spells no role. -/
def unknownMessage (spelling : String) : String := "unknown model function role: " ++ spelling

/-- The role a value spells, by its exact name. -/
def ofJson : Json.FromValue Role := Json.FromValue.variant (all.map fun r => (r.name, r))

end Role
end Errand

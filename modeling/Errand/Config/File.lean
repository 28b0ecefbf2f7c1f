/-
# Configuration files

SPEC_FULL.md, section 10.3 (Configuration).

A configuration is kept in a TOML file.  Without a file it is the default.  What is
read or written must be free of flaws.
-/

import Errand.Config
import Errand.Fault
import Errand.Toml.Layout
import Errand.Toml.Printer
import Errand.Toml.Reader

namespace Errand

/-- A number in single precision as TOML. -/
def singleToToml : Number.Single → Toml.Value
  | .finite x => .real (Number.Single.spelled x)
  | .infinite negative => .infinite negative
  | .undefined => .undefined

/-- Texts as TOML. -/
def textsToToml (ts : List String) : Toml.Value := .array (ts.map .text)

/-- A natural number as TOML. -/
def natToToml (n : Nat) : Toml.Value := .integer n

namespace Config

/-- The configuration that a TOML document spells. -/
def ofToml? (text : String) : Option Config := (Toml.parse? text).bind (layout Toml.source)

/-- Function settings as TOML, without those that are not given. -/
def functionToToml (f : FunctionSettings) : Toml.Value :=
  .table ([("model", f.model.map Toml.Value.text),
      ("temperature", f.temperature.map singleToToml),
      ("max_tokens", f.maxTokens.map natToToml),
      ("prompt_budget_bytes", some (natToToml f.promptBudgetBytes))].filterMap
    fun (k, v?) => v?.map (k, ·))

/-- A configuration as TOML, unless there is a null among its ambient
parameters. -/
def toToml? (c : Config) : Option Toml.Value :=
  (Toml.entriesOfJson? c.ambientParameters).map fun ambient =>
    .table [
      ("plan_execute", .table [("max_iterations", natToToml c.planExecute.maxIterations),
        ("heuristic_success_threshold", natToToml c.planExecute.heuristicSuccessThreshold)]),
      ("react", .table [("max_iterations", natToToml c.react.maxIterations),
        ("goal_check_min_cycles", natToToml c.react.goalCheckMinCycles),
        ("goal_keywords", textsToToml c.react.goalKeywords)]),
      ("circuit_breaker", .table [("failure_threshold", natToToml c.breaker.failureThreshold),
        ("open_timeout_ms", natToToml c.breaker.openTimeoutMs)]),
      ("binding", .table [("content_properties", textsToToml c.rules.contentProperties),
        ("array_properties", textsToToml c.rules.arrayProperties)]),
      ("function", functionToToml c.function),
      ("ambient_parameters", .table ambient)]

/-- A configuration that has no flaw. -/
def sound (c : Config) : Except Fault Config :=
  match c.flaw? with
  | some f => .error (.message f.message)
  | none => .ok c

/-- What stands at the place of a configuration file. -/
inductive Stored where
  | missing
  | folder
  | file (text : String)

/-- Read the configuration at a path.  Of an unreadable one only the path is
told. -/
def load (path : String) : Stored → Except Fault Config
  | .missing => sound {}
  | .folder => .error (.message ("read " ++ path))
  | .file text =>
    match ofToml? text with
    | some c => c.sound
    | none => .error (.message ("parse " ++ path))

/-- The text of a configuration's file. -/
def fileText (c : Config) : Except Fault String :=
  match c.sound with
  | .error f => .error f
  | .ok c =>
    match c.toToml? with
    | some v => .ok (v.document ++ "\n")
    | none => .error (.message "serialize config toml")

end Config
end Errand

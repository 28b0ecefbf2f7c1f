/-
# Configuration of a run

SPEC_FULL.md, section 10.3 (Configuration).

Limits and phrases for the two strategies, the breaker policy, the names that
placeholders look for, the settings of prompted functions, and the ambient
parameters that every function call of a plan step receives.  Every field has a
default.
-/

import Errand.Breaker
import Errand.Goal
import Errand.Placeholder

namespace Errand

open Json (Value Members)

/-- Limits of planning and executing. -/
structure PlanExecuteConfig where
  maxIterations : Nat := 10
  /-- Successful actions that count as complete when nobody checks. -/
  heuristicSuccessThreshold : Nat := 3
deriving DecidableEq, Repr

/-- Limits of reasoning and acting. -/
structure ReactConfig where
  maxIterations : Nat := 10
  /-- The first cycle after which the goal is checked. -/
  goalCheckMinCycles : Nat := 2
  goalKeywords : List String := Goal.defaultKeywords
deriving DecidableEq, Repr

/-- Settings of functions that prompt a backend. -/
structure FunctionSettings where
  model : Option String := none
  temperature : Option Number.Single := none
  maxTokens : Option Nat := none
  /-- Prompts beyond this many bytes lose droppable sections. -/
  promptBudgetBytes : Nat := 32000
deriving DecidableEq, Repr

/-- When breakers open, and for how many milliseconds. -/
structure BreakerConfig where
  failureThreshold : Nat := 3
  openTimeoutMs : Nat := 60000
deriving DecidableEq, Repr

/-- The policy that is configured. -/
def BreakerConfig.policy (c : BreakerConfig) : BreakerPolicy where
  failureThreshold := c.failureThreshold
  openTimeout := ofMillis c.openTimeoutMs

example : ({} : BreakerConfig).policy = {} := rfl

/-- The whole configuration. -/
structure Config where
  planExecute : PlanExecuteConfig := {}
  react : ReactConfig := {}
  breaker : BreakerConfig := {}
  rules : SubstitutionRules := {}
  function : FunctionSettings := {}
  ambientParameters : Members := []
deriving DecidableEq

namespace PlanExecuteConfig

/-- How the limits are laid out. -/
def layout {D : Type → Type} (s : Json.Source D) : D PlanExecuteConfig :=
  let d : PlanExecuteConfig := {}
  s.map (fun (m, h, ()) => ⟨m, h⟩) <| s.record "PlanExecuteConfig" <|
    .cons (.withDefault "max_iterations" d.maxIterations s.nat32) <|
    .cons (.withDefault "heuristic_success_threshold" d.heuristicSuccessThreshold s.size) <|
    .nil

end PlanExecuteConfig

namespace ReactConfig

/-- How the limits are laid out. -/
def layout {D : Type → Type} (s : Json.Source D) : D ReactConfig :=
  let d : ReactConfig := {}
  s.map (fun (m, g, k, ()) => ⟨m, g, k⟩) <| s.record "ReactConfig" <|
    .cons (.withDefault "max_iterations" d.maxIterations s.nat32) <|
    .cons (.withDefault "goal_check_min_cycles" d.goalCheckMinCycles s.nat32) <|
    .cons (.withDefault "goal_keywords" d.goalKeywords (s.list s.text)) <|
    .nil

end ReactConfig

/-- How the configuration of breakers is laid out. -/
def BreakerConfig.layout {D : Type → Type} (s : Json.Source D) : D BreakerConfig :=
  let d : BreakerConfig := {}
  s.map (fun (t, o, ()) => ⟨t, o⟩) <| s.record "CircuitBreakerConfig" <|
    .cons (.withDefault "failure_threshold" d.failureThreshold s.nat32) <|
    .cons (.withDefault "open_timeout_ms" d.openTimeoutMs s.nat64) <|
    .nil

/-- How substitution rules are laid out. -/
def SubstitutionRules.layout {D : Type → Type} (s : Json.Source D) : D SubstitutionRules :=
  let d : SubstitutionRules := {}
  s.map (fun (c, a, ()) => ⟨c, a⟩) <| s.record "BindingConfig" <|
    .cons (.withDefault "content_properties" d.contentProperties (s.list s.text)) <|
    .cons (.withDefault "array_properties" d.arrayProperties (s.list s.text)) <|
    .nil

namespace FunctionSettings

/-- How function settings are laid out. -/
def layout {D : Type → Type} (s : Json.Source D) : D FunctionSettings :=
  let d : FunctionSettings := {}
  s.map (fun (m, t, k, b, ()) => ⟨m, t, k, b⟩) <| s.record "FunctionSettings" <|
    .cons (.withDefault "model" d.model (s.optional s.text)) <|
    .cons (.withDefault "temperature" d.temperature (s.optional s.single)) <|
    .cons (.withDefault "max_tokens" d.maxTokens (s.optional s.nat32)) <|
    .cons (.withDefault "prompt_budget_bytes" d.promptBudgetBytes s.size) <|
    .nil

end FunctionSettings

/-- A number in single precision as JSON, which has no infinities. -/
def singleToJson : Number.Single → Value
  | .finite x => .number (.real x)
  | .infinite _ | .undefined => .null

/-- Texts as a JSON array. -/
def textsToJson (ts : List String) : Value := .array (ts.map .string)

namespace Config

/-- How a configuration is laid out. -/
def layout {D : Type → Type} (s : Json.Source D) : D Config :=
  s.map (fun (p, r, c, b, f, a, ()) => ⟨p, r, c, b, f, a⟩) <| s.record "EngineConfig" <|
    .cons (.withDefault "plan_execute" {} (PlanExecuteConfig.layout s)) <|
    .cons (.withDefault "react" {} (ReactConfig.layout s)) <|
    .cons (.withDefault "circuit_breaker" {} (BreakerConfig.layout s)) <|
    .cons (.withDefault "binding" {} (SubstitutionRules.layout s)) <|
    .cons (.withDefault "function" {} (FunctionSettings.layout s)) <|
    .cons (.withDefault "ambient_parameters" [] s.members) <|
    .nil

/-- The configuration a value spells. -/
def ofJson : Json.FromValue Config := layout .value

/-- A configuration as JSON. -/
def toJson (c : Config) : Value :=
  .ofPairs [
    ("plan_execute", .ofPairs [("max_iterations", .ofNat c.planExecute.maxIterations),
      ("heuristic_success_threshold", .ofNat c.planExecute.heuristicSuccessThreshold)]),
    ("react", .ofPairs [("max_iterations", .ofNat c.react.maxIterations),
      ("goal_check_min_cycles", .ofNat c.react.goalCheckMinCycles),
      ("goal_keywords", textsToJson c.react.goalKeywords)]),
    ("circuit_breaker", .ofPairs [("failure_threshold", .ofNat c.breaker.failureThreshold),
      ("open_timeout_ms", .ofNat c.breaker.openTimeoutMs)]),
    ("binding", .ofPairs [("content_properties", textsToJson c.rules.contentProperties),
      ("array_properties", textsToJson c.rules.arrayProperties)]),
    ("function", .ofPairs [("model", .ofOption .string c.function.model),
      ("temperature", .ofOption singleToJson c.function.temperature),
      ("max_tokens", .ofOption .ofNat c.function.maxTokens),
      ("prompt_budget_bytes", .ofNat c.function.promptBudgetBytes)]),
    ("ambient_parameters", .object c.ambientParameters)]

/-- What is wrong with a configuration. -/
inductive Flaw where
  | noPlanIterations
  | noReactIterations
  | noFailureThreshold
  | noPromptBudget
  | temperatureOutOfRange
  | blankPropertyName
deriving DecidableEq, Repr

/-- A flaw in words. -/
def Flaw.message : Flaw → String
  | .noPlanIterations => "plan_execute.max_iterations must be > 0"
  | .noReactIterations => "react.max_iterations must be > 0"
  | .noFailureThreshold => "circuit_breaker.failure_threshold must be > 0"
  | .noPromptBudget => "function.prompt_budget_bytes must be > 0"
  | .temperatureOutOfRange => "function.temperature must be within 0.0..=2.0"
  | .blankPropertyName => "binding property names must be non-empty"

/-- The first flaw of a configuration. -/
def flaw? (c : Config) : Option Flaw :=
  if c.planExecute.maxIterations = 0 then some .noPlanIterations
  else if c.react.maxIterations = 0 then some .noReactIterations
  else if c.breaker.failureThreshold = 0 then some .noFailureThreshold
  else if c.function.promptBudgetBytes = 0 then some .noPromptBudget
  else if !c.function.temperature.all (·.isWithin 2) then some .temperatureOutOfRange
  else if c.rules.contentProperties.any Text.isBlankText ||
      c.rules.arrayProperties.any Text.isBlankText then some .blankPropertyName
  else none

end Config
end Errand

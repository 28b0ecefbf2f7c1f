/-
# Outcomes

SPEC_FULL.md, section 3 (Data Model).

What is left of a step, of a plan and of a whole run.  Every outcome is plain
data, failures included; cancellation alone is not an outcome.
-/

import Errand.Action

namespace Errand

open Json (Value)

/-- An optional text as JSON. -/
def textOrNull : Option String → Value := Value.ofOption .string

/-- What became of one step. -/
structure StepResult where
  stepNumber : Nat
  description : String
  targetName : String
  isSuccess : Bool
  output : Option String
  errorMessage : Option String
  executionTimeMs : Nat
  outputVariable : Option String
  /-- The parameters that were sent to the target. -/
  boundParameters : Option String
deriving DecidableEq, Repr

namespace StepResult

/-- A step that worked. -/
def success (s : Step) (output : Option String) : StepResult :=
  ⟨s.stepNumber, s.description, s.targetName, true, output, none, 0, s.outputVariable, none⟩

/-- A step that did not. -/
def failure (s : Step) (error : String) : StepResult :=
  ⟨s.stepNumber, s.description, s.targetName, false, none, some error, 0, s.outputVariable, none⟩

/-- Why the step failed, in words; a silent failure gets words of its own. -/
def errorText (r : StepResult) : String :=
  match r.errorMessage with
  | some m => if Text.isBlankText m then "step reported failure" else m
  | none => "step reported failure"

/-- The step result a value spells. -/
def ofJson : Json.FromValue StepResult :=
  let s := Json.Source.value
  let words := s.optional s.text
  s.map (fun (n, d, t, i, o, e, m, v, b, ()) => ⟨n, d, t, i, o, e, m, v, b⟩) <|
    s.record "StepExecutionResult" <|
    .cons (.required "stepNumber" s.nat32) <|
    .cons (.required "description" s.text) <|
    .cons (.required "targetName" s.text) <|
    .cons (.required "isSuccess" s.bool) <|
    .cons (.optional "output" words) <|
    .cons (.optional "errorMessage" words) <|
    .cons (.required "executionTimeMs" s.nat64) <|
    .cons (.optional "outputVariable" words) <|
    .cons (.optional "boundParameters" words) <|
    .nil

/-- A step result as JSON. -/
def toJson (r : StepResult) : Value :=
  .ofPairs [("stepNumber", .ofNat r.stepNumber), ("description", .string r.description),
    ("targetName", .string r.targetName), ("isSuccess", .bool r.isSuccess),
    ("output", textOrNull r.output), ("errorMessage", textOrNull r.errorMessage),
    ("executionTimeMs", .ofNat r.executionTimeMs),
    ("outputVariable", textOrNull r.outputVariable),
    ("boundParameters", textOrNull r.boundParameters)]

end StepResult

/-- What became of one pass over a plan. -/
structure PlanResult where
  isSuccess : Bool
  steps : List StepResult
  errorMessage : Option String
  summary : Option String
  totalExecutionTimeMs : Nat
deriving DecidableEq, Repr

namespace PlanResult

/-- A pass that failed before its first step. -/
def failed (error : String) : PlanResult := ⟨false, [], some error, none, 0⟩

/-- The plan result a value spells. -/
def ofJson : Json.FromValue PlanResult :=
  let s := Json.Source.value
  s.map (fun (i, t, e, m, n, ()) => ⟨i, t, e, m, n⟩) <| s.record "ExecutionResult" <|
    .cons (.required "isSuccess" s.bool) <|
    .cons (.required "steps" (s.list StepResult.ofJson)) <|
    .cons (.optional "errorMessage" (s.optional s.text)) <|
    .cons (.optional "summary" (s.optional s.text)) <|
    .cons (.required "totalExecutionTimeMs" s.nat64) <|
    .nil

/-- A plan result as JSON. -/
def toJson (r : PlanResult) : Value :=
  .ofPairs [("isSuccess", .bool r.isSuccess), ("steps", .array (r.steps.map StepResult.toJson)),
    ("errorMessage", textOrNull r.errorMessage), ("summary", textOrNull r.summary),
    ("totalExecutionTimeMs", .ofNat r.totalExecutionTimeMs)]

end PlanResult

/-- One action that was carried out, and what became of it. -/
structure HistoryEntry where
  iteration : Nat
  action : Action
  isSuccess : Bool
  output : Option String
  errorMessage : Option String
  executionTimeMs : Nat
deriving DecidableEq

namespace HistoryEntry

/-- The history entry a value spells. -/
def ofJson : Json.FromValue HistoryEntry :=
  let s := Json.Source.value
  s.map (fun (i, a, b, o, e, m, ()) => ⟨i, a, b, o, e, m⟩) <| s.record "HistoryEntry" <|
    .cons (.required "iteration" s.nat32) <|
    .cons (.required "action" Action.ofJson) <|
    .cons (.required "is_success" s.bool) <|
    .cons (.optional "output" (s.optional s.text)) <|
    .cons (.optional "error_message" (s.optional s.text)) <|
    .cons (.required "execution_time_ms" s.nat64) <|
    .nil

/-- The members of a written entry, around a written action. -/
def fields (e : HistoryEntry) (action : Value) : List (String × Value) :=
  [("iteration", .ofNat e.iteration), ("action", action), ("is_success", .bool e.isSuccess),
    ("output", textOrNull e.output), ("error_message", textOrNull e.errorMessage),
    ("execution_time_ms", .ofNat e.executionTimeMs)]

/-- A history entry as JSON. -/
def toJson (e : HistoryEntry) : Value := .ofPairs (e.fields e.action.toJson)

/-- A history entry with its members in the order of its fields. -/
def written (e : HistoryEntry) : Value := .object (e.fields e.action.written)

end HistoryEntry

/-- One cycle of thinking, acting and observing. -/
structure Cycle where
  iteration : Nat
  thought : String
  action : Action
  observation : String
deriving DecidableEq

namespace Cycle

/-- The cycle a value spells. -/
def ofJson : Json.FromValue Cycle :=
  let s := Json.Source.value
  s.map (fun (i, t, a, o, ()) => ⟨i, t, a, o⟩) <| s.record "ReactRecord" <|
    .cons (.required "iteration" s.nat32) <|
    .cons (.required "thought" s.text) <|
    .cons (.required "action" Action.ofJson) <|
    .cons (.required "observation" s.text) <|
    .nil

/-- The members of a written cycle, around a written action. -/
def fields (c : Cycle) (action : Value) : List (String × Value) :=
  [("iteration", .ofNat c.iteration), ("thought", .string c.thought), ("action", action),
    ("observation", .string c.observation)]

/-- A cycle as JSON. -/
def toJson (c : Cycle) : Value := .ofPairs (c.fields c.action.toJson)

/-- A cycle with its members in the order of its fields. -/
def written (c : Cycle) : Value := .object (c.fields c.action.written)

end Cycle

/-- Why a run stopped. -/
inductive StopReason where
  | goalAchieved
  | finished
  | maxIterationsExceeded (maxIterations : Nat)
  | blocked (reason : String)
  | failed (error : String)
deriving DecidableEq, Repr

namespace StopReason

/-- Whether the run stopped short of what it was to do. -/
def isError : StopReason → Bool
  | .goalAchieved | .finished => false
  | .maxIterationsExceeded _ | .blocked _ | .failed _ => true

/-- What went wrong, in words. -/
def errorMessage : StopReason → Option String
  | .goalAchieved | .finished => none
  | .maxIterationsExceeded n =>
    some ("maximum iterations exceeded (" ++ .ofList (Json.decimalChars n) ++ ")")
  | .blocked reason => some reason
  | .failed error => some error

/-- The tags of the stop reasons. -/
def kinds : List String :=
  ["goal_achieved", "finished", "max_iterations_exceeded", "blocked", "failed"]

/-- A stop reason as JSON, its tag under `kind`. -/
def toJson : StopReason → Value
  | .goalAchieved => .ofPairs [("kind", .string "goal_achieved")]
  | .finished => .ofPairs [("kind", .string "finished")]
  | .maxIterationsExceeded n =>
    .ofPairs [("kind", .string "max_iterations_exceeded"), ("max_iterations", .ofNat n)]
  | .blocked r => .ofPairs [("kind", .string "blocked"), ("reason", .string r)]
  | .failed e => .ofPairs [("kind", .string "failed"), ("error", .string e)]

/-- The tag a value spells. -/
def kindOf : Json.FromValue String
  | .string k => if kinds.contains k then .ok k else .error (.unknownVariant k kinds)
  | v => .error (.wrongType v.found "variant identifier")

/-- How many elements a sequence should have had. -/
def sequenceLength (n : Nat) : String :=
  .ofList (Json.decimalChars n) ++
    (if n = 1 then " element in sequence" else " elements in sequence")

/-- The content of a stop reason that holds one field, from the members or the
elements beside the tag. -/
def contentOf {α : Type} (variant field : String) (d : Json.FromValue α) :
    Json.Members ⊕ List Value → Except Json.Mismatch α
  | .inl ms =>
    match Json.Members.find? field ms with
    | some v => d v
    | none => .error (.missingField field)
  | .inr [] =>
    .error (.wrongLength 0 ("struct variant StopReason::" ++ variant ++ " with 1 element"))
  | .inr (v :: r) =>
    match d v with
    | .error e => .error e
    | .ok a =>
      if r.isEmpty then .ok a else .error (.wrongLength (r.length + 1) (sequenceLength 1))

/-- A stop reason without content. -/
def bare (s : StopReason) : Json.Members ⊕ List Value → Except Json.Mismatch StopReason
  | .inl _ | .inr [] => .ok s
  | .inr r => .error (.wrongLength r.length (sequenceLength 0))

/-- The stop reason with a tag. -/
def ofKind (kind : String) (content : Json.Members ⊕ List Value) :
    Except Json.Mismatch StopReason :=
  if kind = "goal_achieved" then bare .goalAchieved content
  else if kind = "finished" then bare .finished content
  else if kind = "max_iterations_exceeded" then
    (contentOf "MaxIterationsExceeded" "max_iterations" Json.Source.value.nat32 content).map
      .maxIterationsExceeded
  else if kind = "blocked" then
    (contentOf "Blocked" "reason" Json.FromValue.text content).map .blocked
  else (contentOf "Failed" "error" Json.FromValue.text content).map .failed

/-- The stop reason a value spells. -/
def ofJson : Json.FromValue StopReason
  | .object ms =>
    match Json.Members.find? "kind" ms with
    | none => .error (.missingField "kind")
    | some k => (kindOf k).bind (ofKind · (.inl (Json.Members.erase "kind" ms)))
  | .array [] => .error (.missingField "kind")
  | .array (k :: r) => (kindOf k).bind (ofKind · (.inr r))
  | v => .error (.wrongType v.found "internally tagged enum StopReason")

end StopReason

/-- What became of a goal-driven run. -/
structure RunOutcome where
  isSuccess : Bool
  isComplete : Bool
  iterations : Nat
  stop : StopReason
  errorMessage : Option String
  finalAnswer : Option String
  history : List HistoryEntry
  cycles : List Cycle
  bindings : Value
  sharedData : Value
deriving DecidableEq

namespace RunOutcome

/-- The run outcome a value spells. -/
def ofJson : Json.FromValue RunOutcome :=
  let s := Json.Source.value
  s.map (fun (a, b, c, d, e, f, g, h, i, j, ()) => ⟨a, b, c, d, e, f, g, h, i, j⟩) <|
    s.record "StrategyOutcome" <|
    .cons (.required "is_success" s.bool) <|
    .cons (.required "is_complete" s.bool) <|
    .cons (.required "iterations" s.nat32) <|
    .cons (.required "stop" StopReason.ofJson) <|
    .cons (.optional "error_message" (s.optional s.text)) <|
    .cons (.optional "final_answer" (s.optional s.text)) <|
    .cons (.required "history" (s.list HistoryEntry.ofJson)) <|
    .cons (.required "records" (s.list Cycle.ofJson)) <|
    .cons (.required "bindings" s.any) <|
    .cons (.required "shared_data" s.any) <|
    .nil

/-- A run outcome as JSON. -/
def toJson (o : RunOutcome) : Value :=
  .ofPairs [("is_success", .bool o.isSuccess), ("is_complete", .bool o.isComplete),
    ("iterations", .ofNat o.iterations), ("stop", o.stop.toJson),
    ("error_message", textOrNull o.errorMessage), ("final_answer", textOrNull o.finalAnswer),
    ("history", .array (o.history.map HistoryEntry.toJson)),
    ("records", .array (o.cycles.map Cycle.toJson)), ("bindings", o.bindings),
    ("shared_data", o.sharedData)]

end RunOutcome
end Errand

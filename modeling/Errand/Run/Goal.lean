/-
# Running towards a goal

SPEC_FULL.md, section 4.5 (Iteration Strategies), what both share.

What the two strategies share: the progress of a run, calls of a role, and the
outcome in the end.
-/

import Errand.Config
import Errand.Run.Plan

namespace Errand

open Json (Value Members)

/-- How far a goal-driven run has come. -/
structure Progress where
  iterations : Nat := 0
  isComplete : Bool := false
  shared : Members := []
  history : List HistoryEntry := []
  cycles : List Cycle := []

/-- The outcome of a run that stops here. -/
def Progress.outcome (p : Progress) (stop : StopReason) (finalAnswer : Option String)
    (b : Bindings) : RunOutcome where
  isSuccess := !stop.isError
  isComplete := p.isComplete
  iterations := p.iterations
  stop
  errorMessage := stop.errorMessage
  finalAnswer
  history := p.history
  cycles := p.cycles
  bindings := b.snapshot
  sharedData := .object p.shared

/-- What comes of asking whoever does the job of a role. -/
inductive RoleReply where
  | missing
  | failed (error : String)
  | done (output : FunctionOutput)

/-- The reply that an output makes. -/
def RoleReply.ofOutput (role : Role) (o : FunctionOutput) : RoleReply :=
  if o.isSuccess then .done o else .failed (o.errorMessage.getD (role.name ++ " reported failure"))

/-- The output of a reply, if there is one. -/
def RoleReply.output? : RoleReply → Option FunctionOutput
  | .done o => some o
  | .missing | .failed _ => none

/-- Records as prompt material: nothing for none, else pretty JSON. -/
def historyText (records : List Value) : String :=
  if records.isEmpty then "" else (Value.array records).pretty

/-- A run's setting under a configuration. -/
def Config.setting (c : Config) (dialect : Schema.Dialect) (goal : String) (wantsChunks : Bool) :
    Setting where
  goal
  dialect
  rules := c.rules
  ambient := c.ambientParameters
  wantsChunks

variable {σ : Type}

/-- Ask whoever does the job of a role. -/
def callRole (role : Role) (i : Invocation) : Run σ RoleReply := do
  match ← Run.lookupFunction role with
  | none => return .missing
  | some f =>
    match ← Run.ask (.execute role i) (f.execute i) with
    | .ok o => return .ofOutput role o
    | .error e => return .failed e.text

/-- The catalog of targets as prompt material. -/
def catalogText : Run σ String := do return (← Run.get).registry.catalog.render

end Errand

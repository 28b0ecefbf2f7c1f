/-
# Binding parameters

SPEC_FULL.md, section 4.2 (Parameter Binder).

Binding turns a step's parameter template into the parameters that are sent.
Placeholders are filled in, and for a tool the result is checked against its
contract.  If the check fails, the parameter generator is asked once for
parameters instead; without one, or if its parameters fail as well, binding
fails.  A failure to bind is data and carries no parameters.
-/

import Errand.Run.Basic

namespace Errand

open Json (Value Members)

/-- What came of binding. -/
inductive BindOutcome where
  | bound (parameters : Option String)
  | failed (error : String)
deriving DecidableEq

namespace BindOutcome

/-- The error of a failed binding. -/
def error? : BindOutcome → Option String
  | .bound _ => none
  | .failed e => some e

/-- The parameters of a binding that worked. -/
def parameters? : BindOutcome → Option String
  | .bound p => p
  | .failed _ => none

end BindOutcome

/-- The spellings of the field that holds generated parameters. -/
def generatedFields : List String := ["parameters", "params", "arguments"]

/-- The part of a structured reply that holds the parameters: its parameters
field, or the whole. -/
def generatedValue (parsed : Value) : Value :=
  ((parsed.members?.bind (Reply.field? generatedFields))).getD parsed

/-- The parameters in a generator's output, unless they are blank. -/
def generatedParameters? (o : FunctionOutput) : Option String :=
  ((o.parsed.bind fun v => templateOf (generatedValue v)).or o.rawResponse).bind Text.trimmed?

/-- What the generator is told. -/
def generatorInvocation (s : Setting) (toolName description : String) (reason : ParameterFault)
    (schema : Option Value) (b : Bindings) : Invocation :=
  ({ goal := s.goal } : Invocation)
    |>.withParameter "tool_name" (.string toolName)
    |>.withParameter "step_description" (.string description)
    |>.withParameter "validation_error" (.string reason.message)
    |>.withParameter "input_schema" (schema.getD .null)
    |>.withAuxiliary "bindings" b.snapshot.pretty

/-- What becomes of a generator's output. -/
def acceptGenerated (dialect : Schema.Dialect) (toolName : String) (contract : Contract)
    (o : FunctionOutput) : BindOutcome :=
  if !o.isSuccess then .failed (o.errorMessage.getD "parameter generation failed")
  else
    match generatedParameters? o with
    | none => .failed "parameter generator returned no parameters"
    | some text =>
      match contract.check dialect (some text) with
      | .ok () => .bound (some text)
      | .error reason =>
        .failed ("generated parameters are invalid for " ++ toolName ++ ": " ++ reason.message)

variable {σ : Type}

/-- Ask the generator for parameters that meet the contract. -/
def generateParameters (s : Setting) (tool : Tool σ) (description : String)
    (reason : ParameterFault) : Run σ BindOutcome := do
  match ← Run.lookupFunction .parameterGenerator with
  | none =>
    return .failed ("parameter validation failed for " ++ tool.name ++ ": " ++ reason.message)
  | some generator =>
    let b := (← Run.get).bindings
    let i := generatorInvocation s tool.name description reason tool.contract.inputSchema b
    match ← Run.ask (.execute .parameterGenerator i) (generator.execute i) with
    | .ok o => return acceptGenerated s.dialect tool.name tool.contract o
    | .error f => return .failed ("parameter generation failed: " ++ f.text)

/-- Bind a template's parameters for a tool, or for a function if there is no
tool. -/
def bindParameters (s : Setting) (tool? : Option (Tool σ)) (template : Option String)
    (description : String) : Run σ BindOutcome := do
  let b := (← Run.get).bindings
  let filled := template.map (Placeholder.substitute s.rules b)
  match tool? with
  | none => return .bound filled
  | some tool =>
    match tool.contract.check s.dialect filled with
    | .ok () => return .bound filled
    | .error reason => generateParameters s tool description reason

end Errand

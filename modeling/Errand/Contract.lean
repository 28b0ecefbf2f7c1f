/-
# Checking parameters against a contract

SPEC_FULL.md, section 4.2 (Parameter Binder), step 2.

Parameters travel as text.  Those of a tool that requires parameters must not be
blank, must be well-formed JSON if they look like JSON, and must satisfy the
tool's schema, as the dialect of the setting understands it.  A schema that is
itself not well formed is not enforced.
-/

import Errand.Schema.Dialect
import Errand.Tool

namespace Errand

open Json (Value)

/-- Why parameters do not meet a contract. -/
inductive ParameterFault where
  | missing
  | notJson (text : String) (snag : Json.Snag)
  | violation (errors : List String)

/-- How many errors of a validator are told at most. -/
def maxErrors : Nat := 3

/-- A parameter fault in words. -/
def ParameterFault.message : ParameterFault → String
  | .missing => "parameters are required"
  | .notJson t s => "parameters are not valid JSON: " ++ s.message t
  | .violation errors => "schema violation: " ++ String.intercalate "; " (errors.take maxErrors)

/-- Whether parameters look like JSON: they start with a brace or a bracket. -/
def looksLikeJson (text : String) : Bool :=
  text.toList.head? == some '{' || text.toList.head? == some '['

/-- The value that trimmed parameters stand for: what they spell if they look like
JSON, else the text itself. -/
def parameterValue (text : String) : Except ParameterFault Value :=
  if looksLikeJson text then
    match Json.parse text with
    | .ok v => .ok v
    | .error s => .error (.notJson text s)
  else .ok (.string text)

/-- Check a value against a schema, if it is one. -/
def checkSchema (dialect : Schema.Dialect) (schema v : Value) : Except ParameterFault Unit :=
  match dialect.validator? schema with
  | none => .ok ()
  | some validator =>
    if validator.isValid v then .ok () else .error (.violation (validator.errors v))

/-- Check parameters against a contract. -/
def Contract.check (dialect : Schema.Dialect) (c : Contract) (parameters : Option String) :
    Except ParameterFault Unit :=
  if !c.requiresParameters then .ok ()
  else
    match parameters.bind Text.trimmed? with
    | none => .error .missing
    | some text =>
      match parameterValue text with
      | .error e => .error e
      | .ok v =>
        match c.inputSchema with
        | none => .ok ()
        | some schema => checkSchema dialect schema v

end Errand

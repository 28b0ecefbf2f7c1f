/-
# Tools

SPEC_FULL.md, section 6 (`Tool`).

A tool is a named capability that takes a JSON value.  Its contract says whether
it needs parameters and of what form.
-/

import Errand.Outcome
import Errand.World

namespace Errand

open Json (Value)

/-- What a tool expects from its caller. -/
structure Contract where
  description : String := ""
  /-- When false, parameters are passed on unchecked. -/
  requiresParameters : Bool := false
  /-- The JSON Schema of the parameters, if the tool publishes one. -/
  inputSchema : Option Value := none
deriving DecidableEq

namespace Contract

/-- The contract a value spells. -/
def ofJson : Json.FromValue Contract :=
  let s := Json.Source.value
  s.map (fun (d, r, i, ()) => ⟨d, r, i⟩) <| s.record "ToolContract" <|
    .cons (.required "description" s.text) <|
    .cons (.required "requiresParameters" s.bool) <|
    .cons (.optional "inputSchema" (s.optional s.any)) <|
    .nil

/-- A contract as JSON. -/
def toJson (c : Contract) : Value :=
  .ofPairs [("description", .string c.description),
    ("requiresParameters", .bool c.requiresParameters),
    ("inputSchema", c.inputSchema.getD .null)]

end Contract

/-- What a tool reports of a call. -/
structure ToolOutput where
  isSuccess : Bool
  data : Option Value
  errorMessage : Option String
deriving DecidableEq

namespace ToolOutput

/-- A success with data. -/
def success (data : Value) : ToolOutput := ⟨true, some data, none⟩

/-- A success without data. -/
def empty : ToolOutput := ⟨true, none, none⟩

/-- A failure. -/
def failure (error : String) : ToolOutput := ⟨false, none, some error⟩

/-- The tool output a value spells. -/
def ofJson : Json.FromValue ToolOutput :=
  let s := Json.Source.value
  s.map (fun (i, d, e, ()) => ⟨i, d, e⟩) <| s.record "ToolOutput" <|
    .cons (.required "isSuccess" s.bool) <|
    .cons (.optional "data" (s.optional s.any)) <|
    .cons (.optional "errorMessage" (s.optional s.text)) <|
    .nil

/-- A tool output as JSON. -/
def toJson (o : ToolOutput) : Value :=
  .ofPairs [("isSuccess", .bool o.isSuccess), ("data", o.data.getD .null),
    ("errorMessage", textOrNull o.errorMessage)]

end ToolOutput

/-- A named capability.  A call may report a failure, or fail itself. -/
structure Tool (σ : Type) where
  name : String
  category : String := "general"
  contract : Contract := {}
  run : Value → Ask σ ToolOutput

end Errand

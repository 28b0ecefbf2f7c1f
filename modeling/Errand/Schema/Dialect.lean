/-
# Dialects of schemas

SPEC_FULL.md, section 4.2: parameters must validate against the schema of their tool.

What a schema says is not for the engine to know.  It hands every schema to a dialect,
which refuses what is no schema and makes of any other a validator: the verdict on a
value, and one line for each thing that is wrong with it.  Of a dialect nothing is
assumed here, not even that the verdict and the lines agree.
-/

import Errand.Json.Value

namespace Errand
namespace Schema

open Json (Value)

/-- A schema that is ready to judge values. -/
structure Validator where
  isValid : Value → Bool
  /-- What is wrong with a value, in the order in which it is found. -/
  errors : Value → List String

/-- What makes schemas ready. -/
structure Dialect where
  /-- The validator of a schema, if it is well formed. -/
  validator? : Value → Option Validator

end Schema
end Errand

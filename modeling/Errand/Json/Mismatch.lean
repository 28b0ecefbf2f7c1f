/-
# Values that do not fit a record

A mismatch says why a well-formed JSON value is not the record that was asked
for.  Its wording lives in `Mismatch.message`.
-/

import Errand.Json.Printer
import Errand.Text.Quoted

namespace Errand
namespace Json

/-- What stood where something else was expected. -/
inductive Found where
  | null
  | bool (b : Bool)
  | number (n : Number)
  | string (s : String)
  | sequence
  | map
deriving DecidableEq

/-- The kind of a value, with its content if it is a scalar. -/
def Value.found : Value → Found
  | .null => .null
  | .bool b => .bool b
  | .number n => .number n
  | .string s => .string s
  | .array _ => .sequence
  | .object _ => .map

/-- A find in words. -/
def Found.describe : Found → String
  | .null => "null"
  | .bool true => "boolean `true`"
  | .bool false => "boolean `false`"
  | .number (.int i) => "integer `" ++ .ofList (intChars i) ++ "`"
  | .number (.real x) => "floating point `" ++ .ofList (realChars x) ++ "`"
  | .string s => "string " ++ Text.quoted s
  | .sequence => "sequence"
  | .map => "map"

/-- Why a value is not the record that was asked for. -/
inductive Mismatch where
  | wrongType (found : Found) (expected : String)
  | wrongValue (found : Found) (expected : String)
  | wrongLength (length : Nat) (expected : String)
  | unknownVariant (name : String) (known : List String)
  | missingField (name : String)
  | duplicateField (name : String)
deriving DecidableEq

/-- Alternatives in words. -/
def oneOf : List String → String
  | [] => "nothing"
  | [a] => "`" ++ a ++ "`"
  | [a, b] => "`" ++ a ++ "` or `" ++ b ++ "`"
  | names => "one of " ++ String.intercalate ", " (names.map fun n => "`" ++ n ++ "`")

/-- A mismatch in words. -/
def Mismatch.message : Mismatch → String
  | .wrongType f e => "invalid type: " ++ f.describe ++ ", expected " ++ e
  | .wrongValue f e => "invalid value: " ++ f.describe ++ ", expected " ++ e
  | .wrongLength n e => "invalid length " ++ .ofList (decimalChars n) ++ ", expected " ++ e
  | .unknownVariant v known => "unknown variant `" ++ v ++ "`, expected " ++ oneOf known
  | .missingField n => "missing field `" ++ n ++ "`"
  | .duplicateField n => "duplicate field `" ++ n ++ "`"

end Json
end Errand

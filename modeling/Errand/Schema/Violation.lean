/-
# Violations of a schema

Why a value does not satisfy a schema, one constructor for each rule that can be
broken.  The wording is in `Violation.message`.
-/

import Errand.Json.Printer

namespace Errand
namespace Schema

open Json (Value)

/-- The types that a schema may ask for, in the order in which they are listed. -/
inductive TypeName where
  | array
  | boolean
  | integer
  | null
  | number
  | object
  | string
deriving DecidableEq, Repr

/-- All types with their names, in order. -/
def typeNames : List (String × TypeName) :=
  [("array", .array), ("boolean", .boolean), ("integer", .integer), ("null", .null),
    ("number", .number), ("object", .object), ("string", .string)]

/-- The name of a type. -/
def TypeName.name : TypeName → String
  | .array => "array"
  | .boolean => "boolean"
  | .integer => "integer"
  | .null => "null"
  | .number => "number"
  | .object => "object"
  | .string => "string"

/-- The ways in which a number can miss its bound. -/
inductive BoundRule where
  | least
  | greatest
  | above
  | below
deriving DecidableEq, Repr

/-- The sizes that a schema may bound. -/
inductive SizeRule where
  | characters
  | items
  | properties
deriving DecidableEq, Repr

/-- A broken rule; `v` is the value that breaks it. -/
inductive Violation where
  | type (v : Value) (expected : List TypeName)
  | required (name : String)
  | additional (names : List String)
  | enumerated (v : Value) (options : List Value)
  | constant (expected : Value)
  | bound (v : Value) (rule : BoundRule) (limit : Value)
  | multiple (v : Value) (of : Value)
  | tooFew (v : Value) (rule : SizeRule) (limit : Nat)
  | tooMany (v : Value) (rule : SizeRule) (limit : Nat)
  | pattern (v : Value) (pattern : String)
  | repeated (v : Value)
  | forbidden (v : Value) (schema : Value)
  | nothingAllowed (v : Value)
  | noneOfAny (v : Value)
  | noneOfOne (v : Value)
  | severalOfOne (v : Value)

/-- A limit with its unit, in the singular for one. -/
def counted (n : Nat) (singular plural : String) : String :=
  String.ofList (Json.decimalChars n) ++ " " ++ (if n = 1 then singular else plural)

/-- A size limit in words. -/
def SizeRule.limitText (n : Nat) : SizeRule → String
  | .characters => counted n "character" "characters"
  | .items => counted n "item" "items"
  | .properties => counted n "property" "properties"

/-- How a bound is missed, in words. -/
def BoundRule.words : BoundRule → String
  | .least => " is less than the minimum of "
  | .greatest => " is greater than the maximum of "
  | .above => " is less than or equal to the minimum of "
  | .below => " is greater than or equal to the maximum of "

/-- Options in words: all of up to three, else the first two and a count. -/
def optionsText (options : List Value) : String :=
  match options.map Value.compact with
  | [] => ""
  | [a] => a
  | [a, b] => a ++ " or " ++ b
  | [a, b, c] => a ++ ", " ++ b ++ " or " ++ c
  | a :: b :: r => a ++ ", " ++ b ++ " or " ++ .ofList (Json.decimalChars r.length) ++
    " other candidates"

/-- A name between single quotes. -/
def singleQuoted (n : String) : String := "'" ++ n ++ "'"

/-- How a value fits a keyword's schemas, in words. -/
def fitsSchemasOf (v : Value) (fit keyword : String) : String :=
  v.compact ++ " is " ++ fit ++ " of the schemas listed in the '" ++ keyword ++ "' keyword"

/-- A violation in words. -/
def Violation.message : Violation → String
  | .type v [t] => v.compact ++ " is not of type \"" ++ t.name ++ "\""
  | .type v ts => v.compact ++ " is not of types " ++
    String.intercalate ", " (ts.map fun t => "\"" ++ t.name ++ "\"")
  | .required n => (Value.string n).compact ++ " is a required property"
  | .additional [n] => "Additional properties are not allowed (" ++ singleQuoted n ++
    " was unexpected)"
  | .additional ns => "Additional properties are not allowed (" ++
    String.intercalate ", " (ns.map singleQuoted) ++ " were unexpected)"
  | .enumerated v options => v.compact ++ " is not one of " ++ optionsText options
  | .constant e => e.compact ++ " was expected"
  | .bound v rule limit => v.compact ++ rule.words ++ limit.compact
  | .multiple v m => v.compact ++ " is not a multiple of " ++ m.compact
  | .tooFew v .characters n => v.compact ++ " is shorter than " ++ SizeRule.limitText n .characters
  | .tooFew v rule n => v.compact ++ " has less than " ++ rule.limitText n
  | .tooMany v .characters n => v.compact ++ " is longer than " ++ SizeRule.limitText n .characters
  | .tooMany v rule n => v.compact ++ " has more than " ++ rule.limitText n
  | .pattern v p => v.compact ++ " does not match \"" ++ p ++ "\""
  | .repeated v => v.compact ++ " has non-unique elements"
  | .forbidden v schema => schema.compact ++ " is not allowed for " ++ v.compact
  | .nothingAllowed v => "False schema does not allow " ++ v.compact
  | .noneOfAny v => fitsSchemasOf v "not valid under any" "anyOf"
  | .noneOfOne v => fitsSchemasOf v "not valid under any" "oneOf"
  | .severalOfOne v => fitsSchemasOf v "valid under more than one" "oneOf"

end Schema
end Errand

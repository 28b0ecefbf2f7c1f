/-
# TOML values

A document is a table.  Numbers are integers or doubles, and of doubles there are
also the infinities and the undefined number.  A date or a time is a table with one
special key, under which its text stands.

A value corresponds to a JSON value, except that JSON has no number that is not
finite and no integer beyond 64 bits, and TOML has no null.
-/

import Errand.Json.Value

namespace Errand
namespace Toml

/-- A TOML value. -/
inductive Value where
  | bool (b : Bool)
  | integer (i : Int)
  | real (x : Number.Binary)
  | infinite (negative : Bool)
  | undefined
  | text (t : String)
  | array (items : List Value)
  | table (entries : List (String × Value))
deriving Inhabited

/-- The entries of a table. -/
abbrev Entries := List (String × Value)

/-- The key under which the text of a date or a time stands. -/
def momentKey : String := "$__toml_private_datetime"

/-- A date or a time. -/
def Value.moment (t : String) : Value := .table [(momentKey, .text t)]

/-- An integer as JSON, if it fits 64 bits. -/
def integerToJson? (i : Int) : Option Json.Value :=
  if -(Nat.pow 2 63 : Nat) ≤ i ∧ i < (Nat.pow 2 64 : Nat) then some (.number (.int i)) else none

mutual

/-- A value as JSON.  Numbers that are not finite become null. -/
def Value.toJson? : Value → Option Json.Value
  | .bool b => some (.bool b)
  | .integer i => integerToJson? i
  | .real x => some (.number (.real x))
  | .infinite _ | .undefined => some .null
  | .text t => some (.string t)
  | .array vs => (itemsToJson? vs).map .array
  | .table es => (entriesToJson? es).map .ofPairs

/-- Items as JSON. -/
def itemsToJson? : List Value → Option (List Json.Value)
  | [] => some []
  | v :: r =>
    match v.toJson?, itemsToJson? r with
    | some v, some r => some (v :: r)
    | _, _ => none

/-- Entries as JSON. -/
def entriesToJson? : Entries → Option (List (String × Json.Value))
  | [] => some []
  | (k, v) :: r =>
    match v.toJson?, entriesToJson? r with
    | some v, some r => some ((k, v) :: r)
    | _, _ => none

end

mutual

/-- A JSON value as TOML, unless there is a null in it. -/
def Value.ofJson? : Json.Value → Option Value
  | .null => none
  | .bool b => some (.bool b)
  | .number (.int i) => some (.integer i)
  | .number (.real x) => some (.real x)
  | .string t => some (.text t)
  | .array vs => (itemsOfJson? vs).map .array
  | .object ms => (entriesOfJson? ms).map .table

/-- Items from JSON. -/
def itemsOfJson? : List Json.Value → Option (List Value)
  | [] => some []
  | v :: r =>
    match Value.ofJson? v, itemsOfJson? r with
    | some v, some r => some (v :: r)
    | _, _ => none

/-- Entries from JSON. -/
def entriesOfJson? : List (String × Json.Value) → Option Entries
  | [] => some []
  | (k, v) :: r =>
    match Value.ofJson? v, entriesOfJson? r with
    | some v, some r => some ((k, v) :: r)
    | _, _ => none

end

end Toml
end Errand

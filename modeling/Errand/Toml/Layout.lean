/-
# Records laid out as TOML

A record is a table with an entry for each field, or an array of its fields in
order.  Nothing is said about why a value does not spell a record.
-/

import Errand.Json.Layout
import Errand.Toml.Value

namespace Errand
namespace Toml

/-- A decoder from TOML values. -/
abbrev FromToml (α : Type) := Value → Option α

namespace FromToml

/-- A boolean. -/
def bool : FromToml Bool
  | .bool b => some b
  | _ => none

/-- A text. -/
def text : FromToml String
  | .text t => some t
  | _ => none

/-- A natural number below a bound. -/
def natural (bound : Nat) : FromToml Nat
  | .integer i => if 0 ≤ i ∧ i < bound then some i.toNat else none
  | _ => none

/-- A number in single precision. -/
def single : FromToml Number.Single
  | .real x => some (.ofBinary x)
  | .infinite negative => some (.infinite negative)
  | .undefined => some .undefined
  | .integer i => (integerToJson? i).map fun _ => .ofInt i
  | _ => none

/-- The members that a table stands for. -/
def members : FromToml Json.Members
  | .table es => (entriesToJson? es).map .ofList
  | _ => none

/-- The items of an array. -/
def list {α : Type} (d : FromToml α) : FromToml (List α)
  | .array vs => vs.mapM d
  | _ => none

/-- Read one part of a record. -/
def part {β : Type} (d : FromToml β) (v : Value) : Except Unit (β × Value) :=
  match d v with
  | some b => .ok (b, v)
  | none => .error ()

/-- The next item of an array. -/
def nextItem {β : Type} (d : FromToml β) : List Value → Except Unit (Option β × List Value)
  | [] => .ok (none, [])
  | v :: r =>
    match d v with
    | some b => .ok (some b, r)
    | none => .error ()

/-- Offer the entries of a table to the fields, one after the other. -/
def offerAll {δ γ : Type} (fs : Json.Fields FromToml δ γ) : Entries → δ → Option δ
  | [], cells => some cells
  | (k, v) :: r, cells =>
    match fs.offer part (fun _ _ => ()) k cells v with
    | .error () => none
    | .ok none => offerAll fs r cells
    | .ok (some (cells, _)) => offerAll fs r cells

/-- A record, as a table or as an array, whose further items do not matter. -/
def record {δ γ : Type} (fs : Json.Fields FromToml δ γ) : FromToml γ
  | .table es => (offerAll fs es fs.blank).bind fun cells => (fs.finish cells).toOption
  | .array vs =>
    match fs.fill nextItem (fun _ _ => ()) 0 vs with
    | .ok (c, _) => some c
    | .error () => none
  | _ => none

end FromToml

/-- Reading records from TOML values. -/
def source : Json.Source FromToml where
  bool := FromToml.bool
  text := FromToml.text
  natural bound _ := FromToml.natural bound
  single := FromToml.single
  any := Value.toJson?
  members := FromToml.members
  optional d v := (d v).map some
  list := FromToml.list
  map f d v := (d v).map f
  record _ := FromToml.record

end Toml
end Errand

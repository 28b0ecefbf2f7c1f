/-
# Bindings: the variables of a run

SPEC_FULL.md, section 3 (Binding Context).

Completed steps leave their output under a name.  A set of bindings keeps its
names in ascending order, each once; the order is part of the type.  A bound
value is opaque: a plain text, structured JSON, or a text that happens to hold
JSON, which `Json.Value.asStructured?` uncovers.
-/

import Errand.Json.Layout
import Errand.Text.Blank

namespace Errand

namespace Json
namespace Value

/-- A value as structured JSON: an array or object as it is, and a text that
starts like one and spells JSON as what it spells. -/
def asStructured? : Value → Option Value
  | .array vs => some (.array vs)
  | .object ms => some (.object ms)
  | .string s =>
    match Text.trimChars s.toList with
    | '{' :: r => parseChars? ('{' :: r)
    | '[' :: r => parseChars? ('[' :: r)
    | _ => none
  | _ => none

end Value
end Json

open Json (Value Members)

/-- Values under names, the names in ascending order. -/
structure Bindings where
  entries : Members
  sorted : entries.Sorted

namespace Bindings

/-- Bindings with the same entries are the same. -/
@[ext] theorem ext {a b : Bindings} (h : a.entries = b.entries) : a = b := by
  cases a; cases b; simp_all

instance : DecidableEq Bindings := fun a b =>
  if h : a.entries = b.entries then .isTrue (Bindings.ext h)
  else .isFalse fun e => h (congrArg entries e)

/-- No bindings. -/
def empty : Bindings := ⟨[], List.Pairwise.nil⟩

instance : Inhabited Bindings := ⟨empty⟩

/-- The value under a name. -/
def get? (b : Bindings) (name : String) : Option Value := b.entries.find? name

/-- Whether a name is bound. -/
def contains (b : Bindings) (name : String) : Bool := (b.get? name).isSome

/-- Bind a value under a name, instead of any value it had. -/
def set (b : Bindings) (name : String) (value : Value) : Bindings :=
  ⟨b.entries.insert name value, b.sorted.insert name value⟩

/-- Forget a name. -/
def erase (b : Bindings) (name : String) : Bindings :=
  ⟨b.entries.erase name, b.sorted.filter _⟩

/-- How many names are bound. -/
def size (b : Bindings) : Nat := b.entries.length

/-- Whether no name is bound. -/
def isEmpty (b : Bindings) : Bool := b.entries.isEmpty

/-- Bindings from pairs in any order; of equal names the later wins. -/
def ofList (pairs : List (String × Value)) : Bindings :=
  pairs.foldl (fun b p => b.set p.1 p.2) empty

/-- All bindings as one JSON object. -/
def snapshot (b : Bindings) : Value := .object b.entries

/-- How bindings are laid out as JSON. -/
def layout {D : Type → Type} (s : Json.Source D) : D Bindings := s.map ofList s.members

/-- What was bound last under a name is found there. -/
@[simp] theorem get?_set_self (b : Bindings) (name : String) (value : Value) :
    (b.set name value).get? name = some value :=
  Members.find?_insert_self name value b.entries

/-- What is bound under other names stays. -/
theorem get?_set_of_ne (b : Bindings) {name other : String} (h : other ≠ name) (value : Value) :
    (b.set name value).get? other = b.get? other :=
  Members.find?_insert_of_ne h value b.entries

end Bindings
end Errand

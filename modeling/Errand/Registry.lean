/-
# The registry of tools and functions

SPEC_FULL.md, section 11.2 (Registry) and section 4.1 (Executable Resolver).

Tools are looked up by name, exactly or else ignoring the case of ASCII letters,
and functions by role.  Every lookup that finds something counts as a use of what
it found; listings count nothing.  Registering under a name or role again replaces
what was there and starts its count anew.

A step's target is a name: a tool if one has it, else the function whose role it
spells.
-/

import Errand.Function
import Errand.Tool
import Errand.Text.Quoted

namespace Errand

/-- Something registered, with the number of lookups that found it. -/
structure Entry (α : Type) where
  item : α
  uses : Nat := 0

/-- What a target name resolves to. -/
inductive Target (σ : Type) where
  | tool (t : Tool σ)
  | function (f : ModelFunction σ)

/-- The word for a target's kind. -/
def Target.kind {σ : Type} : Target σ → String
  | .tool _ => "tool"
  | .function _ => "function"

/-- The tool of a target, if it is one. -/
def Target.tool? {σ : Type} : Target σ → Option (Tool σ)
  | .tool t => some t
  | .function _ => none

/-- A target as it is shown to a maintainer. -/
def Target.describe {σ : Type} : Target σ → String
  | .tool t => "Tool(" ++ Text.quoted t.name ++ ")"
  | .function f => "ModelFunction(" ++ f.role.title ++ ")"

/-- A registered tool as planners see it. -/
structure ToolSummary where
  name : String
  category : String
  description : String
deriving DecidableEq, Repr

/-- Everything that may be named as a target: tools by name, roles in order. -/
structure Catalog where
  tools : List ToolSummary
  roles : List Role
deriving DecidableEq, Repr

namespace Catalog

/-- Whether nothing may be named. -/
def isEmpty (c : Catalog) : Bool := c.tools.isEmpty && c.roles.isEmpty

/-- A text between backticks. -/
def code (s : String) : String := "\x60" ++ s ++ "\x60"

/-- The line of a tool. -/
def toolLine (t : ToolSummary) : String :=
  "- " ++ code t.name ++ " (" ++ t.category ++ ")" ++
    ((Text.trimmed? t.description).map (": " ++ ·)).getD ""

/-- The lines of the catalog: tools under a heading, then roles under one. -/
def lines (c : Catalog) : List String :=
  (if c.tools.isEmpty then []
    else ("Tools (" ++ code "\"type\": \"tool\"" ++ "):") :: c.tools.map toolLine) ++
  (if c.roles.isEmpty then []
    else ("Model functions (" ++ code "\"type\": \"function\"" ++ "):") ::
      c.roles.map fun r => "- " ++ code r.name)

/-- The catalog as prompt material. -/
def render (c : Catalog) : String := String.intercalate "\n" c.lines

end Catalog

/-- The tools and functions that targets are resolved among. -/
structure Registry (σ : Type) where
  tools : List (Entry (Tool σ)) := []
  functions : List (Entry (ModelFunction σ)) := []

/-- Replace the entry that `same` holds of, or add one at the end. -/
def replaceOrAdd {α : Type} (same : α → Bool) (e : α) : List α → List α
  | [] => [e]
  | x :: r => if same x then e :: r else x :: replaceOrAdd same e r

/-- Count one more use of the first entry that `same` holds of. -/
def countUse {α : Type} (same : α → Bool) : List (Entry α) → List (Entry α)
  | [] => []
  | e :: r => if same e.item then { e with uses := e.uses + 1 } :: r else e :: countUse same r

namespace Registry

variable {σ : Type}

/-- Register a tool under its name. -/
def registerTool (r : Registry σ) (t : Tool σ) : Registry σ :=
  { r with tools := replaceOrAdd (·.item.name == t.name) { item := t } r.tools }

/-- Register a function under its role. -/
def registerFunction (r : Registry σ) (f : ModelFunction σ) : Registry σ :=
  { r with functions := replaceOrAdd (·.item.role == f.role) { item := f } r.functions }

/-- The tool that a name means, without counting. -/
def findTool? (r : Registry σ) (name : String) : Option (Tool σ) :=
  ((r.tools.find? (·.item.name == name)).or
    (r.tools.find? (Text.equalIgnoringCase ·.item.name name))).map (·.item)

/-- The function of a role, without counting. -/
def findFunction? (r : Registry σ) (role : Role) : Option (ModelFunction σ) :=
  (r.functions.find? (·.item.role == role)).map (·.item)

/-- Count a use of the tool with exactly this name. -/
def countTool (r : Registry σ) (name : String) : Registry σ :=
  { r with tools := countUse (·.name == name) r.tools }

/-- Count a use of the function of a role. -/
def countFunction (r : Registry σ) (role : Role) : Registry σ :=
  { r with functions := countUse (·.role == role) r.functions }

/-- Look a tool up. -/
def lookupTool (r : Registry σ) (name : String) : Option (Tool σ) × Registry σ :=
  match r.findTool? name with
  | some t => (some t, r.countTool t.name)
  | none => (none, r)

/-- Look a function up. -/
def lookupFunction (r : Registry σ) (role : Role) : Option (ModelFunction σ) × Registry σ :=
  match r.findFunction? role with
  | some f => (some f, r.countFunction role)
  | none => (none, r)

/-- Resolve a target name: blanks around it do not matter, a tool goes before a
function, and a blank name means nothing. -/
def resolve (r : Registry σ) (name : String) : Option (Target σ) × Registry σ :=
  match Text.trimmed? name with
  | none => (none, r)
  | some name =>
    match r.lookupTool name with
    | (some t, r) => (some (.tool t), r)
    | (none, r) =>
      match Role.ofName? name with
      | none => (none, r)
      | some role =>
        match r.lookupFunction role with
        | (some f, r) => (some (.function f), r)
        | (none, r) => (none, r)

/-- How many lookups found the tool with exactly this name. -/
def toolUses (r : Registry σ) (name : String) : Nat :=
  ((r.tools.find? (·.item.name == name)).map (·.uses)).getD 0

/-- How many lookups found the function of a role. -/
def functionUses (r : Registry σ) (role : Role) : Nat :=
  ((r.functions.find? (·.item.role == role)).map (·.uses)).getD 0

/-- The use count of a tool as it is told: a word of 64 bits, which starts over. -/
def toolUsage (r : Registry σ) (name : String) : UInt64 := .ofNat (r.toolUses name)

/-- The use count of a function as it is told: a word of 64 bits, which starts over. -/
def functionUsage (r : Registry σ) (role : Role) : UInt64 := .ofNat (r.functionUses role)

/-- The names of all tools, in order. -/
def toolNames (r : Registry σ) : List String :=
  (r.tools.map (·.item.name)).mergeSort fun a b => a ≤ b

/-- The roles of all functions, in order. -/
def roles (r : Registry σ) : List Role :=
  Role.all.filter fun role => (r.findFunction? role).isSome

/-- Everything that may be named as a target. -/
def catalog (r : Registry σ) : Catalog where
  tools := (r.tools.map fun e =>
    ⟨e.item.name, e.item.category, e.item.contract.description⟩).mergeSort fun a b =>
      a.name ≤ b.name
  roles := r.roles

end Registry
end Errand

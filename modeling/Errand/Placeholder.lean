/-
# Placeholders in parameter templates

SPEC_FULL.md, section 4.2 (Parameter Binder), step 1.

A template may name bound values: `{var}`, `{var.property}`, `{var[index]}` and
`{var.property[index]}`.  A template is cut into segments, plain characters and
placeholders, and substitution replaces each placeholder that resolves and keeps
everything else as it stands.  What is put in is never looked at again.

When the template looks like the body of a JSON object, what is put in is escaped
as the inside of a JSON string.
-/

import Errand.Binding
import Errand.Text.Case

namespace Errand

open Json (Value Members)

/-- A name in braces: a variable, perhaps a property of its value, perhaps the
place of an item. -/
structure Reference where
  name : String
  property : Option String
  index : Option Nat
deriving DecidableEq, Repr

/-- Where to look for content in an object: `contentProperties` for a bare
placeholder, `arrayProperties` for an indexed one.  Names match ignoring the case
of ASCII letters. -/
structure SubstitutionRules where
  contentProperties : List String := ["transformedText", "content", "output", "result", "data"]
  arrayProperties : List String := ["files", "items", "data", "results", "list"]
deriving DecidableEq, Repr

/-- The member of an object under a name: an exact match first, then the first
match ignoring the case of ASCII letters. -/
def Json.Members.findIgnoringCase? (name : String) (ms : Members) : Option Value :=
  match ms.find? name with
  | some v => some v
  | none => (List.find? (fun m => Text.equalIgnoringCase m.1 name) ms).map (·.2)

/-- The property of a value that is an object. -/
def Json.Value.property? (name : String) : Value → Option Value
  | .object ms => Members.findIgnoringCase? name ms
  | _ => none

namespace Placeholder

/-- The characters a name may start with. -/
def isNameStart (c : Char) : Bool := c.isAlpha || c == '_'

/-- The characters a name may go on with. -/
def isNameChar (c : Char) : Bool := c.isAlphanum || c == '_'

/-- A name and what follows it. -/
def name? : List Char → Option (String × List Char)
  | [] => none
  | c :: r =>
    if isNameStart c then some (.ofList (c :: r.takeWhile isNameChar), r.dropWhile isNameChar)
    else none

/-- The property part, if one stands here, and what follows it. -/
def property : List Char → Option String × List Char
  | '.' :: r =>
    match name? r with
    | some (p, t) => (some p, t)
    | none => (none, '.' :: r)
  | s => (none, s)

/-- The digits of the index part, if one stands here, and what follows it. -/
def indexDigits : List Char → Option (List Char) × List Char
  | '[' :: r =>
    match r.takeWhile Char.isDigit, r.dropWhile Char.isDigit with
    | d :: ds, ']' :: t => (some (d :: ds), t)
    | _, _ => (none, '[' :: r)
  | s => (none, s)

/-- The number that decimal digits spell. -/
def digitsValue (ds : List Char) : Nat := ds.foldl (fun n d => 10 * n + Json.digitValue d) 0

/-- The reference in braces, its opening brace already read, and what follows the
closing one.  An index that does not fit 64 bits makes no reference. -/
def reference? (s : List Char) : Option (Option Reference × List Char) := do
  let (v, r) ← name? s
  let (p, r) := property r
  let (ds, r) := indexDigits r
  match r with
  | '}' :: t =>
    match ds with
    | none => some (some ⟨v, p, none⟩, t)
    | some ds =>
      if digitsValue ds < Nat.pow 2 64 then some (some ⟨v, p, some (digitsValue ds)⟩, t)
      else some (none, t)
  | _ => none

/-- A piece of a template. -/
inductive Segment where
  /-- A character outside every placeholder. -/
  | plain (c : Char)
  /-- A placeholder as it is spelt, with what it refers to. -/
  | slot (spelling : List Char) (reference : Option Reference)
deriving DecidableEq

/-- The segments of a template, reading at most `fuel` of them. -/
def segmentsFrom : (fuel : Nat) → List Char → List Segment
  | 0, _ => []
  | _ + 1, [] => []
  | fuel + 1, c :: r =>
    match if c = '{' then reference? r else none with
    | some (ref, t) => .slot (c :: r.take (r.length - t.length)) ref :: segmentsFrom fuel t
    | none => .plain c :: segmentsFrom fuel r

/-- The segments of a template. -/
def segments (template : String) : List Segment :=
  segmentsFrom template.toList.length template.toList

/-- The references of a template, in order. -/
def references (template : String) : List Reference :=
  (segments template).filterMap fun
    | .plain _ => none
    | .slot _ ref => ref

/-- The first content property of a value that is or holds an object, else the
value. -/
def primaryContent (rules : SubstitutionRules) (v : Value) : Value :=
  match v.asStructured? with
  | some (.object ms) =>
    (rules.contentProperties.findSome? fun n => Members.findIgnoringCase? n ms).getD v
  | _ => v

/-- The items under a property, if it is an array. -/
def itemsUnder? (ms : Members) (name : String) : Option (List Value) :=
  match Members.findIgnoringCase? name ms with
  | some (.array vs) => some vs
  | _ => none

/-- The item of an array at a place, or of the first array property of an
object. -/
def itemAt? (rules : SubstitutionRules) (v : Value) (i : Nat) : Option Value :=
  match v.asStructured? with
  | some (.array vs) => vs[i]?
  | some (.object ms) => (rules.arrayProperties.findSome? (itemsUnder? ms)).bind (·[i]?)
  | _ => none

/-- The value a reference names under the rules. -/
def lookup? (rules : SubstitutionRules) (bound : Value) (ref : Reference) : Option Value :=
  match ref.property, ref.index with
  | none, none => some (primaryContent rules bound)
  | none, some i => itemAt? rules bound i
  | some p, none => bound.asStructured?.bind (·.property? p)
  | some p, some i => (bound.asStructured?.bind (·.property? p)).bind (itemAt? rules · i)

/-- The text a reference stands for, or nothing if it does not resolve. -/
def resolve? (rules : SubstitutionRules) (b : Bindings) (ref : Reference) : Option String :=
  (b.get? ref.name).bind fun v => (lookup? rules v ref).map (·.render)

/-- Whether a template looks like the body of a JSON object: it starts with a
brace, blanks aside, and has a quote somewhere. -/
def looksLikeObject (template : String) : Bool :=
  (Text.trimStartChars template.toList).head? == some '{' && template.toList.contains '"'

/-- What a segment becomes. -/
def fillSegment (rules : SubstitutionRules) (b : Bindings) (escape : Bool) :
    Segment → List Char
  | .plain c => [c]
  | .slot spelling ref =>
    match ref.bind (resolve? rules b) with
    | some t => if escape then Json.escapeChars t.toList else t.toList
    | none => spelling

/-- A template with every placeholder that resolves replaced by its text. -/
def substitute (rules : SubstitutionRules) (b : Bindings) (template : String) : String :=
  .ofList ((segments template).flatMap (fillSegment rules b (looksLikeObject template)))

/-- The variables named in a template that are not bound, in order. -/
def unbound (b : Bindings) (template : String) : List String :=
  ((references template).filter fun r => !b.contains r.name).map (·.name)

end Placeholder
end Errand

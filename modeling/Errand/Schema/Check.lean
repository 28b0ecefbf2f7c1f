/-
# The dialect of the common keywords

SPEC_FULL.md, section 4.2 (Parameter Binder), step 2, on input schemas.

One dialect of schemas, for rehearsals and examples; runs take any dialect.  A schema
is a JSON value: true allows everything, false nothing, and an object lists rules.
`isWellFormed` says whether a value is a schema at all, and `violations` lists the
rules that a value breaks, in the order of the schema's keys.  Numbers are compared by
value, so `1.0` is an integer and equals `1`.

The rules are those of types, bounds and sizes, of required, named and additional
members, of items, patterns and constants, and of schemas combined or referred to.
Any other keyword must be well formed and then allows everything, `if`, `contains`,
`prefixItems`, `propertyNames`, `patternProperties` and those on dependent and on
unevaluated members among them.

Schemas may refer to parts of their own document, so checking is bounded by fuel,
one unit for each schema entered.
-/

import Errand.Schema.Dialect
import Errand.Schema.Violation
import Errand.Text.Pattern

namespace Errand
namespace Schema

open Json (Value Members)

/-! ### Numbers -/

/-- The value of a number as a fraction. -/
def fraction : Json.Number → Int × Nat
  | .int i => (i, 1)
  | .real x => x.fraction

/-- Whether one number is below another. -/
def below (a b : Json.Number) : Bool :=
  let (n, d) := fraction a
  let (m, e) := fraction b
  n * e < m * d

/-- Whether two numbers have one value. -/
def sameNumber (a b : Json.Number) : Bool :=
  let (n, d) := fraction a
  let (m, e) := fraction b
  n * e == m * d

/-- Whether a number is whole. -/
def isWhole : Json.Number → Bool
  | .int _ => true
  | .real x => x.isWhole

/-- Whether the quotient of two numbers is whole. -/
def isMultiple (a b : Json.Number) : Bool :=
  let (n, d) := fraction a
  let (m, e) := fraction b
  m != 0 && (n * e) % (m * d) == 0

/-- A number as a size, if it is a whole number from zero on. -/
def sizeOf? : Value → Option Nat
  | .number n =>
    let (m, d) := fraction n
    if 0 ≤ m ∧ m.toNat % d = 0 then some (m.toNat / d) else none
  | _ => none

/-! ### Equality by value -/

mutual

/-- Whether two values are the same, numbers being compared by value. -/
def same : Value → Value → Bool
  | .null, .null => true
  | .bool a, .bool b => a == b
  | .number a, .number b => sameNumber a b
  | .string a, .string b => a == b
  | .array as, .array bs => sameItems as bs
  | .object as, .object bs => sameMembers as bs
  | _, _ => false

/-- Whether two lists of values are the same, one by one. -/
def sameItems : List Value → List Value → Bool
  | [], [] => true
  | a :: as, b :: bs => same a b && sameItems as bs
  | _, _ => false

/-- Whether two objects have the same members. -/
def sameMembers : List (String × Value) → List (String × Value) → Bool
  | [], [] => true
  | (k, a) :: as, (l, b) :: bs => k == l && same a b && sameMembers as bs
  | _, _ => false

end

/-- Whether no two items are the same. -/
def allDistinct : List Value → Bool
  | [] => true
  | v :: r => !r.any (same v) && allDistinct r

/-! ### Parts of a document -/

/-- A text cut at every character `c`. -/
def splitAt (c : Char) : List Char → List (List Char)
  | [] => [[]]
  | d :: r =>
    if d = c then [] :: splitAt c r
    else match splitAt c r with
      | p :: ps => (d :: p) :: ps
      | [] => [[d]]

/-- A name in a pointer, where `~1` stands for a slash and `~0` for a tilde. -/
def pointerName : List Char → List Char
  | '~' :: '1' :: r => '/' :: pointerName r
  | '~' :: '0' :: r => '~' :: pointerName r
  | c :: r => c :: pointerName r
  | [] => []

/-- The part of a value under a list of names. -/
def partAt? (v : Value) : List String → Option Value
  | [] => some v
  | n :: r =>
    match v with
    | .object ms => (Members.find? n ms).bind fun w => partAt? w r
    | .array vs => n.toNat?.bind fun i => (vs[i]?).bind fun w => partAt? w r
    | _ => none

/-- The part of the document that a reference names: `#`, or `#` and a
pointer. -/
def resolve? (root : Value) (reference : String) : Option Value :=
  match reference.toList with
  | ['#'] => some root
  | '#' :: '/' :: r => partAt? root ((splitAt '/' r).map fun n => String.ofList (pointerName n))
  | _ => none

/-! ### Well-formed schemas -/

/-- The items of a value that is a list of texts without repetition. -/
def textSet? : Value → Option (List String)
  | .array vs =>
    if vs.all (·.text?.isSome) && allDistinct vs then some (vs.filterMap Value.text?) else none
  | _ => none

/-- The types that a value names. -/
def types? : Value → Option (List TypeName)
  | .string s => (typeNames.find? (·.1 == s)).map fun t => [t.2]
  | v =>
    match textSet? v with
    | some (s :: r) =>
      let names := s :: r
      if names.all fun n => typeNames.any (·.1 == n) then
        some ((typeNames.filter fun t => names.contains t.1).map (·.2))
      else none
    | _ => none

/-- What kind of content a keyword takes. -/
inductive Content where
  | schema
  | schemas
  | schemaMap
  | number
  | positive
  | size
  | flag
  | text
  | list
  | textSet
  | textSetMap
  | types
  | pattern
  | reference

/-- The keywords with the kinds of content they take. -/
def keywords : List (String × Content) :=
  [("$anchor", .text), ("$comment", .text), ("$defs", .schemaMap), ("$id", .text),
    ("$ref", .reference), ("$schema", .text), ("additionalProperties", .schema),
    ("allOf", .schemas), ("anyOf", .schemas), ("contains", .schema), ("definitions", .schemaMap),
    ("dependentRequired", .textSetMap), ("dependentSchemas", .schemaMap), ("deprecated", .flag),
    ("description", .text), ("else", .schema), ("enum", .list), ("examples", .list),
    ("exclusiveMaximum", .number), ("exclusiveMinimum", .number), ("format", .text),
    ("if", .schema), ("items", .schema), ("maxContains", .size), ("maxItems", .size),
    ("maxLength", .size), ("maxProperties", .size), ("maximum", .number),
    ("minContains", .size), ("minItems", .size), ("minLength", .size),
    ("minProperties", .size), ("minimum", .number), ("multipleOf", .positive), ("not", .schema),
    ("oneOf", .schemas), ("pattern", .pattern), ("patternProperties", .schemaMap),
    ("prefixItems", .schemas), ("properties", .schemaMap), ("propertyNames", .schema),
    ("readOnly", .flag), ("required", .textSet), ("then", .schema), ("title", .text),
    ("type", .types), ("unevaluatedItems", .schema), ("unevaluatedProperties", .schema),
    ("uniqueItems", .flag), ("writeOnly", .flag)]

/-- Whether a value may stand under a keyword, given which values are schemas. -/
def Content.admits (root : Value) (isSchema : Value → Bool) : Content → Value → Bool
  | .schema, v => isSchema v
  | .schemas, .array (v :: r) => (v :: r).all isSchema
  | .schemaMap, .object ms => ms.all fun m => isSchema m.2
  | .number, .number _ => true
  | .positive, .number n => below (.int 0) n
  | .size, v => (sizeOf? v).isSome
  | .flag, .bool _ => true
  | .text, .string _ => true
  | .list, .array _ => true
  | .textSet, v => (textSet? v).isSome
  | .textSetMap, .object ms => ms.all fun m => (textSet? m.2).isSome
  | .types, v => (types? v).isSome
  | .pattern, .string p => (Text.Pattern.ofText? p).isSome
  | .reference, .string r => (resolve? root r).isSome
  | _, _ => false

/-- Whether a value within a document is a schema, down to `fuel` levels. -/
def isWellFormedAt (root : Value) : (fuel : Nat) → Value → Bool
  | 0, _ => true
  | _ + 1, .bool _ => true
  | fuel + 1, .object ms => ms.all fun m =>
    match keywords.find? (·.1 == m.1) with
    | some (_, content) => content.admits root (isWellFormedAt root fuel) m.2
    | none => true
  | _ + 1, _ => false

/-- How deep schemas are followed. -/
def maxDepth : Nat := 512

/-- Whether a value is a schema. -/
def isWellFormed (schema : Value) : Bool := isWellFormedAt schema maxDepth schema

/-! ### Violations -/

/-- Whether a value is of a type. -/
def hasType : TypeName → Value → Bool
  | .array, .array _ => true
  | .boolean, .bool _ => true
  | .integer, .number n => isWhole n
  | .null, .null => true
  | .number, .number _ => true
  | .object, .object _ => true
  | .string, .string _ => true
  | _, _ => false

/-- A violation, unless a condition holds. -/
def ensure (ok : Bool) (v : Violation) : List Violation := if ok then [] else [v]

/-- The size that a rule bounds, for values that have it. -/
def SizeRule.of? : SizeRule → Value → Option Nat
  | .characters, .string s => some s.length
  | .items, .array vs => some vs.length
  | .properties, .object ms => some ms.length
  | _, _ => none

/-- A least size. -/
def leastSize (rule : SizeRule) (limit v : Value) : List Violation :=
  match sizeOf? limit, rule.of? v with
  | some n, some k => ensure (n ≤ k) (.tooFew v rule n)
  | _, _ => []

/-- A greatest size. -/
def greatestSize (rule : SizeRule) (limit v : Value) : List Violation :=
  match sizeOf? limit, rule.of? v with
  | some n, some k => ensure (k ≤ n) (.tooMany v rule n)
  | _, _ => []

/-- A bound on a number. -/
def bounded (rule : BoundRule) (limit v : Value) : List Violation :=
  match v, limit with
  | .number n, .number l =>
    let ok := match rule with
      | .least => !below n l
      | .greatest => !below l n
      | .above => below l n
      | .below => below n l
    ensure ok (.bound v rule limit)
  | _, _ => []

/-- The members of an object that a schema's `properties` do not name. -/
def unknownMembers (properties : Members) (ms : Members) : Members :=
  ms.filter fun m => (properties.find? m.1).isNone

/-- The violations of a `properties` rule. -/
def propertyViolations (check : Value → Value → List Violation) (properties ms : Members) :
    List Violation :=
  properties.flatMap fun (name, schema) =>
    match ms.find? name with
    | some v => check schema v
    | none => []

/-- The violations of an `additionalProperties` rule beside `properties`. -/
def additionalViolations (check : Value → Value → List Violation) (properties : Option Members)
    (additional : Value) (ms : Members) : List Violation :=
  match additional, properties with
  | .bool true, _ => []
  | .bool false, none =>
    match ms with
    | [] => []
    | (_, v) :: _ => [.nothingAllowed v]
  | .bool false, some ps =>
    let unknown := (unknownMembers ps ms).map (·.1)
    (ms.flatMap fun (name, v) => match ps.find? name with
      | some schema => check schema v
      | none => []) ++ (if unknown.isEmpty then [] else [.additional unknown])
  | schema, ps =>
    ms.flatMap fun (name, v) => check (((ps.getD []).find? name).getD schema) v

/-- Whether `additionalProperties` takes over the rule of `properties`. -/
def closesProperties (rules : Members) : Bool :=
  match rules.find? "additionalProperties" with
  | some (.bool false) | some (.object _) => true
  | _ => false

/-- The violations of one rule of a schema. -/
def ruleViolations (root : Value) (check : Value → Value → List Violation) (rules : Members)
    (keyword : String) (content v : Value) : List Violation :=
  match keyword, content, v with
  | "$ref", .string r, _ => ((resolve? root r).map (check · v)).getD []
  | "additionalProperties", _, .object ms =>
    additionalViolations check ((rules.find? "properties").bind Value.members?) content ms
  | "allOf", .array ss, _ => ss.flatMap (check · v)
  | "anyOf", .array ss, _ => ensure (ss.any fun s => (check s v).isEmpty) (.noneOfAny v)
  | "const", c, _ => ensure (same c v) (.constant c)
  | "enum", .array options, _ => ensure (options.any (same v)) (.enumerated v options)
  | "exclusiveMaximum", _, _ => bounded .below content v
  | "exclusiveMinimum", _, _ => bounded .above content v
  | "items", _, .array vs => vs.flatMap (check content)
  | "maxItems", _, _ => greatestSize .items content v
  | "maxLength", _, _ => greatestSize .characters content v
  | "maxProperties", _, _ => greatestSize .properties content v
  | "maximum", _, _ => bounded .greatest content v
  | "minItems", _, _ => leastSize .items content v
  | "minLength", _, _ => leastSize .characters content v
  | "minProperties", _, _ => leastSize .properties content v
  | "minimum", _, _ => bounded .least content v
  | "multipleOf", .number m, .number n => ensure (isMultiple n m) (.multiple v content)
  | "not", _, _ => if (check content v).isEmpty then [.forbidden v content] else []
  | "oneOf", .array ss, _ =>
    match ss.filter fun s => (check s v).isEmpty with
    | [] => [.noneOfOne v]
    | [_] => []
    | _ => [.severalOfOne v]
  | "pattern", .string p, .string t =>
    match Text.Pattern.ofText? p with
    | some pattern => ensure (pattern.matchesPart t) (.pattern v p)
    | none => []
  | "properties", .object ps, .object ms =>
    if closesProperties rules then [] else propertyViolations check ps ms
  | "required", _, .object ms =>
    ((textSet? content).getD []).flatMap fun n => ensure ((Members.find? n ms).isSome) (.required n)
  | "type", _, _ =>
    match types? content with
    | some ts => ensure (ts.any (hasType · v)) (.type v ts)
    | none => []
  | "uniqueItems", .bool true, .array vs => ensure (allDistinct vs) (.repeated v)
  | _, _, _ => []

/-- The rules of a schema within a document that a value breaks, entering at most
`fuel` schemas inside one another. -/
def violationsAt (root : Value) : (fuel : Nat) → (schema v : Value) → List Violation
  | 0, _, _ => []
  | _ + 1, .bool true, _ => []
  | _ + 1, .bool false, v => [.nothingAllowed v]
  | fuel + 1, .object rules, v =>
    rules.flatMap fun (keyword, content) =>
      ruleViolations root (violationsAt root fuel) rules keyword content v
  | _ + 1, _, _ => []

/-- The rules of a schema that a value breaks. -/
def violations (schema v : Value) : List Violation := violationsAt schema maxDepth schema v

/-- Whether a value satisfies a schema. -/
def isValid (schema v : Value) : Bool := (violations schema v).isEmpty

/-- The dialect of the common keywords. -/
def Dialect.common : Dialect where
  validator? schema :=
    if isWellFormed schema then
      some ⟨isValid schema, fun v => (violations schema v).map Violation.message⟩
    else none

end Schema
end Errand

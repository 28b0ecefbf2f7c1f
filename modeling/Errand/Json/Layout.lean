/-
# Records laid out as JSON

SPEC_FULL.md, section 3, on plans and their steps read from JSON in several spellings.

A record is laid out as an object with a member for each field, or as an array of
its fields in order.  A field has a name, perhaps other spellings, and perhaps a
value that it takes when it is absent.  Unknown members are passed over, and a
field given twice is refused.

A layout is written once, against a `Source`: the means of reading the parts of a
record from some representation.  `Source.value` reads from a JSON value and
`Source.document` straight from JSON text, where the first fault in reading order is
reported with its position.
-/

import Errand.Json.Reader

namespace Errand
namespace Json

/-- A field of a record: its spellings, how its content is read, and what it is
when an object (`absent`) or an array (`short`) does not have it. -/
structure Slot (D : Type → Type) (β : Type) where
  name : String
  aliases : List String
  content : D β
  absent : Option β
  short : Option β

/-- Whether a key names the field. -/
def Slot.answersTo {D : Type → Type} {β : Type} (s : Slot D β) (key : String) : Bool :=
  s.name == key || s.aliases.contains key

/-- A field that must be given. -/
def Slot.required {D : Type → Type} {β : Type} (name : String) (content : D β)
    (aliases : List String := []) : Slot D β :=
  ⟨name, aliases, content, none, none⟩

/-- A field that has a value when it is not given. -/
def Slot.withDefault {D : Type → Type} {β : Type} (name : String) (value : β) (content : D β)
    (aliases : List String := []) : Slot D β :=
  ⟨name, aliases, content, some value, some value⟩

/-- A field that an object may leave out, but not an array. -/
def Slot.optional {D : Type → Type} {β : Type} (name : String) (content : D (Option β)) :
    Slot D (Option β) :=
  ⟨name, [], content, some none, none⟩

/-- The fields of a record, in order.  `δ` is the type of a record under
construction, where each field may still be open, and `γ` that of a finished
one. -/
inductive Fields (D : Type → Type) : Type → Type → Type 1 where
  | nil : Fields D Unit Unit
  | cons {β δ γ : Type} (slot : Slot D β) (rest : Fields D δ γ) :
    Fields D (Option β × δ) (β × γ)

namespace Fields

variable {D : Type → Type}

/-- How many fields there are. -/
def length {δ γ : Type} : Fields D δ γ → Nat
  | .nil => 0
  | .cons _ rest => rest.length + 1

/-- A record with every field open. -/
def blank {δ γ : Type} : Fields D δ γ → δ
  | .nil => ()
  | .cons _ rest => (none, rest.blank)

/-- Fill the field that `key` names, reading its content by `read`; `again` is
the answer when the field is filled already.  Nothing comes back for an unknown
key. -/
def offer {ε σ : Type} (read : {β : Type} → D β → σ → Except ε (β × σ))
    (again : String → σ → ε) (key : String) {δ γ : Type} :
    Fields D δ γ → δ → σ → Except ε (Option (δ × σ))
  | .nil, _, _ => .ok none
  | .cons slot rest, (cell, cells), s =>
    if slot.answersTo key then
      match cell with
      | some _ => .error (again slot.name s)
      | none =>
        match read slot.content s with
        | .error e => .error e
        | .ok (b, s) => .ok (some ((some b, cells), s))
    else
      match offer read again key rest cells s with
      | .error e => .error e
      | .ok none => .ok none
      | .ok (some (cells, s)) => .ok (some ((cell, cells), s))

/-- Close the record: an open field takes its value for absence, and the first
that has none is missing. -/
def finish {δ γ : Type} : Fields D δ γ → δ → Except Mismatch γ
  | .nil, () => .ok ()
  | .cons slot rest, (cell, cells) =>
    match cell <|> slot.absent with
    | none => .error (.missingField slot.name)
    | some b =>
      match rest.finish cells with
      | .error e => .error e
      | .ok c => .ok (b, c)

/-- Read the fields in order from a sequence.  `next` reads the next element and
gives nothing at the end; `tooShort i` is the answer when field `i` is not there
and has no value for that. -/
def fill {ε σ : Type} (next : {β : Type} → D β → σ → Except ε (Option β × σ))
    (tooShort : Nat → σ → ε) {δ γ : Type} (i : Nat) :
    Fields D δ γ → σ → Except ε (γ × σ)
  | .nil, s => .ok ((), s)
  | .cons slot rest, s =>
    match next slot.content s with
    | .error e => .error e
    | .ok (b?, s) =>
      match b? <|> slot.short with
      | none => .error (tooShort i s)
      | some b =>
        match fill next tooShort (i + 1) rest s with
        | .error e => .error e
        | .ok (c, s) => .ok ((b, c), s)

end Fields

/-- What an array with too few elements should have been. -/
def recordLength (name : String) (n : Nat) : String :=
  "struct " ++ name ++ " with " ++ .ofList (decimalChars n) ++
    (if n = 1 then " element" else " elements")

/-- The means of reading the parts of a record from some representation. -/
structure Source (D : Type → Type) where
  bool : D Bool
  text : D String
  /-- A natural number below `bound`, the type being called `name`. -/
  natural : (bound : Nat) → (name : String) → D Nat
  single : D Number.Single
  any : D Value
  members : D Members
  optional : {α : Type} → D α → D (Option α)
  list : {α : Type} → D α → D (List α)
  map : {α β : Type} → (α → β) → D α → D β
  record : (name : String) → {δ γ : Type} → Fields D δ γ → D γ

namespace Source

/-- A 32-bit natural number. -/
def nat32 {D : Type → Type} (s : Source D) : D Nat := s.natural (Nat.pow 2 32) "u32"

/-- A 64-bit natural number. -/
def nat64 {D : Type → Type} (s : Source D) : D Nat := s.natural (Nat.pow 2 64) "u64"

/-- A size, of 64 bits. -/
def size {D : Type → Type} (s : Source D) : D Nat := s.natural (Nat.pow 2 64) "usize"

end Source

/-! ### From a value -/

/-- A decoder from JSON values. -/
abbrev FromValue (α : Type) := Value → Except Mismatch α

namespace FromValue

/-- A boolean. -/
def bool : FromValue Bool
  | .bool b => .ok b
  | v => .error (.wrongType v.found "a boolean")

/-- A text. -/
def text : FromValue String
  | .string s => .ok s
  | v => .error (.wrongType v.found "a string")

/-- A natural number below a bound. -/
def natural (bound : Nat) (name : String) : FromValue Nat
  | .number (.int i) =>
    if 0 ≤ i ∧ i < bound then .ok i.toNat
    else .error (.wrongValue (.number (.int i)) name)
  | v => .error (.wrongType v.found name)

/-- A number in single precision. -/
def single : FromValue Number.Single
  | .number (.real x) => .ok (.ofBinary x)
  | .number (.int i) => .ok (.ofInt i)
  | v => .error (.wrongType v.found "f32")

/-- The members of an object. -/
def members : FromValue Members
  | .object ms => .ok ms
  | v => .error (.wrongType v.found "a map")

/-- A value that may be null. -/
def optional {α : Type} (d : FromValue α) : FromValue (Option α)
  | .null => .ok none
  | v => (d v).map some

/-- The items of an array. -/
def list {α : Type} (d : FromValue α) : FromValue (List α)
  | .array vs => vs.mapM d
  | v => .error (.wrongType v.found "a sequence")

/-- The next item of an array. -/
def nextItem {β : Type} (d : FromValue β) : List Value → Except Mismatch (Option β × List Value)
  | [] => .ok (none, [])
  | v :: r => (d v).map fun b => (some b, r)

/-- Offer the members of an object to the fields, one after the other. -/
def offerAll {δ γ : Type} (fs : Fields FromValue δ γ) : Members → δ → Except Mismatch δ
  | [], cells => .ok cells
  | (k, v) :: r, cells =>
    match fs.offer (fun d v => (d v).map (·, v)) (fun n _ => .duplicateField n) k cells v with
    | .error e => .error e
    | .ok none => offerAll fs r cells
    | .ok (some (cells, _)) => offerAll fs r cells

/-- A record, as an object or as an array. -/
def record (name : String) {δ γ : Type} (fs : Fields FromValue δ γ) : FromValue γ
  | .object ms =>
    match offerAll fs ms fs.blank with
    | .error e => .error e
    | .ok cells => fs.finish cells
  | .array vs =>
    match fs.fill nextItem (fun i _ => .wrongLength i (recordLength name fs.length)) 0 vs with
    | .error e => .error e
    | .ok (c, []) => .ok c
    | .ok (_, _ :: _) => .error (.wrongLength vs.length "fewer elements in array")
  | v => .error (.wrongType v.found ("struct " ++ name))

/-- One of a list of names, given as a text or as an object with that one key
and null under it. -/
def variant {α : Type} (names : List (String × α)) : FromValue α
  | .string s => pick s
  | .object [(k, v)] =>
    match pick k, v with
    | .error e, _ => .error e
    | .ok a, .null => .ok a
    | .ok _, v => .error (.wrongType v.found "unit")
  | .object _ => .error (.wrongValue .map "map with a single key")
  | v => .error (.wrongType v.found "string or map")
where
  /-- The variant of a name. -/
  pick (s : String) : Except Mismatch α :=
    match names.find? (·.1 == s) with
    | some (_, a) => .ok a
    | none => .error (.unknownVariant s (names.map (·.1)))

end FromValue

/-- Reading records from JSON values. -/
def Source.value : Source FromValue where
  bool := FromValue.bool
  text := FromValue.text
  natural := FromValue.natural
  single := FromValue.single
  any := .ok
  members := FromValue.members
  optional := FromValue.optional
  list := FromValue.list
  map f d v := (d v).map f
  record := FromValue.record

/-! ### From text -/

/-- A reader that is told how many levels may still nest. -/
abbrev FromText (α : Type) := (depth : Nat) → Reader α

namespace FromText

/-- Skip a string that nobody asked for; its escapes need only be well formed. -/
def skipStringFrom : (fuel : Nat) → Reader Unit
  | 0, s => failBefore .endInString s
  | _ + 1, [] => failBefore .endInString []
  | fuel + 1, c :: r =>
    if c = '"' then .ok ((), r)
    else if c = '\\' then
      match r with
      | 'u' :: r =>
        match readHex4 r with
        | .error e => .error e
        | .ok (_, r) => skipStringFrom fuel r
      | r =>
        match readEscape r with
        | .error e => .error e
        | .ok (_, r) => skipStringFrom fuel r
    else if c.toNat < 0x20 then failBefore .controlCharacter r
    else skipStringFrom fuel r

/-- Skip the exponent of a number, its mark already read. -/
def skipExponent (s : List Char) : Except Snag (List Char) :=
  let s := match s with
    | '+' :: r | '-' :: r => r
    | s => s
  match s with
  | c :: r => if c.isDigit then .ok (r.dropWhile Char.isDigit) else failAt .invalidNumber (c :: r)
  | [] => failBefore .invalidNumber []

/-- Skip what may follow the integer part of a number. -/
def skipNumberEnd (s : List Char) : Except Snag (List Char) :=
  match s with
  | '.' :: r =>
    match r with
    | c :: t =>
      if c.isDigit then
        match t.dropWhile Char.isDigit with
        | 'e' :: r | 'E' :: r => skipExponent r
        | r => .ok r
      else failAt .invalidNumber (c :: t)
    | [] => failAt .invalidNumber []
  | 'e' :: r | 'E' :: r => skipExponent r
  | s => .ok s

/-- Skip a number that nobody asked for, its minus sign already read; no size is
too large. -/
def skipNumber (s : List Char) : Except Snag (List Char) :=
  match s with
  | '0' :: c :: r => if c.isDigit then failAt .invalidNumber (c :: r) else skipNumberEnd (c :: r)
  | c :: r =>
    if c.isDigit then skipNumberEnd (r.dropWhile Char.isDigit) else failAt .invalidNumber (c :: r)
  | [] => failBefore .invalidNumber []

/-- Skip values that nobody asked for until every bracket in `stack` is closed.
`opened` says that the innermost bracket has just been opened, and `value` that a
value must come next.  There is no bound on nesting. -/
def skipOpen : (fuel : Nat) → (stack : List Char) → (value : Bool) → (first : Bool) → Reader Unit
  | 0, _, _, _, s => failAt .endInValue s
  | fuel + 1, stack, true, _, s =>
    match skipSpace s with
    | [] => failAt .endInValue []
    | 'n' :: r => after fuel stack (readLiteral () ['u', 'l', 'l'] r)
    | 't' :: r => after fuel stack (readLiteral () ['r', 'u', 'e'] r)
    | 'f' :: r => after fuel stack (readLiteral () ['a', 'l', 's', 'e'] r)
    | '"' :: r => after fuel stack (skipStringFrom (r.length + 1) r)
    | '[' :: r => skipOpen fuel (']' :: stack) false true r
    | '{' :: r => skipOpen fuel ('}' :: stack) false true r
    | '-' :: r => after fuel stack ((skipNumber r).map ((), ·))
    | c :: r =>
      if c.isDigit then after fuel stack ((skipNumber (c :: r)).map ((), ·))
      else failAt .expectedValue (c :: r)
  | _ + 1, [], false, _, s => .ok ((), s)
  | fuel + 1, close :: stack, false, first, s =>
    match skipSpace s with
    | [] => failAt (if close = ']' then .endInList else .endInObject) []
    | c :: r =>
      if c = close then skipOpen fuel stack false false r
      else if c = ',' ∧ first = false then item fuel close stack r
      else if first then item fuel close stack (c :: r)
      else
        let missing : Misspelling :=
          if close = ']' then .expectedListSeparator else .expectedObjectSeparator
        failAt missing (c :: r)
where
  /-- Go on after a scalar. -/
  after (fuel : Nat) (stack : List Char) (r : Except Snag (Unit × List Char)) :
      Except Snag (Unit × List Char) :=
    match r with
    | .error e => .error e
    | .ok (_, r) => skipOpen fuel stack false false r
  /-- Skip an item of an array, or a key, its colon and its value. -/
  item (fuel : Nat) (close : Char) (stack : List Char) (s : List Char) :
      Except Snag (Unit × List Char) :=
    if close = ']' then skipOpen fuel (close :: stack) true false s
    else
      match skipSpace s with
      | '"' :: r =>
        match skipStringFrom (r.length + 1) r with
        | .error e => .error e
        | .ok (_, r) =>
          match readColon r with
          | .error e => .error e
          | .ok r => skipOpen fuel (close :: stack) true false r
      | [] => failAt .endInObject []
      | r => failAt .keyNotString r

/-- Skip one value. -/
def skip : Reader Unit := fun s => skipOpen (2 * s.length + 2) [] true false s

/-- A mismatch met right before `rest`. -/
def refuse {α : Type} (m : Mismatch) (rest : List Char) : Except Snag α :=
  .error ⟨.mismatch m, rest, 0⟩

/-- Refuse whatever stands here because `expected` should.  A scalar is read
first, an array or object is not. -/
def unexpected {α : Type} (expected : String) (s : List Char) : Except Snag α :=
  match skipSpace s with
  | [] => failAt .endInValue []
  | '[' :: r => refuse (.wrongType .sequence expected) ('[' :: r)
  | '{' :: r => refuse (.wrongType .map expected) ('{' :: r)
  | s =>
    match readValue 0 s with
    | .error e => .error e
    | .ok (v, r) => refuse (.wrongType v.found expected) r

/-- A boolean. -/
def bool : FromText Bool := fun _ s =>
  match skipSpace s with
  | 't' :: r => readLiteral true ['r', 'u', 'e'] r
  | 'f' :: r => readLiteral false ['a', 'l', 's', 'e'] r
  | s => unexpected "a boolean" s

/-- A text. -/
def text : FromText String := fun _ s =>
  match skipSpace s with
  | '"' :: r => readString r
  | s => unexpected "a string" s

/-- A number that `d` makes something of; anything else should have been
`expected`. -/
def number {α : Type} (expected : String) (d : FromValue α) : FromText α := fun _ s =>
  let (negative, digits) := match skipSpace s with
    | '-' :: r => (true, r)
    | s => (false, s)
  if negative || digits.head?.any Char.isDigit then
    match readNumber negative digits with
    | .error e => .error e
    | .ok (n, r) =>
      match d (.number n) with
      | .ok k => .ok (k, r)
      | .error m => refuse m r
  else unexpected expected s

/-- The members of an object. -/
def members : FromText Members := fun depth s =>
  match skipSpace s with
  | '{' :: r =>
    match depth with
    | 0 => failAt .tooDeep ('{' :: r)
    | depth + 1 =>
      match readMembers (readValue depth) (r.length + 1) true r with
      | .error e => .error e
      | .ok (ms, r) => .ok (Members.ofList ms, r)
  | s => unexpected "a map" s

/-- A value that may be null. -/
def optional {α : Type} (d : FromText α) : FromText (Option α) := fun depth s =>
  match skipSpace s with
  | 'n' :: r => readLiteral none ['u', 'l', 'l'] r
  | s =>
    match d depth s with
    | .error e => .error e
    | .ok (a, r) => .ok (some a, r)

/-- The items of an array. -/
def list {α : Type} (d : FromText α) : FromText (List α) := fun depth s =>
  match skipSpace s with
  | '[' :: r =>
    match depth with
    | 0 => failAt .tooDeep ('[' :: r)
    | depth + 1 => readItems (d depth) (r.length + 1) true r
  | s => unexpected "a sequence" s

/-- Where a reader stands after looking for the end of an array. -/
def afterList (s : List Char) : Except Snag (List Char) :=
  match skipSpace s with
  | ']' :: r => .ok r
  | ',' :: r =>
    match skipSpace r with
    | ']' :: r => failAt .trailingComma (']' :: r)
    | r => failAt .trailingCharacters r
  | [] => failAt .endInList []
  | r => failAt .trailingCharacters r

/-- The characters left when a fault inside an array is reported: the end of the
array is looked for first. -/
def restAfterList (s : List Char) : List Char :=
  match skipSpace s with
  | ']' :: r => r
  | ',' :: r => skipSpace r
  | r => r

/-- The characters left when a fault inside an object is reported: the end of
the object is looked for first. -/
def restAfterObject (s : List Char) : List Char :=
  match skipSpace s with
  | '}' :: r => r
  | r => r

/-- The next element of an array; the flag says that none was read yet. -/
def nextElement {β : Type} (depth : Nat) (d : FromText β) :
    Bool × List Char → Except Snag (Option β × (Bool × List Char))
  | (first, s) =>
    match skipSpace s with
    | [] => failAt .endInList []
    | ']' :: r => .ok (none, (first, ']' :: r))
    | c :: r =>
      if c = ',' ∧ first = false then
        match skipSpace r with
        | [] => failAt .endInValue []
        | ']' :: r => failAt .trailingComma (']' :: r)
        | r => element r
      else if first then element (c :: r)
      else failAt .expectedListSeparator (c :: r)
where
  /-- One element. -/
  element (s : List Char) : Except Snag (Option β × (Bool × List Char)) :=
    match d depth s with
    | .error e => .error e
    | .ok (b, r) => .ok (some b, (false, r))

/-- Offer the members of an object to the fields as they are read. -/
def offerAll {δ γ : Type} (depth : Nat) (fs : Fields FromText δ γ) :
    (fuel : Nat) → (first : Bool) → δ → Reader δ
  | 0, _, _, s => failAt .endInObject s
  | fuel + 1, first, cells, s =>
    match readKey first s with
    | .error e => .error e
    | .ok (none, r) => .ok (cells, r)
    | .ok (some k, r) =>
      let content {β : Type} (d : FromText β) (s : List Char) : Except Snag (β × List Char) :=
        match readColon s with
        | .error e => .error e
        | .ok s => d depth s
      let again (name : String) (s : List Char) : Snag :=
        ⟨.mismatch (.duplicateField name), restAfterObject s, 0⟩
      match fs.offer content again k cells r with
      | .error e => .error e
      | .ok (some (cells, r)) => offerAll depth fs fuel false cells r
      | .ok none =>
        match readColon r with
        | .error e => .error e
        | .ok r =>
          match skip r with
          | .error e => .error e
          | .ok (_, r) => offerAll depth fs fuel false cells r

/-- A record, as an object or as an array. -/
def record (name : String) {δ γ : Type} (fs : Fields FromText δ γ) : FromText γ := fun depth s =>
  match skipSpace s with
  | '{' :: r =>
    match depth with
    | 0 => failAt .tooDeep ('{' :: r)
    | depth + 1 =>
      match offerAll depth fs (r.length + 1) true fs.blank r with
      | .error e => .error e
      | .ok (cells, r) =>
        match fs.finish cells with
        | .error m => refuse m r
        | .ok c => .ok (c, r)
  | '[' :: r =>
    match depth with
    | 0 => failAt .tooDeep ('[' :: r)
    | depth + 1 =>
      let tooShort (i : Nat) (s : Bool × List Char) : Snag :=
        ⟨.mismatch (.wrongLength i (recordLength name fs.length)), restAfterList s.2, 0⟩
      match fs.fill (nextElement depth) tooShort 0 (true, r) with
      | .error e => .error e
      | .ok (c, (_, r)) => (afterList r).map (c, ·)
  | s => unexpected ("struct " ++ name) s

end FromText

/-- Reading records straight from JSON text. -/
def Source.document : Source FromText where
  bool := FromText.bool
  text := FromText.text
  natural bound name := FromText.number name (FromValue.natural bound name)
  single := FromText.number "f32" FromValue.single
  any := readValue
  members := FromText.members
  optional := FromText.optional
  list := FromText.list
  map f d depth s := (d depth s).map fun (a, r) => (f a, r)
  record := FromText.record

end Json
end Errand

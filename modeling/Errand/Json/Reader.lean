/-
# Reading JSON

A reader takes the characters still to be read and gives back what it read
together with the rest.  Reading is strict: only the four JSON blanks separate
tokens, no comma may trail, an escape must name a character, and a document holds
one value.  Of equal keys in one object the last wins.

Nesting is bounded.  The bound is the recursion argument of `readValue`: every
array or object is read with one level less to spend, and with none left it is
refused.  The loops over items and members take as fuel the number of characters
left, which they cannot outrun because every round consumes one.

A number keeps its digits while they fit 64 bits.  Otherwise, and with a point or
an exponent, it is the double `significand · 10^exponent`, computed by one
correctly rounded multiplication or division by a power of ten.

An error remembers the characters that were left, from which `Snag.position`
finds its line and its column in bytes.
-/

import Errand.Json.Mismatch

namespace Errand
namespace Json

/-- How a text fails to be JSON. -/
inductive Misspelling where
  | endInList
  | endInObject
  | endInString
  | endInValue
  | expectedColon
  | expectedListSeparator
  | expectedObjectSeparator
  | expectedLiteral
  | expectedValue
  | invalidEscape
  | invalidNumber
  | numberOutOfRange
  | controlCharacter
  | keyNotString
  | loneSurrogate
  | trailingComma
  | trailingCharacters
  | unfinishedSurrogatePair
  | tooDeep
deriving DecidableEq

/-- A misspelling in words. -/
def Misspelling.message : Misspelling → String
  | .endInList => "EOF while parsing a list"
  | .endInObject => "EOF while parsing an object"
  | .endInString => "EOF while parsing a string"
  | .endInValue => "EOF while parsing a value"
  | .expectedColon => "expected `:`"
  | .expectedListSeparator => "expected `,` or `]`"
  | .expectedObjectSeparator => "expected `,` or `\x7d`"
  | .expectedLiteral => "expected ident"
  | .expectedValue => "expected value"
  | .invalidEscape => "invalid escape"
  | .invalidNumber => "invalid number"
  | .numberOutOfRange => "number out of range"
  | .controlCharacter => "control character (\\u0000-\\u001F) found while parsing a string"
  | .keyNotString => "key must be a string"
  | .loneSurrogate => "lone leading surrogate in hex escape"
  | .trailingComma => "trailing comma"
  | .trailingCharacters => "trailing characters"
  | .unfinishedSurrogatePair => "unexpected end of hex escape"
  | .tooDeep => "recursion limit exceeded"

/-- Why a text could not be read. -/
inductive Trouble where
  | misspelt (m : Misspelling)
  | mismatch (m : Mismatch)
deriving DecidableEq

/-- A trouble in words. -/
def Trouble.message : Trouble → String
  | .misspelt m => m.message
  | .mismatch m => m.message

/-- A trouble with the characters left when it was met.  The place meant lies
`ahead` bytes into them. -/
structure Snag where
  trouble : Trouble
  rest : List Char
  ahead : Nat := 0

/-- A reader of `α`: what it read, and the characters after it. -/
abbrev Reader (α : Type) := List Char → Except Snag (α × List Char)

/-- A reader of what `reader` reads, made into something else. -/
def Reader.map {α β : Type} (f : α → β) (reader : Reader α) : Reader β := fun s =>
  match reader s with
  | .error e => .error e
  | .ok (a, r) => .ok (f a, r)

/-- A misspelling met right before `rest`. -/
def failBefore {α : Type} (m : Misspelling) (rest : List Char) : Except Snag α :=
  .error ⟨.misspelt m, rest, 0⟩

/-- A misspelling at the first byte of `rest`, or at the end if there is none. -/
def failAt {α : Type} (m : Misspelling) (rest : List Char) : Except Snag α :=
  .error ⟨.misspelt m, rest, if rest.isEmpty then 0 else 1⟩

/-- The bytes that a list of characters takes. -/
def byteCount (s : List Char) : Nat := s.foldl (fun n c => n + c.utf8Size) 0

/-- The line and the column, in bytes, of a place `offset` bytes into a text:
`line` and `column` are those of the first character of `s`. -/
def positionFrom (line column : Nat) : (offset : Nat) → List Char → Nat × Nat
  | offset, [] => (line, column + offset)
  | offset, c :: r =>
    if offset = 0 then (line, column)
    else if c = '\n' then positionFrom (line + 1) 0 (offset - 1) r
    else if offset < c.utf8Size then (line, column + offset)
    else positionFrom line (column + c.utf8Size) (offset - c.utf8Size) r

/-- The line and the column of a snag met while reading `text`. -/
def Snag.position (text : List Char) (s : Snag) : Nat × Nat :=
  positionFrom 1 0 (byteCount text - byteCount s.rest + s.ahead) text

/-- A snag in words, with its position in `text`. -/
def Snag.message (text : String) (s : Snag) : String :=
  let (line, column) := s.position text.toList
  s.trouble.message ++ " at line " ++ .ofList (decimalChars line) ++ " column " ++
    .ofList (decimalChars column)

/-- The four JSON blanks. -/
def isSpace (c : Char) : Bool := c = ' ' || c = '\n' || c = '\t' || c = '\r'

/-- The characters after the leading JSON blanks. -/
def skipSpace (s : List Char) : List Char := s.dropWhile isSpace

/-- The rest of a literal whose first character is already read. -/
def readLiteral {α : Type} (value : α) : List Char → Reader α
  | [], s => .ok (value, s)
  | _ :: _, [] => failBefore .endInValue []
  | c :: cs, d :: s => if c = d then readLiteral value cs s else failAt .expectedLiteral (d :: s)

/-! ### Numbers -/

/-- The greatest significand that is kept digit by digit. -/
def maxSignificand : Nat := Nat.pow 2 64 - 1

/-- The value of a decimal digit. -/
def digitValue (c : Char) : Nat := c.toNat - '0'.toNat

/-- The double nearest to `10^308`, the last step of a scaling. -/
def tenTo (k : Nat) : Number.Binary := (Number.Binary.ofRatio? false (Nat.pow 10 k) 1).getD default

/-- Divide by `10^k`, in steps of at most `10^308`. -/
def scaleDown (x : Number.Binary) (k : Nat) : Number.Binary :=
  if k ≤ 308 then (x.scaleDown? (tenTo k)).getD x
  else if x.isZero then x
  else scaleDown ((x.scaleDown? (tenTo 308)).getD x) (k - 308)
termination_by k

/-- The double `± significand · 10^exponent`, or nothing if it is too large. -/
def realOf? (negative : Bool) (significand : Nat) (exponent : Int) : Option Number.Binary := do
  let x ← Number.Binary.ofRatio? negative significand 1
  if exponent < 0 then some (scaleDown x exponent.natAbs)
  else if exponent ≤ 308 then x.scaleUp? (tenTo exponent.natAbs)
  else if x.isZero then some x
  else none

/-- Finish a double before `rest`. -/
def finishReal (negative : Bool) (significand : Nat) (exponent : Int) : Reader Number :=
  fun rest =>
    match realOf? negative significand exponent with
    | some x => .ok (.real x, rest)
    | none => failBefore .numberOutOfRange rest

/-- The greatest exponent that is read digit by digit. -/
def maxExponent : Nat := Nat.pow 2 31 - 1

/-- The digits of an exponent after the first. -/
def readExponentDigits (negative : Bool) (significand : Nat) (start : Int) (down : Bool) :
    Nat → Reader Number
  | e, c :: r =>
    if c.isDigit then
      let e' := 10 * e + digitValue c
      if maxExponent < e' then
        if significand ≠ 0 && !down then failBefore .numberOutOfRange r
        else .ok (.real (Number.Binary.zero negative), r.dropWhile Char.isDigit)
      else readExponentDigits negative significand start down e' r
    else finishReal negative significand (if down then start - e else start + e) (c :: r)
  | e, [] => finishReal negative significand (if down then start - e else start + e) []

/-- An exponent without its sign. -/
def readUnsignedExponent (negative : Bool) (significand : Nat) (start : Int) (down : Bool) :
    Reader Number
  | [] => failBefore .endInValue []
  | c :: r =>
    if c.isDigit then readExponentDigits negative significand start down (digitValue c) r
    else failAt .invalidNumber (c :: r)

/-- An exponent, its mark already read. -/
def readExponent (negative : Bool) (significand : Nat) (start : Int) : Reader Number
  | '+' :: r => readUnsignedExponent negative significand start false r
  | '-' :: r => readUnsignedExponent negative significand start true r
  | s => readUnsignedExponent negative significand start false s

/-- What may follow the digits of a double: an exponent or nothing. -/
def readRealEnd (negative : Bool) (significand : Nat) (exponent : Int) : Reader Number
  | 'e' :: r | 'E' :: r => readExponent negative significand exponent r
  | s => finishReal negative significand exponent s

/-- The digits after the point.  Those beyond the greatest significand are
dropped. -/
def readFraction (negative : Bool) (any : Bool) : Nat → Int → Reader Number
  | m, e, c :: r =>
    if c.isDigit then
      let m' := 10 * m + digitValue c
      if maxSignificand < m' then
        readRealEnd negative m e (r.dropWhile Char.isDigit)
      else readFraction negative true m' (e - 1) r
    else if any then readRealEnd negative m e (c :: r)
    else failAt .invalidNumber (c :: r)
  | m, e, [] => if any then finishReal negative m e [] else failAt .endInValue []

/-- The digits of an integer part too long for the greatest significand: each
adds one to the exponent. -/
def readLongInteger (negative : Bool) (m : Nat) : Int → Reader Number
  | e, c :: r =>
    if c.isDigit then readLongInteger negative m (e + 1) r
    else if c = '.' then readFraction negative false m e r
    else readRealEnd negative m e (c :: r)
  | e, [] => finishReal negative m e []

/-- An integer with its sign.  Minus zero, and a negative number below the least
64-bit integer, are doubles. -/
def integerNumber (negative : Bool) (m : Nat) : Number :=
  if negative then
    if m = 0 ∨ Nat.pow 2 63 < m then .real ((Number.Binary.ofRatio? true m 1).getD default)
    else .int (-(m : Int))
  else .int m

/-- What follows the digits of an integer part. -/
def readIntegerEnd (negative : Bool) (m : Nat) : Reader Number
  | '.' :: r => readFraction negative false m 0 r
  | 'e' :: r | 'E' :: r => readExponent negative m 0 r
  | s => .ok (integerNumber negative m, s)

/-- The digits of an integer part after the first. -/
def readIntegerDigits (negative : Bool) : Nat → Reader Number
  | m, c :: r =>
    if c.isDigit then
      let m' := 10 * m + digitValue c
      if maxSignificand < m' then readLongInteger negative m 1 r
      else readIntegerDigits negative m' r
    else readIntegerEnd negative m (c :: r)
  | m, [] => .ok (integerNumber negative m, [])

/-- A number, its minus sign already read. -/
def readNumber (negative : Bool) : Reader Number
  | [] => failBefore .endInValue []
  | '0' :: s =>
    match s with
    | c :: _ => if c.isDigit then failAt .invalidNumber s else readIntegerEnd negative 0 s
    | [] => .ok (integerNumber negative 0, [])
  | c :: r => if c.isDigit then readIntegerDigits negative (digitValue c) r
    else failAt .invalidNumber (c :: r)

/-! ### Strings -/

/-- The value of a hexadecimal digit of either case. -/
def hexValue? (c : Char) : Option Nat :=
  if c.isDigit then some (c.toNat - '0'.toNat)
  else if 'a' ≤ c ∧ c ≤ 'f' then some (c.toNat - 'a'.toNat + 10)
  else if 'A' ≤ c ∧ c ≤ 'F' then some (c.toNat - 'A'.toNat + 10)
  else none

/-- Four hexadecimal digits.  A failure is placed four bytes on. -/
def readHex4 : Reader Nat := fun s =>
  match s with
  | a :: b :: c :: d :: r =>
    match hexValue? a, hexValue? b, hexValue? c, hexValue? d with
    | some w, some x, some y, some z => .ok (((w * 16 + x) * 16 + y) * 16 + z, r)
    | _, _, _, _ => .error ⟨.misspelt .invalidEscape, s, 4⟩
  | _ =>
    if byteCount s < 4 then failBefore .endInString []
    else .error ⟨.misspelt .invalidEscape, s, 4⟩

/-- The second half of a surrogate pair whose first half is `high`. -/
def readLowSurrogate (high : Nat) : Reader Char
  | [] => failBefore .endInString []
  | '\\' :: s =>
    match s with
    | [] => failBefore .endInString []
    | 'u' :: s =>
      match readHex4 s with
      | .error e => .error e
      | .ok (low, r) =>
        if 0xDC00 ≤ low ∧ low ≤ 0xDFFF then
          .ok (Char.ofNat ((high - 0xD800) * 0x400 + (low - 0xDC00) + 0x10000), r)
        else failBefore .loneSurrogate r
    | c :: r => failAt .unfinishedSurrogatePair (c :: r)
  | c :: r => failAt .unfinishedSurrogatePair (c :: r)

/-- A character given by its code, the `u` already read. -/
def readCodeEscape : Reader Char := fun s =>
  match readHex4 s with
  | .error e => .error e
  | .ok (n, r) =>
    if 0xDC00 ≤ n ∧ n ≤ 0xDFFF then failBefore .loneSurrogate r
    else if 0xD800 ≤ n ∧ n ≤ 0xDBFF then readLowSurrogate n r
    else .ok (Char.ofNat n, r)

/-- The character that an escape stands for, the backslash already read. -/
def readEscape : Reader Char
  | [] => failBefore .endInString []
  | c :: r =>
    if c = '"' ∨ c = '\\' ∨ c = '/' then .ok (c, r)
    else if c = 'b' then .ok (Char.ofNat 8, r)
    else if c = 'f' then .ok (Char.ofNat 12, r)
    else if c = 'n' then .ok ('\n', r)
    else if c = 'r' then .ok ('\r', r)
    else if c = 't' then .ok ('\t', r)
    else if c = 'u' then readCodeEscape r
    else failAt .invalidEscape (c :: r)

/-- The characters of a string up to its closing quote, at most `fuel` of them
read one by one; `acc` holds those already read, the last first. -/
def readStringFrom : (fuel : Nat) → (acc : List Char) → Reader String
  | 0, _, s => failBefore .endInString s
  | _ + 1, _, [] => failBefore .endInString []
  | fuel + 1, acc, c :: r =>
    if c = '"' then .ok (.ofList acc.reverse, r)
    else if c = '\\' then
      match readEscape r with
      | .error e => .error e
      | .ok (d, r) => readStringFrom fuel (d :: acc) r
    else if c.toNat < 0x20 then failBefore .controlCharacter r
    else readStringFrom fuel (c :: acc) r

/-- A string, its opening quote already read. -/
def readString : Reader String := fun s => readStringFrom (s.length + 1) [] s

/-! ### Values -/

/-- One item, and those after it as `more` reads them. -/
def readItemThen {α : Type} (item : Reader α) (more : Reader (List α)) : Reader (List α) := fun s =>
  match item s with
  | .error e => .error e
  | .ok (a, r) =>
    match more r with
    | .error e => .error e
    | .ok (as, r) => .ok (a :: as, r)

/-- Items up to the closing bracket; `first` says that none was read yet. -/
def readItems {α : Type} (item : Reader α) : (fuel : Nat) → (first : Bool) → Reader (List α)
  | 0, _, s => failAt .endInList s
  | fuel + 1, first, s =>
    match skipSpace s with
    | [] => failAt .endInList []
    | ']' :: r => .ok ([], r)
    | c :: r =>
      if c = ',' ∧ first = false then
        match skipSpace r with
        | [] => failAt .endInValue []
        | ']' :: r => failAt .trailingComma (']' :: r)
        | r => readItemThen item (readItems item fuel false) r
      else if first then readItemThen item (readItems item fuel false) (c :: r)
      else failAt .expectedListSeparator (c :: r)

/-- The colon between a key and its value. -/
def readColon (s : List Char) : Except Snag (List Char) :=
  match skipSpace s with
  | [] => failAt .endInObject []
  | ':' :: r => .ok r
  | r => failAt .expectedColon r

/-- The key of the next member, or nothing before the closing brace.  The rest
starts after the key's closing quote, or after the brace. -/
def readKey (first : Bool) : Reader (Option String) := fun s =>
  match skipSpace s with
  | [] => failAt .endInObject []
  | '}' :: r => .ok (none, r)
  | c :: r =>
    if c = ',' ∧ first = false then
      match skipSpace r with
      | [] => failAt .endInValue []
      | '"' :: r => key r
      | '}' :: r => failAt .trailingComma ('}' :: r)
      | r => failAt .keyNotString r
    else if first then
      if c = '"' then key r else failAt .keyNotString (c :: r)
    else failAt .expectedObjectSeparator (c :: r)
where
  /-- A key whose opening quote is already read. -/
  key (s : List Char) : Except Snag (Option String × List Char) :=
    match readString s with
    | .error e => .error e
    | .ok (k, r) => .ok (some k, r)

/-- Members up to the closing brace, in written order. -/
def readMembers {α : Type} (value : Reader α) :
    (fuel : Nat) → (first : Bool) → Reader (List (String × α))
  | 0, _, s => failAt .endInObject s
  | fuel + 1, first, s =>
    match readKey first s with
    | .error e => .error e
    | .ok (none, r) => .ok ([], r)
    | .ok (some k, r) =>
      match readColon r with
      | .error e => .error e
      | .ok r =>
        match value r with
        | .error e => .error e
        | .ok (v, r) =>
          match readMembers value fuel false r with
          | .error e => .error e
          | .ok (ms, r) => .ok ((k, v) :: ms, r)

/-- How deep arrays and objects may nest. -/
def maxDepth : Nat := 127

/-- A value with at most `depth` levels of arrays and objects. -/
def readValue : (depth : Nat) → Reader Value
  | depth, s =>
    match skipSpace s with
    | [] => failAt .endInValue []
    | 'n' :: r => readLiteral .null ['u', 'l', 'l'] r
    | 't' :: r => readLiteral (.bool true) ['r', 'u', 'e'] r
    | 'f' :: r => readLiteral (.bool false) ['a', 'l', 's', 'e'] r
    | '"' :: r => Reader.map .string readString r
    | '[' :: r =>
      match depth with
      | 0 => failAt .tooDeep ('[' :: r)
      | depth + 1 => Reader.map .array (readItems (readValue depth) (r.length + 1) true) r
    | '{' :: r =>
      match depth with
      | 0 => failAt .tooDeep ('{' :: r)
      | depth + 1 => Reader.map .ofPairs (readMembers (readValue depth) (r.length + 1) true) r
    | '-' :: r => Reader.map .number (readNumber true) r
    | c :: r =>
      if c.isDigit then Reader.map .number (readNumber false) (c :: r)
      else failAt .expectedValue (c :: r)

/-- What a reader reads from a whole text, which may end in blanks. -/
def readWhole {α : Type} (reader : Reader α) (s : List Char) : Except Snag α :=
  match reader s with
  | .error e => .error e
  | .ok (a, r) =>
    match skipSpace r with
    | [] => .ok a
    | r => failAt .trailingCharacters r

/-- The value that the characters spell, or where they fail to spell one. -/
def parseChars (s : List Char) : Except Snag Value := readWhole (readValue maxDepth) s

/-- The value that a text spells, or where it fails to spell one. -/
def parse (s : String) : Except Snag Value := parseChars s.toList

/-- The value that the characters spell, if they spell one. -/
def parseChars? (s : List Char) : Option Value := (parseChars s).toOption

/-- The value that a text spells, if it spells one. -/
def parse? (s : String) : Option Value := parseChars? s.toList

end Json
end Errand

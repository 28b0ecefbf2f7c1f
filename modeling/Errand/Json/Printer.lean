/-
# Writing JSON

A value has two written forms.  The compact form holds no blank at all.  The
pretty form puts every item of an array and every member of an object on a line
of its own, two blanks further in than its surroundings, and keeps an empty
array or object on one line.

A string is written between quotes.  Quotes, backslashes and the characters
below U+0020 are escaped and no others.  A double is written with the fewest
digits that read back, always with a point or an exponent: positionally if its
decimal point lies at most 16 places after or less than 5 places before its
first digit.  An exponent has a sign and as many digits as it needs.
-/

import Errand.Json.Value
import Errand.Number.Shortest

namespace Errand
namespace Json

/-- Lower-case hexadecimal digit of a number below 16. -/
def hexDigit (n : Nat) : Char := Nat.digitChar n

/-- How a character stands inside a written string. -/
def escapeChar (c : Char) : List Char :=
  if c = '"' then ['\\', '"']
  else if c = '\\' then ['\\', '\\']
  else if c.toNat = 8 then ['\\', 'b']
  else if c.toNat = 12 then ['\\', 'f']
  else if c = '\n' then ['\\', 'n']
  else if c = '\r' then ['\\', 'r']
  else if c = '\t' then ['\\', 't']
  else if c.toNat < 0x20 then
    ['\\', 'u', '0', '0', hexDigit (c.toNat / 16), hexDigit (c.toNat % 16)]
  else [c]

/-- The inside of a written string. -/
def escapeChars (s : List Char) : List Char := s.flatMap escapeChar

/-- Each character is escaped on its own. -/
@[simp] theorem escapeChars_append (s t : List Char) :
    escapeChars (s ++ t) = escapeChars s ++ escapeChars t := by
  simp [escapeChars]

/-- A written string. -/
def quoteChars (s : List Char) : List Char := '"' :: escapeChars s ++ ['"']

/-- A decimal numeral. -/
def decimalChars (n : Nat) : List Char := Nat.toDigits 10 n

/-- `n` zeros. -/
def zeros (n : Nat) : List Char := List.replicate n '0'

/-- Where the positional notation of a double ends: with more than `places`
digits before the point, or with `gap` or more zeros after it, an exponent is
written. -/
structure RealStyle where
  places : Int
  gap : Int

/-- At most 16 digits before the point, and fewer than five zeros after it. -/
def realStyle : RealStyle := ⟨16, 5⟩

/-- An integer, with a sign if it is negative. -/
def intChars (i : Int) : List Char :=
  if i < 0 then '-' :: decimalChars i.natAbs else decimalChars i.natAbs

/-- An exponent, always with a sign. -/
def exponentChars (e : Int) : List Char := (if e < 0 then '-' else '+') :: decimalChars e.natAbs

/-- The decimal `digits · 10^exponent` in the notation that `style` gives. -/
def decimalText (style : RealStyle) (d : Number.Decimal) : List Char :=
  let ds := decimalChars d.digits
  let point : Int := ds.length + d.exponent
  if 0 ≤ d.exponent ∧ point ≤ style.places then
    ds ++ zeros d.exponent.toNat ++ ['.', '0']
  else if 0 < point ∧ point ≤ style.places then
    ds.take point.toNat ++ '.' :: ds.drop point.toNat
  else if -style.gap < point ∧ point ≤ 0 then
    '0' :: '.' :: zeros (-point).toNat ++ ds
  else
    let mantissa := match ds with
      | [d] => [d]
      | d :: r => d :: '.' :: r
      | [] => []
    mantissa ++ 'e' :: exponentChars (point - 1)

/-- The absolute value of a double, in the notation that `style` gives. -/
def realChars (x : Number.Binary) : List Char :=
  let body :=
    if x.isZero then ['0', '.', '0']
    else decimalText realStyle (Number.Format.binary64.shortest x.mantissa x.exponent)
  if x.negative then '-' :: body else body

/-- A written number. -/
def Number.chars : Number → List Char
  | .int i => intChars i
  | .real x => realChars x

mutual

/-- The compact form of a value. -/
def Value.compactChars : Value → List Char
  | .null => ['n', 'u', 'l', 'l']
  | .bool true => ['t', 'r', 'u', 'e']
  | .bool false => ['f', 'a', 'l', 's', 'e']
  | .number n => n.chars
  | .string s => quoteChars s.toList
  | .array items => '[' :: Value.compactItems items ++ [']']
  | .object members => '{' :: Value.compactMembers members ++ ['}']

/-- The items of an array, with commas between them. -/
def Value.compactItems : List Value → List Char
  | [] => []
  | [v] => v.compactChars
  | v :: r => v.compactChars ++ ',' :: Value.compactItems r

/-- The members of an object, with commas between them. -/
def Value.compactMembers : List (String × Value) → List Char
  | [] => []
  | [(k, v)] => quoteChars k.toList ++ ':' :: v.compactChars
  | (k, v) :: r => quoteChars k.toList ++ ':' :: v.compactChars ++ ',' :: Value.compactMembers r

end

/-- A new line, `depth` levels in. -/
def newline (depth : Nat) : List Char := '\n' :: List.replicate (2 * depth) ' '

mutual

/-- The pretty form of a value that stands `depth` levels in. -/
def Value.prettyChars (depth : Nat) : Value → List Char
  | .array [] => ['[', ']']
  | .array items => '[' :: Value.prettyItems (depth + 1) items ++ newline depth ++ [']']
  | .object [] => ['{', '}']
  | .object members => '{' :: Value.prettyMembers (depth + 1) members ++ newline depth ++ ['}']
  | .null => ['n', 'u', 'l', 'l']
  | .bool true => ['t', 'r', 'u', 'e']
  | .bool false => ['f', 'a', 'l', 's', 'e']
  | .number n => n.chars
  | .string s => quoteChars s.toList

/-- The items of an array, each on its line. -/
def Value.prettyItems (depth : Nat) : List Value → List Char
  | [] => []
  | [v] => newline depth ++ v.prettyChars depth
  | v :: r => newline depth ++ v.prettyChars depth ++ ',' :: Value.prettyItems depth r

/-- The members of an object, each on its line. -/
def Value.prettyMembers (depth : Nat) : List (String × Value) → List Char
  | [] => []
  | [(k, v)] => newline depth ++ quoteChars k.toList ++ ':' :: ' ' :: v.prettyChars depth
  | (k, v) :: r =>
    newline depth ++ quoteChars k.toList ++ ':' :: ' ' :: v.prettyChars depth ++
      ',' :: Value.prettyMembers depth r

end

namespace Value

/-- The compact form of a value. -/
def compact (v : Value) : String := .ofList v.compactChars

/-- The pretty form of a value. -/
def pretty (v : Value) : String := .ofList (v.prettyChars 0)

/-- A value as text: a string is its own text, any other value its compact
form. -/
def render : Value → String
  | .string s => s
  | v => v.compact

end Value
end Json
end Errand

/-
# Booleans, numbers, dates and times in TOML

Everything here takes the whole spelling of a value and says what it stands for.

The digits of a number may be grouped by single low lines.  A number in base ten has
no leading zero; one in base sixteen, eight or two has no sign.  A double too large
for its format is refused.  A date or a time keeps its parts: the fraction of a
second loses the zeros at its end and everything after nine digits.
-/

import Errand.Json.Reader
import Errand.Toml.Value

namespace Errand
namespace Toml

/-- Digits without the low lines that group them, each between two digits. -/
def ungroup? (isDigit : Char → Bool) : List Char → Option (List Char)
  | [] => none
  | [c] => if isDigit c then some [c] else none
  | c :: '_' :: r => if isDigit c then (ungroup? isDigit r).map (c :: ·) else none
  | c :: r => if isDigit c then (ungroup? isDigit r).map (c :: ·) else none

/-- The number that digits spell in a base. -/
def digitsValue (base : Nat) (ds : List Char) : Nat :=
  ds.foldl (fun n c => base * n + (Json.hexValue? c).getD 0) 0

/-- Whether a character is a digit in a base. -/
def isDigitIn (base : Nat) (c : Char) : Bool := (Json.hexValue? c).any (· < base)

/-- The digits of a number in base ten: no leading zero. -/
def wholeDigits? (s : List Char) : Option (List Char) :=
  match ungroup? Char.isDigit s with
  | some ('0' :: _ :: _) | none => none
  | some ds => some ds

/-- Whether a sign is a minus, and what follows it. -/
def sign : List Char → Bool × List Char
  | '-' :: r => (true, r)
  | '+' :: r => (false, r)
  | s => (false, s)

/-- An integer, unless it needs more than 128 bits. -/
def boundedInteger? (negative : Bool) (n : Nat) : Option Value :=
  if negative then if n ≤ Nat.pow 2 127 then some (.integer (-(n : Int))) else none
  else if n < Nat.pow 2 128 then some (.integer n) else none

/-- An integer. -/
def integer? (s : List Char) : Option Value :=
  let inBase (base : Nat) (r : List Char) : Option Value :=
    (ungroup? (isDigitIn base) r).bind fun ds => boundedInteger? false (digitsValue base ds)
  match s with
  | '0' :: 'x' :: r => inBase 16 r
  | '0' :: 'o' :: r => inBase 8 r
  | '0' :: 'b' :: r => inBase 2 r
  | s =>
    let (negative, r) := sign s
    (wholeDigits? r).bind fun ds => boundedInteger? negative (digitsValue 10 ds)

/-- The double nearest to `± significand · 10^exponent`, unless it is too large.
`length` is the number of digits of the significand. -/
def nearestReal? (negative : Bool) (significand length : Nat) (exponent : Int) :
    Option Number.Binary :=
  if significand = 0 ∨ length + exponent < -400 then some (.zero negative)
  else if 400 < length + exponent then none
  else
    let (n, d) := Number.scaleTen significand 1 exponent
    Number.Binary.ofRatio? negative n d

/-- The digits after a point, if there is one, and what follows them. -/
def fraction? (s : List Char) : Option (List Char × List Char) :=
  match s with
  | '.' :: r =>
    let isPart (c : Char) : Bool := c.isDigit || c == '_'
    (ungroup? Char.isDigit (r.takeWhile isPart)).map fun ds => (ds, r.dropWhile isPart)
  | s => some ([], s)

/-- An exponent, zero if there is none. -/
def exponent? (s : List Char) : Option Int :=
  match s with
  | [] => some 0
  | 'e' :: r | 'E' :: r =>
    let (negative, r) := sign r
    (ungroup? Char.isDigit r).map fun ds =>
      let n : Int := digitsValue 10 ds
      if negative then -n else n
  | _ => none

/-- A double that is written with a point or an exponent. -/
def decimal? (s : List Char) : Option Value := do
  let (negative, r) := sign s
  let isPart (c : Char) : Bool := c.isDigit || c == '_'
  let whole ← wholeDigits? (r.takeWhile isPart)
  let rest := r.dropWhile isPart
  if rest.isEmpty then none
  let (places, rest) ← fraction? rest
  let e ← exponent? rest
  let ds := whole ++ places
  let x ← nearestReal? negative (digitsValue 10 ds) ds.length (e - places.length)
  return .real x

/-- A number that is not finite. -/
def nonFinite? (s : List Char) : Option Value :=
  let (negative, r) := sign s
  if r = ['i', 'n', 'f'] then some (.infinite negative)
  else if r = ['n', 'a', 'n'] then some .undefined
  else none

/-- A boolean. -/
def boolean? (s : List Char) : Option Value :=
  if s = ['t', 'r', 'u', 'e'] then some (.bool true)
  else if s = ['f', 'a', 'l', 's', 'e'] then some (.bool false)
  else none

/-! ### Dates and times -/

/-- A number of two digits that is at most `top`, and what follows it. -/
def twoDigits? (top : Nat) : List Char → Option (List Char × List Char)
  | a :: b :: r =>
    if a.isDigit && b.isDigit && digitsValue 10 [a, b] ≤ top then some ([a, b], r) else none
  | _ => none

/-- What follows a character that must come next. -/
def after? (c : Char) : List Char → Option (List Char)
  | d :: r => if c = d then some r else none
  | [] => none

/-- How many days a month has. -/
def daysInMonth (year month : Nat) : Nat :=
  if month = 2 then
    if year % 4 = 0 ∧ (year % 100 ≠ 0 ∨ year % 400 = 0) then 29 else 28
  else if [4, 6, 9, 11].contains month then 30
  else 31

/-- A date, and what follows it. -/
def date? (s : List Char) : Option (List Char × List Char) := do
  let (century, r) ← twoDigits? 99 s
  let (year, r) ← twoDigits? 99 r
  let (month, r) ← twoDigits? 12 (← after? '-' r)
  let m := digitsValue 10 month
  let days := daysInMonth (digitsValue 10 (century ++ year)) m
  let (day, r) ← twoDigits? days (← after? '-' r)
  if m = 0 ∨ digitsValue 10 day = 0 then none
  return (century ++ year ++ '-' :: month ++ '-' :: day, r)

/-- The fraction of a second, if there is one, and what follows it. -/
def secondFraction? (s : List Char) : Option (List Char × List Char) :=
  match s with
  | '.' :: r =>
    let ds := (r.takeWhile Char.isDigit).take 9
    if ds.isEmpty then none
    else
      let kept := (ds.reverse.dropWhile (· == '0')).reverse
      some ('.' :: (if kept.isEmpty then ['0'] else kept), r.dropWhile Char.isDigit)
  | s => some ([], s)

/-- The seconds, if they are given, and what follows them. -/
def seconds? (s : List Char) : Option (List Char × List Char) :=
  match s with
  | ':' :: r => do
    let (second, r) ← twoDigits? 60 r
    let (places, r) ← secondFraction? r
    return (':' :: second ++ places, r)
  | s => some ([], s)

/-- A time of day, and what follows it. -/
def time? (s : List Char) : Option (List Char × List Char) := do
  let (hour, r) ← twoDigits? 23 s
  let (minute, r) ← twoDigits? 59 (← after? ':' r)
  let (second, r) ← seconds? r
  return (hour ++ ':' :: minute ++ second, r)

/-- The distance from universal time, if it is given. -/
def offset? (s : List Char) : Option (List Char) :=
  let distance (mark : Char) (r : List Char) : Option (List Char) := do
    let (hour, r) ← twoDigits? 23 r
    let (minute, r) ← twoDigits? 59 (← after? ':' r)
    if r.isEmpty then some (mark :: hour ++ ':' :: minute) else none
  match s with
  | [] => some []
  | ['Z'] | ['z'] => some ['Z']
  | '+' :: r => distance '+' r
  | '-' :: r => distance '-' r
  | _ => none

/-- A date, a time of day, or both. -/
def moment? (s : List Char) : Option Value :=
  let chars : Option (List Char) :=
    match date? s with
    | some (date, []) => some date
    | some (date, c :: r) =>
      if c = 'T' ∨ c = 't' ∨ c = ' ' then do
        let (time, r) ← time? r
        return date ++ 'T' :: time ++ (← offset? r)
      else none
    | none =>
      match time? s with
      | some (time, []) => some time
      | _ => none
  chars.map fun t => .moment (.ofList t)

/-- The value that a spelling without quotes or brackets stands for. -/
def scalar? (s : List Char) : Option Value :=
  [boolean?, integer?, decimal?, nonFinite?, moment?].findSome? fun read => read s

/-- The characters of such a spelling. -/
def isScalarChar (c : Char) : Bool := c.isAlphanum || ['+', '-', '.', '_', ':'].contains c

/-- The spelling at the start of a text, and what follows it.  A blank is part of it
between a date and a time. -/
def spelling (s : List Char) : List Char × List Char :=
  let first := s.takeWhile isScalarChar
  let rest := s.dropWhile isScalarChar
  match date? first, rest with
  | some (_, []), ' ' :: c :: r =>
    if c.isDigit then
      (first ++ ' ' :: (c :: r).takeWhile isScalarChar, (c :: r).dropWhile isScalarChar)
    else (first, rest)
  | _, _ => (first, rest)

end Toml
end Errand

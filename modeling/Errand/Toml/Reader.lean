/-
# Reading TOML

A document is read line by line: a header, or a key and its value, then perhaps a
comment.  The value of a key goes into the table that the last header opened.
Arrays and tables that are written out may go over several lines, may end in a
comma, and nest up to a bound.

Nothing is said about why a text is no document.
-/

import Errand.Text.Search
import Errand.Toml.Scalar
import Errand.Toml.Table

namespace Errand
namespace Toml

/-- A reader of `α`: what it read, and the characters after it. -/
abbrev Reader (α : Type) := List Char → Option (α × List Char)

/-- Whether a character is a blank inside a line. -/
def isSpace (c : Char) : Bool := c == ' ' || c == '\t'

/-- The characters after the leading blanks of a line. -/
def skipSpace (s : List Char) : List Char := s.dropWhile isSpace

/-- What follows a line end, if one stands here. -/
def lineEnd? : List Char → Option (List Char)
  | '\n' :: r => some r
  | '\r' :: '\n' :: r => some r
  | _ => none

/-- Whether a character may stand for itself in a comment or in quotes. -/
def isPlain (c : Char) : Bool := c == '\t' || (0x20 ≤ c.toNat && c.toNat != 0x7F)

/-- What follows a comment, if one stands here. -/
def skipComment : List Char → List Char
  | '#' :: r => r.dropWhile isPlain
  | s => s

/-- The characters after blanks, comments and line ends. -/
def skipLines : (fuel : Nat) → List Char → List Char
  | 0, s => s
  | fuel + 1, s =>
    let r := skipComment (skipSpace s)
    match lineEnd? r with
    | some r => skipLines fuel r
    | none => r

/-- The characters after blanks, comments and line ends. -/
def skipVoid (s : List Char) : List Char := skipLines (s.length + 1) s

/-! ### Strings -/

/-- A character given by so many hexadecimal digits. -/
def readCode (digits : Nat) : Reader Char := fun s =>
  let ds := s.take digits
  let n := digitsValue 16 ds
  if ds.length = digits ∧ ds.all (isDigitIn 16) ∧ n.isValidChar then
    some (.ofNat n, s.drop digits)
  else none

/-- The character that an escape stands for, the backslash already read. -/
def readEscape : Reader Char
  | [] => none
  | c :: r =>
    if c = '"' ∨ c = '\\' then some (c, r)
    else if c = 'b' then some (.ofNat 8, r)
    else if c = 't' then some ('\t', r)
    else if c = 'n' then some ('\n', r)
    else if c = 'f' then some (.ofNat 12, r)
    else if c = 'r' then some ('\r', r)
    else if c = 'e' then some (.ofNat 27, r)
    else if c = 'x' then readCode 2 r
    else if c = 'u' then readCode 4 r
    else if c = 'U' then readCode 8 r
    else none

/-- A string between quotes, the opening one already read. -/
def readBasic : (fuel : Nat) → Reader (List Char)
  | 0, _ | _ + 1, [] => none
  | fuel + 1, c :: r =>
    if c = '"' then some ([], r)
    else if c = '\\' then
      match readEscape r with
      | none => none
      | some (d, r) => (readBasic fuel r).map fun (t, r) => (d :: t, r)
    else if isPlain c then (readBasic fuel r).map fun (t, r) => (c :: t, r)
    else none

/-- A string between apostrophes, the opening one already read. -/
def readLiteral (s : List Char) : Option (List Char × List Char) :=
  let inside (c : Char) : Bool := isPlain c && c != '\''
  match s.dropWhile inside with
  | '\'' :: r => some (s.takeWhile inside, r)
  | _ => none

/-- The marks at the end of a string over several lines: those before the closing
three belong to the string, and there are at most two. -/
def closing? (mark : Char) (s : List Char) : Option (List Char × List Char) :=
  let n := (s.takeWhile (· == mark)).length
  if n < 3 then none
  else
    let n := min n 5
    some (List.replicate (n - 3) mark, s.drop n)

/-- What follows a backslash that hides the end of its line, and the blanks and
empty lines after it. -/
def hiddenLineEnd? (s : List Char) : Option (List Char) :=
  (lineEnd? (skipSpace s)).map fun r => r.dropWhile fun c => isSpace c || c == '\n' || c == '\r'

/-- A string over several lines between three quotes, the opening ones already
read. -/
def readLongBasic : (fuel : Nat) → Reader (List Char)
  | 0, _ | _ + 1, [] => none
  | fuel + 1, c :: r =>
    match closing? '"' (c :: r) with
    | some end? => some end?
    | none =>
      match lineEnd? (c :: r) with
      | some r => (readLongBasic fuel r).map fun (t, r) => ('\n' :: t, r)
      | none =>
        if c = '\\' then
          match hiddenLineEnd? r with
          | some r => readLongBasic fuel r
          | none =>
            match readEscape r with
            | none => none
            | some (d, r) => (readLongBasic fuel r).map fun (t, r) => (d :: t, r)
        else if isPlain c then (readLongBasic fuel r).map fun (t, r) => (c :: t, r)
        else none

/-- A string over several lines between three apostrophes, the opening ones already
read. -/
def readLongLiteral : List Char → Option (List Char × List Char)
  | [] => none
  | c :: r =>
    match closing? '\'' (c :: r) with
    | some end? => some end?
    | none =>
      if isPlain c || (lineEnd? (c :: r)).isSome then
        (readLongLiteral r).map fun (t, r) => (c :: t, r)
      else none

/-- What follows a line end right after three opening marks. -/
def skipFirstLineEnd (s : List Char) : List Char := (lineEnd? s).getD s

/-- A string. -/
def readText : Reader (List Char)
  | '"' :: '"' :: '"' :: r => readLongBasic (r.length + 1) (skipFirstLineEnd r)
  | '\'' :: '\'' :: '\'' :: r => readLongLiteral (skipFirstLineEnd r)
  | '"' :: r => readBasic (r.length + 1) r
  | '\'' :: r => readLiteral r
  | _ => none

/-! ### Keys -/

/-- Whether a character may stand in a key without quotes. -/
def isKeyChar (c : Char) : Bool := c.isAlphanum || c == '_' || c == '-'

/-- One part of a key. -/
def readKeyPart : Reader String
  | '"' :: r => (readBasic (r.length + 1) r).map fun (k, r) => (.ofList k, r)
  | '\'' :: r => (readLiteral r).map fun (k, r) => (.ofList k, r)
  | s =>
    let k := s.takeWhile isKeyChar
    if k.isEmpty then none else some (.ofList k, s.dropWhile isKeyChar)

/-- A key: the parts before the last, and the last.  It has at most `parts`. -/
def readKey : (parts : Nat) → Reader (List String × String)
  | 0, _ => none
  | parts + 1, s =>
    match readKeyPart (skipSpace s) with
    | none => none
    | some (k, r) =>
      match skipSpace r with
      | '.' :: r => (readKey parts r).map fun ((path, last), r) => ((k :: path, last), r)
      | r => some (([], k), r)

/-- How many parts a key may have, and how deep values may nest. -/
def maxDepth : Nat := 80

/-! ### Values -/

/-- Items up to the closing bracket. -/
def readItems (item : Reader Value) : (fuel : Nat) → Reader (List Value)
  | 0, _ => none
  | fuel + 1, s =>
    match skipVoid s with
    | ']' :: r => some ([], r)
    | s =>
      match item s with
      | none => none
      | some (v, r) =>
        match skipVoid r with
        | ',' :: r => (readItems item fuel r).map fun (vs, r) => (v :: vs, r)
        | ']' :: r => some ([v], r)
        | _ => none

/-- A key and its value. -/
def readPair (value : Reader Value) : Reader (List String × String × Value) := fun s =>
  match readKey maxDepth s with
  | some ((path, key), '=' :: r) =>
    (value (skipSpace r)).map fun (v, r) => ((path, key, v), r)
  | _ => none

/-- Pairs up to the closing brace, put into a table. -/
def readPairs (value : Reader Value) : (fuel : Nat) → Draft → Reader Draft
  | 0, _, _ => none
  | fuel + 1, d, s =>
    match skipVoid s with
    | '}' :: r => some (d, r)
    | s =>
      match readPair value s with
      | none => none
      | some ((path, key, v), r) =>
        match d.addValue path key v with
        | none => none
        | some d =>
          match skipVoid r with
          | ',' :: r => readPairs value fuel d r
          | '}' :: r => some (d, r)
          | _ => none

/-- A value in which arrays and tables nest at most `depth` deep. -/
def readValue : (depth : Nat) → Reader Value
  | depth, s =>
    match s with
    | '"' :: _ | '\'' :: _ => (readText s).map fun (t, r) => (.text (.ofList t), r)
    | '[' :: r =>
      match depth with
      | 0 => none
      | depth + 1 =>
        (readItems (readValue depth) (r.length + 1) r).map fun (vs, r) => (.array vs, r)
    | '{' :: r =>
      match depth with
      | 0 => none
      | depth + 1 =>
        (readPairs (readValue depth) (r.length + 1) {} r).map fun (d, r) => (d.value, r)
    | s =>
      let (t, r) := spelling s
      (scalar? t).map (·, r)

/-! ### Documents -/

/-- A line of a document. -/
inductive Line where
  | header (path : List String) (key : String)
  /-- The header of one more table of an array. -/
  | nextHeader (path : List String) (key : String)
  | pair (path : List String) (key : String) (v : Value)

/-- A line that is not empty, up to its comment. -/
def readLine : Reader Line
  | '[' :: '[' :: r =>
    match readKey maxDepth r with
    | some ((path, key), ']' :: ']' :: r) => some (.nextHeader path key, r)
    | _ => none
  | '[' :: r =>
    match readKey maxDepth r with
    | some ((path, key), ']' :: r) => some (.header path key, r)
    | _ => none
  | s => (readPair (readValue maxDepth) s).map fun ((path, key, v), r) => (.pair path key v, r)

/-- The lines of a document. -/
def readDocument : (fuel : Nat) → List Char → Option (List Line)
  | 0, _ => none
  | fuel + 1, s =>
    match skipVoid s with
    | [] => some []
    | s =>
      match readLine s with
      | none => none
      | some (l, r) =>
        match skipComment (skipSpace r) with
        | [] => some [l]
        | r =>
          match lineEnd? r with
          | none => none
          | some r => (readDocument fuel r).map (l :: ·)

/-- Put lines into a document's table, `current` being the path of the table that
the last header opened. -/
def assemble : (current : List String) → Draft → List Line → Option Draft
  | _, d, [] => some d
  | current, d, l :: rest =>
    match l with
    | .header path key =>
      match d.openTable path key with
      | none => none
      | some d => assemble (path ++ [key]) d rest
    | .nextHeader path key =>
      match d.openNext path key with
      | none => none
      | some d => assemble (path ++ [key]) d rest
    | .pair path key v =>
      match Draft.change false current (Draft.addValue path key v) d with
      | none => none
      | some d => assemble current d rest

/-- The characters of a text after a byte order mark. -/
def withoutMark (s : List Char) : List Char :=
  match s with
  | c :: r => if c.toNat = 0xFEFF then r else s
  | [] => []

/-- The table that a document spells. -/
def parse? (text : String) : Option Value :=
  let s := withoutMark text.toList
  ((readDocument (s.length + 1) s).bind (assemble [] {})).map Draft.value

end Toml
end Errand

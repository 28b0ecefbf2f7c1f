/-
# Writing TOML

A table is written as a block: its header, then its entries that are no tables.  The
blocks of the tables in it follow, in order, with an empty line between blocks.  A
table that only holds tables needs no block of its own.  An array of tables becomes a
block for each of them.

Other arrays are written out: those of more than one item with an item on each line,
four blanks in, and a comma after each.  Doubles are written without an exponent.  A
text is written in the first style that needs no escape: quotes, apostrophes, three
quotes, three apostrophes; and with escapes in quotes, three if it goes over several
lines.
-/

import Errand.Json.Printer
import Errand.Toml.Value

namespace Errand
namespace Toml

/-! ### Texts and keys -/

/-- Whether a character must be escaped in every style that has escapes, the line
end and the tab aside. -/
def isControl (c : Char) : Bool :=
  (c.toNat < 0x20 && c != '\n' && c != '\t') || c.toNat == 0x7F

/-- The longest run of a character. -/
def longestRun (mark : Char) : List Char → (current best : Nat) → Nat
  | [], _, best => best
  | c :: r, current, best =>
    if c = mark then longestRun mark r (current + 1) (max best (current + 1))
    else longestRun mark r 0 best

/-- How a text is written. -/
inductive TextStyle where
  | basic
  | literal
  | longBasic
  | longLiteral
deriving DecidableEq, Repr

/-- The style of a text. -/
def textStyle (s : List Char) : TextStyle :=
  let controls := s.any isControl
  let escapes := controls || s.contains '\\'
  let lines := s.contains '\n'
  let quotes := longestRun '"' s 0 0
  let apostrophes := longestRun '\'' s 0 0
  if !escapes && quotes = 0 && !lines then .basic
  else if !controls && apostrophes = 0 && !lines then .literal
  else if !escapes && quotes ≤ 2 then .longBasic
  else if !controls && apostrophes ≤ 2 then .longLiteral
  else if lines then .longBasic
  else .basic

/-- The style of a key that needs quotes. -/
def keyStyle (s : List Char) : TextStyle :=
  let controls := s.any fun c => isControl c || c == '\n'
  if !controls && !s.contains '\\' && !s.contains '"' then .basic
  else if !controls && !s.contains '\'' then .literal
  else .basic

/-- A character of which only the code is written. -/
def codeEscape (c : Char) : List Char :=
  let ds := (Nat.toDigits 16 c.toNat).map Char.toUpper
  '\\' :: 'u' :: Json.zeros (4 - ds.length) ++ ds

/-- How a character stands between quotes; a quote and a line end are left to the
caller. -/
def escapeChar (c : Char) : List Char :=
  if c.toNat = 8 then ['\\', 'b']
  else if c = '\t' then ['\\', 't']
  else if c.toNat = 12 then ['\\', 'f']
  else if c = '\r' then ['\\', 'r']
  else if c = '\\' then ['\\', '\\']
  else if isControl c then codeEscape c
  else [c]

/-- The inside of a text between quotes.  A line end is kept if `long`, and `run`
quotes in a row have just been written; one more is escaped where `most` may not be
exceeded. -/
def escapeChars (long : Bool) (most : Nat) : (run : Nat) → List Char → List Char
  | _, [] => []
  | run, c :: r =>
    if c = '"' then
      if run < most then '"' :: escapeChars long most (run + 1) r
      else '\\' :: '"' :: escapeChars long most 0 r
    else if c = '\n' then
      (if long then ['\n'] else ['\\', 'n']) ++ escapeChars long most 0 r
    else escapeChar c ++ escapeChars long most 0 r

/-- A text in a style. -/
def styledText (style : TextStyle) (s : List Char) : List Char :=
  let first := if s.contains '\n' then ['\n'] else []
  let three (mark : Char) (inside : List Char) : List Char :=
    List.replicate 3 mark ++ first ++ inside ++ List.replicate 3 mark
  match style with
  | .basic => '"' :: escapeChars false 0 0 s ++ ['"']
  | .literal => '\'' :: s ++ ['\'']
  | .longBasic => three '"' (escapeChars true 2 0 s)
  | .longLiteral => three '\'' s

/-- A text. -/
def textChars (t : String) : List Char := styledText (textStyle t.toList) t.toList

/-- Whether a character may stand in a key without quotes. -/
def isBareKeyChar (c : Char) : Bool := c.isAlphanum || c == '_' || c == '-'

/-- A key, in quotes if it needs them. -/
def keyChars (k : String) : List Char :=
  let s := k.toList
  if !s.isEmpty && s.all isBareKeyChar then s else styledText (keyStyle s) s

/-- A path of keys, with dots between them. -/
def pathChars (path : List String) : List Char := ['.'].intercalate (path.map keyChars)

/-! ### Values -/

/-- Doubles have no exponent, however many digits that takes. -/
def realStyle : Json.RealStyle := ⟨400, 400⟩

/-- A double. -/
def realChars (x : Number.Binary) : List Char :=
  let body :=
    if x.isZero then ['0', '.', '0']
    else Json.decimalText realStyle (Number.Format.binary64.shortest x.mantissa x.exponent)
  if x.negative then '-' :: body else body

mutual

/-- A value that is written out. -/
def Value.chars : Value → List Char
  | .bool true => ['t', 'r', 'u', 'e']
  | .bool false => ['f', 'a', 'l', 's', 'e']
  | .integer i => Json.intChars i
  | .real x => realChars x
  | .infinite negative => (if negative then ['-'] else []) ++ ['i', 'n', 'f']
  | .undefined => ['n', 'a', 'n']
  | .text t => textChars t
  | .array [] => ['[', ']']
  | .array [v] => '[' :: v.chars ++ [']']
  | .array (v :: r) => '[' :: '\n' :: itemLines (v :: r) ++ [']']
  | .table [] => ['{', '}']
  | .table (e :: r) => '{' :: ' ' :: pairsInline (e :: r) ++ [' ', '}']

/-- Items on lines of their own. -/
def itemLines : List Value → List Char
  | [] => []
  | v :: r => ' ' :: ' ' :: ' ' :: ' ' :: v.chars ++ ',' :: '\n' :: itemLines r

/-- Entries with commas between them. -/
def pairsInline : Entries → List Char
  | [] => []
  | [(k, v)] => keyChars k ++ ' ' :: '=' :: ' ' :: v.chars
  | (k, v) :: r => keyChars k ++ ' ' :: '=' :: ' ' :: v.chars ++ ',' :: ' ' :: pairsInline r

end

/-! ### Documents -/

/-- A block of a document. -/
structure Block where
  path : List String
  /-- Whether it is a table of an array. -/
  isItem : Bool
  pairs : Entries

/-- Whether a value is a table. -/
def Value.isTable : Value → Bool
  | .table _ => true
  | _ => false

/-- Whether a value gets blocks of its own: a table, or an array of tables. -/
def Value.isBlocks : Value → Bool
  | .table _ => true
  | .array vs => !vs.isEmpty && vs.all Value.isTable
  | _ => false

/-- The block of a table, if it needs one. -/
def ownBlock (path : List String) (isItem : Bool) (es : Entries) : List Block :=
  let pairs := es.filter fun e => !e.2.isBlocks
  let needed := if path.isEmpty then !pairs.isEmpty
    else isItem || !pairs.isEmpty || es.isEmpty
  if needed then [⟨path, isItem, pairs⟩] else []

mutual

/-- The blocks of a value under a path. -/
def Value.blocks (path : List String) : Value → List Block
  | .table es => ownBlock path false es ++ entryBlocks path es
  | .array vs => if vs.all Value.isTable then itemBlocks path vs else []
  | _ => []

/-- The blocks of the tables among entries. -/
def entryBlocks (path : List String) : Entries → List Block
  | [] => []
  | (k, v) :: r => v.blocks (path ++ [k]) ++ entryBlocks path r

/-- The blocks of the tables of an array. -/
def itemBlocks (path : List String) : List Value → List Block
  | [] => []
  | .table es :: r => ownBlock path true es ++ entryBlocks path es ++ itemBlocks path r
  | _ :: r => itemBlocks path r

end

/-- The header of a block. -/
def Block.header (b : Block) : List Char :=
  if b.path.isEmpty then []
  else if b.isItem then '[' :: '[' :: pathChars b.path ++ [']', ']', '\n']
  else '[' :: pathChars b.path ++ [']', '\n']

/-- The lines of a block. -/
def Block.chars (b : Block) : List Char :=
  b.header ++ b.pairs.flatMap fun (k, v) => keyChars k ++ ' ' :: '=' :: ' ' :: v.chars ++ ['\n']

/-- A document. -/
def Value.document (v : Value) : String :=
  .ofList (['\n'].intercalate ((v.blocks []).map Block.chars))

end Toml
end Errand

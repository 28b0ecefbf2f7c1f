/-
# Lower case

The full lower-case form of a text: every character goes to its lower-case form,
a capital sigma to the final sigma when it ends a word and to the ordinary one
otherwise.  A sigma ends a word if, apart from characters that case ignores, a
cased character stands before it and none after it.

The ASCII forms touch the letters `A` to `Z` alone.
-/

import Errand.Text.CaseTable

namespace Errand
namespace Text

/-- The lower-case form of one character, on its own. -/
def lowerChar (c : Char) : List Char :=
  if c.toNat < 0x80 then [c.toLower]
  else if c.toNat = 0x130 then ['i', Char.ofNat 0x307]
  else match lowerRuns.find? (·.holds c.toNat) with
    | some r => [Char.ofNat ((c.toNat : Int) + r.shift).toNat]
    | none => [c]

/-- Whether case looks past the character. -/
def isCaseIgnorable (c : Char) : Bool := inRanges caseIgnorableRanges c.toNat

/-- Whether the character is upper, lower or title case. -/
def isCased (c : Char) : Bool := inRanges casedRanges c.toNat

/-- Whether the first character that case does not ignore is cased. -/
def opensCased (s : List Char) : Bool :=
  match s.dropWhile isCaseIgnorable with
  | [] => false
  | c :: _ => isCased c

/-- The capital sigma. -/
def capitalSigma : Char := Char.ofNat 0x3A3

/-- The lower-case sigma between `before` (nearest first) and `after`. -/
def lowerSigma (before after : List Char) : Char :=
  if opensCased before && !opensCased after then Char.ofNat 0x3C2 else Char.ofNat 0x3C3

/-- The lower-case form of a text that follows `before` (nearest first). -/
def lowerFrom (before : List Char) : List Char → List Char
  | [] => []
  | c :: r =>
    (if c = capitalSigma then [lowerSigma before r] else lowerChar c) ++ lowerFrom (c :: before) r

/-- The lower-case form of a text. -/
def lower (s : String) : String := .ofList (lowerFrom [] s.toList)

/-- The text with the ASCII letters in lower case. -/
def lowerAscii (s : String) : String := .ofList (s.toList.map Char.toLower)

/-- Whether two texts differ at most in the case of ASCII letters. -/
def equalIgnoringCase (s t : String) : Bool :=
  s.toList.map Char.toLower == t.toList.map Char.toLower

/-- A text equals itself in whatever case. -/
@[simp] theorem equalIgnoringCase_self (s : String) : equalIgnoringCase s s = true := by
  simp [equalIgnoringCase]

end Text
end Errand

/-
# Texts shown between quotes

Where a message shows a text that a caller gave, the text stands between quotes:
the quote, the backslash and the usual controls are escaped by a backslash, and a
character that would not show on its own is written as its code point.
-/

import Errand.Text.HiddenTable

namespace Errand
namespace Text

/-- How a character stands inside a quoted text. -/
def quotedChar (c : Char) : List Char :=
  if c = '"' then ['\\', '"']
  else if c = '\\' then ['\\', '\\']
  else if c.toNat = 0 then ['\\', '0']
  else if c = '\n' then ['\\', 'n']
  else if c = '\r' then ['\\', 'r']
  else if c = '\t' then ['\\', 't']
  else if isHidden c then ['\\', 'u', '\x7b'] ++ Nat.toDigits 16 c.toNat ++ ['\x7d']
  else [c]

/-- A text between quotes. -/
def quoted (s : String) : String := .ofList ('"' :: s.toList.flatMap quotedChar ++ ['"'])

end Text
end Errand

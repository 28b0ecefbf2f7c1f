/-
# Keeping a prompt within a budget

SPEC_FULL.md, section 11.1, on the byte budget of a prompt.

Sections are joined with an empty line between them, and the length of the whole is
counted in bytes.  While it exceeds the budget, droppable sections are dropped, the
least important first, at most one for each key.  If that is not enough, the last
section is cut short at a character, with a mark that says so where there is room
for one.
-/

import Errand.Prompt.Section

namespace Errand
namespace Prompt

/-- What stands between sections. -/
def separator : String := "\n\n"

/-- The keys of sections that may be dropped, the least important first. -/
def dropOrder : List String := ["bindings", "history", "parameters"]

/-- What is put at the end of a section that was cut short. -/
def truncationMark : String := "\n[truncated]"

/-- The sections in one text. -/
def join (ss : List Section) : String := String.intercalate separator (ss.map (·.content))

/-- The length of the sections in one text, in bytes. -/
def joinedSize (ss : List Section) : Nat :=
  ss.foldr (fun s n => s.content.utf8ByteSize + n) 0 +
    separator.utf8ByteSize * (ss.length - 1)

/-- Drop the first droppable section with a key, if the sections exceed the
budget. -/
def dropSection (budget : Nat) (ss : List Section) (key : String) : List Section :=
  if joinedSize ss ≤ budget then ss
  else ss.eraseP fun s => s.key == key && !s.isRequired

/-- The longest start of a text that fits into some bytes. -/
def startWithin : (bytes : Nat) → List Char → List Char
  | _, [] => []
  | n, c :: r => if c.utf8Size ≤ n then c :: startWithin (n - c.utf8Size) r else []

/-- A content cut short to fit into some bytes.  It is marked where more room is
left than the mark takes. -/
def truncated (allowed : Nat) (content : String) : String :=
  let mark := truncationMark.utf8ByteSize
  if mark < allowed then
    .ofList (startWithin (allowed - mark) content.toList) ++ truncationMark
  else .ofList (startWithin allowed content.toList)

/-- The room that sections leave in a budget for one more after them. -/
def roomAfter (budget : Nat) (ss : List Section) : Nat :=
  if ss.isEmpty then budget else budget - (joinedSize ss + separator.utf8ByteSize)

/-- Cut the last section short, if the sections exceed the budget. -/
def truncateLast (budget : Nat) (ss : List Section) : List Section :=
  if joinedSize ss ≤ budget then ss
  else
    match ss.getLast? with
    | none => ss
    | some last =>
      let before := ss.dropLast
      before ++ [{ last with content := truncated (roomAfter budget before) last.content }]

/-- The sections made to fit a budget, as far as that is possible. -/
def fit (budget : Nat) (ss : List Section) : List Section :=
  truncateLast budget (dropOrder.foldl (dropSection budget) ss)

/-- Nothing is all there is of an empty text. -/
@[simp] theorem startWithin_nil (n : Nat) : startWithin n [] = [] := by cases n <;> rfl

/-- **The start of a text is one.** -/
theorem startWithin_prefix (n : Nat) (s : List Char) : startWithin n s <+: s := by
  induction s generalizing n with
  | nil => simp
  | cons c r ih =>
    unfold startWithin
    split
    · exact (List.prefix_cons_inj c).2 (ih _)
    · exact List.nil_prefix

end Prompt
end Errand

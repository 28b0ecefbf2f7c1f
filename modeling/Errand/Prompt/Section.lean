/-
# Sections of a prompt

SPEC_FULL.md, section 11.1, on sections and which of them may be dropped.

A rendered prompt is cut into sections by markers such as
`<!-- section:goal required -->`.  A section is what stands between its marker and
the next one, trimmed; it has a key, and is required or may be dropped.  A section
of which nothing remains is left out unless it is required.  Text before the first
marker belongs to no section.
-/

import Errand.Text.Blank
import Errand.Text.Search
import Errand.Text.WordTable

namespace Errand
namespace Prompt

/-- The mark that opens a section. -/
structure Marker where
  key : String
  isRequired : Bool
deriving DecidableEq, Repr

/-- A section of a prompt. -/
structure Section where
  key : String
  isRequired : Bool
  content : String
deriving DecidableEq, Repr

/-- The word for whether a section is required. -/
def requirementWord (isRequired : Bool) : String := if isRequired then "required" else "droppable"

/-- The spelling of a marker. -/
def Marker.text (m : Marker) : String :=
  "<!-- section:" ++ m.key ++ " " ++ requirementWord m.isRequired ++ " -->"

/-- What follows some blanks, of which there must be one. -/
def afterBlanks? (s : List Char) : Option (List Char) :=
  match s with
  | [] => none
  | c :: r => if Text.isBlank c then some (Text.trimStartChars r) else none

/-- Whether a section is required, and what follows the word that says so. -/
def requirement? (s : List Char) : Option (Bool × List Char) :=
  match Text.stripPrefix? (requirementWord true).toList s with
  | some t => some (true, t)
  | none => (Text.stripPrefix? (requirementWord false).toList s).map (false, ·)

/-- The marker that stands at the start of a text, and what follows it.  Blanks may
stand around its parts. -/
def marker? (s : List Char) : Option (Marker × List Char) := do
  let r ← Text.stripPrefix? "<!--".toList s
  let r ← Text.stripPrefix? "section:".toList (Text.trimStartChars r)
  let key := r.takeWhile Text.isWordChar
  if key.isEmpty then none
  let r ← afterBlanks? (r.dropWhile Text.isWordChar)
  let (isRequired, r) ← requirement? r
  let r ← Text.stripPrefix? "-->".toList (Text.trimStartChars r)
  return (⟨.ofList key, isRequired⟩, r)

/-- The text up to the first marker, and each marker with the text up to the next
one.  The first `skip` characters are passed over: they belong to a marker already
read. -/
def cutAtMarkers : (skip : Nat) → List Char → List Char × List (Marker × List Char)
  | _, [] => ([], [])
  | skip + 1, _ :: r => cutAtMarkers skip r
  | 0, c :: r =>
    match marker? (c :: r) with
    | some (m, t) =>
      let (body, more) := cutAtMarkers (r.length - t.length) r
      ([], (m, body) :: more)
    | none =>
      let (body, more) := cutAtMarkers 0 r
      (c :: body, more)

/-- The section of a marker and the text after it, unless it is left out. -/
def sectionOf? (m : Marker) (body : List Char) : Option Section :=
  let content := Text.trimChars body
  if content.isEmpty && !m.isRequired then none
  else some ⟨m.key, m.isRequired, .ofList content⟩

/-- The sections of a rendered prompt. -/
def sections (rendered : String) : List Section :=
  (cutAtMarkers 0 rendered.toList).2.filterMap fun (m, body) => sectionOf? m body

end Prompt
end Errand

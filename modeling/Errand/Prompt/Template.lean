/-
# Prompt templates

SPEC_FULL.md, section 11.1, on the templates of the roles.

A template is a list of parts, each of which becomes a section of the prompt.  A
part has a heading and a body of fixed text and slots, and may depend on a slot: it
is left out when nothing is given for that slot.  Slots are filled with the goal,
the parameters, and the auxiliary material of an invocation.
-/

import Errand.Function
import Errand.Prompt.Section

namespace Errand
namespace Prompt

open Json (Value)

/-- A place in a template that is filled from an invocation. -/
inductive Slot where
  | goal
  /-- All parameters together. -/
  | parameters
  | parameter (key : String)
  | auxiliary (key : String)
deriving DecidableEq, Repr

/-- A parameter as prompt material: text as it stands, anything else as pretty
JSON, nothing for null. -/
def parameterText : Value → String
  | .null => ""
  | .string t => t
  | v => v.pretty

/-- What fills a slot; the empty text if nothing is given for it. -/
def Slot.fill (i : Invocation) : Slot → String
  | .goal => Text.trim i.goal
  | .parameters => if i.parameters.isEmpty then "" else (Value.object i.parameters).pretty
  | .parameter key => ((i.parameters.find? key).map parameterText).getD ""
  | .auxiliary key => Text.trim ((i.auxiliary? key).getD "")

/-- Whether something is given for a slot. -/
def Slot.isGiven (i : Invocation) (s : Slot) : Bool := !(s.fill i).isEmpty

/-- A piece of a part's body. -/
inductive Piece where
  | text (t : String)
  | slot (s : Slot)
  /-- Text around a slot, left out when nothing is given for it. -/
  | around (before : String) (s : Slot) (after : String)
deriving DecidableEq, Repr

/-- A piece with its slots filled. -/
def Piece.render (i : Invocation) : Piece → String
  | .text t => t
  | .slot s => s.fill i
  | .around before s after => if s.isGiven i then before ++ s.fill i ++ after else ""

/-- A part of a template. -/
structure Part where
  marker : Marker
  heading : String
  body : List Piece
  /-- The slot without which the part is left out. -/
  needs : Option Slot := none
deriving DecidableEq, Repr

/-- Whether a part belongs into the prompt of an invocation. -/
def Part.isGiven (i : Invocation) (p : Part) : Bool := p.needs.all (·.isGiven i)

/-- The text of a part's section. -/
def Part.content (i : Invocation) (p : Part) : String :=
  "### " ++ p.heading ++ "\n\n" ++ String.join (p.body.map (Piece.render i)) ++ "\n\n"

/-- A part with its marker. -/
def Part.render (i : Invocation) (p : Part) : String := p.marker.text ++ "\n" ++ p.content i

/-- A part that is always there. -/
def Part.fixed (key heading : String) (body : List Piece) : Part :=
  { marker := ⟨key, true⟩, heading, body }

/-- A part that is there, and then required, if something is given for a slot. -/
def Part.given (key heading : String) (slot : Slot) (body : List Piece) : Part :=
  { marker := ⟨key, true⟩, heading, body, needs := some slot }

/-- A part that shows what is given for a slot and may be dropped. -/
def Part.droppable (key heading : String) (slot : Slot) : Part :=
  { marker := ⟨key, false⟩, heading, body := [.slot slot], needs := some slot }

/-- The parts of a prompt. -/
abbrev Template := List Part

/-- A template with its slots filled. -/
def Template.render (i : Invocation) (t : Template) : String :=
  String.join ((t.filter (Part.isGiven i)).map (Part.render i))

end Prompt
end Errand

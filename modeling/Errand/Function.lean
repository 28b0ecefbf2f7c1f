/-
# Model functions

SPEC_FULL.md, section 6 (`ModelFunction`).

A model function does the job of its role.  It is handed the goal, parameters, and
auxiliary material by section, and gives back an output: the raw reply, what JSON
was found in it, and whether it worked.  Some functions also stream their reply
in chunks.
-/

import Errand.Reply
import Errand.Outcome
import Errand.Role
import Errand.Feed

namespace Errand

open Json (Value Members)

/-- What a model function is handed. -/
structure Invocation where
  goal : String
  parameters : Members := []
  /-- Further prompt material by section. -/
  auxiliary : List (String × String) := []
deriving DecidableEq

namespace Invocation

/-- The invocation with one more parameter. -/
def withParameter (i : Invocation) (key : String) (value : Value) : Invocation :=
  { i with parameters := i.parameters.insert key value }

/-- The invocation with one more section of material. -/
def withAuxiliary (i : Invocation) (key text : String) : Invocation :=
  { i with auxiliary := i.auxiliary.filter (·.1 ≠ key) ++ [(key, text)] }

/-- The material of a section. -/
def auxiliary? (i : Invocation) (key : String) : Option String :=
  (i.auxiliary.find? (·.1 == key)).map (·.2)

/-- The invocation holds these sections of material. -/
def Shows (i : Invocation) (sections : List (String × String)) : Prop :=
  ∀ x ∈ sections, i.auxiliary? x.1 = some x.2

/-- A parameter is no material. -/
@[simp] theorem auxiliary?_withParameter (i : Invocation) (name : String) (value : Value)
    (key : String) : (i.withParameter name value).auxiliary? key = i.auxiliary? key := rfl

/-- A section holds what was put there last. -/
@[simp] theorem auxiliary?_withAuxiliary_self (i : Invocation) (key text : String) :
    (i.withAuxiliary key text).auxiliary? key = some text := by
  have hnone : (i.auxiliary.filter (·.1 ≠ key)).find? (·.1 == key) = none := by
    rw [List.find?_eq_none]
    intro x hx
    simpa using (List.mem_filter.1 hx).2
  unfold auxiliary? withAuxiliary
  rw [List.find?_append, hnone]
  simp

/-- The other sections are left as they are. -/
@[simp] theorem auxiliary?_withAuxiliary_of_ne (i : Invocation) {key other : String}
    (h : other ≠ key)
    (text : String) : (i.withAuxiliary key text).auxiliary? other = i.auxiliary? other := by
  have hkept : (i.auxiliary.filter (·.1 ≠ key)).find? (·.1 == other) =
      i.auxiliary.find? (·.1 == other) := by
    rw [List.find?_filter]
    congr 1
    funext x
    by_cases hx : x.1 = other
    · simp [hx, h]
    · simp [hx]
  unfold auxiliary? withAuxiliary
  rw [List.find?_append, hkept]
  simp [Ne.symm h]

/-- An invocation as JSON. -/
def toJson (i : Invocation) : Value :=
  .ofPairs [("goal", .string i.goal), ("parameters", .object i.parameters),
    ("auxiliary", .ofPairs (i.auxiliary.map fun (k, t) => (k, .string t)))]

end Invocation

/-- What a model function gives back. -/
structure FunctionOutput where
  isSuccess : Bool
  parsed : Option Value
  rawResponse : Option String
  errorMessage : Option String
deriving DecidableEq

namespace FunctionOutput

/-- A raw reply, with the JSON found in it. -/
def ofReply (raw : String) : FunctionOutput := ⟨true, Reply.extract? raw, some raw, none⟩

/-- A structured reply. -/
def structured (v : Value) : FunctionOutput := ⟨true, some v, some v.compact, none⟩

/-- A failure. -/
def failure (error : String) : FunctionOutput := ⟨false, none, none, some error⟩

/-- The structured result if there is one, else the raw text, else null. -/
def content (o : FunctionOutput) : Value :=
  match o.parsed, o.rawResponse with
  | some v, _ => v
  | none, some raw => .string raw
  | none, none => .null

/-- The fields that hold the readable text of a result. -/
def textFields : List String := ["answer", "summary", "thought", "content", "text", "result"]

/-- The readable text of an output: one of the usual fields, else the raw reply,
else the result itself; nothing if that is blank. -/
def text? (o : FunctionOutput) : Option String :=
  let named := ((o.parsed.bind Value.members?).bind (Reply.field? textFields)).bind Value.text?
  ((named.or o.rawResponse).or (o.parsed.map Value.render)).bind Text.trimmed?

/-- The function output a value spells. -/
def ofJson : Json.FromValue FunctionOutput :=
  let s := Json.Source.value
  s.map (fun (i, p, r, e, ()) => ⟨i, p, r, e⟩) <| s.record "FunctionOutput" <|
    .cons (.required "isSuccess" s.bool) <|
    .cons (.optional "parsed" (s.optional s.any)) <|
    .cons (.optional "rawResponse" (s.optional s.text)) <|
    .cons (.optional "errorMessage" (s.optional s.text)) <|
    .nil

/-- A function output as JSON. -/
def toJson (o : FunctionOutput) : Value :=
  .ofPairs [("isSuccess", .bool o.isSuccess), ("parsed", o.parsed.getD .null),
    ("rawResponse", textOrNull o.rawResponse), ("errorMessage", textOrNull o.errorMessage)]

end FunctionOutput

/-- A piece of a streamed reply.  The final one carries the structured result of
the whole. -/
structure Chunk where
  text : String
  isFinal : Bool
  parsed : Option Value
deriving DecidableEq

/-- A piece of text that is not the last. -/
def Chunk.part (text : String) : Chunk := ⟨text, false, none⟩

/-- The end of a streamed reply. -/
def Chunk.last (parsed : Option Value) : Chunk := ⟨"", true, parsed⟩

/-- The chunks of a reply, each made as it is read. -/
abbrev ChunkFeed (σ : Type) := Feed σ (Response Chunk)

/-- A model function. -/
structure ModelFunction (σ : Type) where
  role : Role
  streams : Bool
  execute : Invocation → Ask σ FunctionOutput
  openStream : Invocation → Ask σ (ChunkFeed σ)

/-- The feed of chunks that are at hand. -/
def chunksAtHand {σ : Type} : List Chunk → ChunkFeed σ
  | [] => .done
  | c :: r => .cons (.answered c) (chunksAtHand r)

/-- The streaming of a function that can only answer as a whole: the reply in one
piece, then the end.  An unsuccessful answer fails the opening. -/
def streamWhole {σ : Type} (role : Role) (execute : Invocation → Ask σ FunctionOutput)
    (i : Invocation) : Ask σ (ChunkFeed σ) := fun w =>
  match execute i w with
  | (.unanswered, w) => (.unanswered, w)
  | (.failed f, w) => (.failed f, w)
  | (.answered o, w) =>
    if o.isSuccess then
      (.answered (chunksAtHand [.part (o.rawResponse.getD ""), .last o.parsed]), w)
    else (.failed (.message (o.errorMessage.getD (role.name ++ " failed"))), w)

end Errand

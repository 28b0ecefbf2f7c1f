/-
# Scripted functions

SPEC_FULL.md, section 10.4, on scripted fakes.
-/

import Errand.Scripted.Basic

namespace Errand
namespace Scripted

open Json (Value)

/-- Whether and how a scripted function streams.  Opening a stream uses up an entry
of the script. -/
inductive Streaming where
  | none
  /-- The reply in one piece. -/
  | whole
  /-- These texts, then the end with the structured result of the reply. -/
  | texts (ts : List String)
  /-- These items, whatever the reply. -/
  | items (cues : List (Cue (Response Chunk)))

/-- Whether a function streams. -/
def Streaming.isGiven : Streaming → Bool
  | .none => false
  | .whole | .texts _ | .items _ => true

/-- What a function without a script replies. -/
def noOutput : FunctionOutput := .failure "no output scripted"

/-- Play the entry that is up for a function. -/
def playFunction (number : Nat) (script : List (Cue (Response FunctionOutput)))
    (i : Invocation) : Ask Stage FunctionOutput := fun w =>
  playAt script (.answered noOutput) (w.state.invocations number).length
    (onStage (.addInvocation number i) w)

/-- Open a feed that is made of the reply. -/
def openWith (execute : Ask Stage FunctionOutput) (feed : FunctionOutput → ChunkFeed Stage) :
    Ask Stage (ChunkFeed Stage) := fun w =>
  match execute w with
  | (.answered o, w) => (.answered (feed o), w)
  | (.failed f, w) => (.failed f, w)
  | (.unanswered, w) => (.unanswered, w)

/-- A function that plays a script. -/
def function (number : Nat) (role : Role) (streaming : Streaming)
    (script : List (Cue (Response FunctionOutput))) : ModelFunction Stage where
  role
  streams := streaming.isGiven
  execute := playFunction number script
  openStream i :=
    match streaming with
    | .none | .whole => streamWhole role (playFunction number script) i
    | .texts ts =>
      openWith (playFunction number script i) fun o =>
        chunksAtHand (ts.map Chunk.part ++ [.last o.parsed])
    | .items cues => openWith (playFunction number script i) fun _ => feedOf cues

end Scripted
end Errand

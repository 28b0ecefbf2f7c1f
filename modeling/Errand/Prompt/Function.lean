/-
# Functions that prompt a backend

SPEC_FULL.md, section 11.1 (Prompted model functions).

A prompted function does the job of its role by sending the role's prompt to a
backend.  That the backend failed is a failure the function reports; a cancellation
is none, and passes through.  A streamed reply comes in the backend's pieces, with
the JSON found in the whole at its end; an error ends the stream.
-/

import Errand.Backend.Basic
import Errand.Function
import Errand.Prompt.Roles

namespace Errand
namespace Prompt

variable {σ : Type}

/-- The request that carries the prompt of a role. -/
def request (c : FunctionSettings) (role : Role) (i : Invocation) : GenerationRequest where
  model := c.model
  system := none
  prompt := build c.promptBudgetBytes role i
  temperature := c.temperature
  maxTokens := c.maxTokens

/-- What a backend's reply makes of a call. -/
def replyOutput (role : Role) : Except Fault String → Response FunctionOutput
  | .ok reply => .answered (.ofReply reply)
  | .error f =>
    if f.isCancellation then .failed f
    else .answered (.failure (role.name ++ " failed: " ++ f.text))

/-- The chunk that a piece makes. -/
def pieceChunk : Except Fault String → Response Chunk
  | .ok t => .answered (.part t)
  | .error f => .failed f

/-- The chunks of a reply of which `raw` has been read. -/
def replyChunks (raw : String) : TextFeed σ → ChunkFeed σ
  | .done => .cons (.answered (.last (Reply.extract? raw))) .done
  | .item read rest =>
    .item (fun w => let (piece, w) := read w; (pieceChunk piece, w)) fun
      | .answered c => replyChunks (raw ++ c.text) (rest (.ok c.text))
      | .failed _ | .unanswered => .done

/-- The function that does the job of a role by prompting a backend. -/
def function (c : FunctionSettings) (backend : Backend σ) (role : Role) : ModelFunction σ where
  role
  streams := true
  execute i w :=
    let (reply, w) := backend.generate (request c role i) w
    (replyOutput role reply, w)
  openStream i w :=
    match backend.openStream (request c role i) w with
    | (.ok pieces, w) => (.answered (replyChunks "" pieces), w)
    | (.error f, w) => (.failed f, w)

/-- One function for each role, all prompting the same backend. -/
def functions (c : FunctionSettings) (backend : Backend σ) : List (ModelFunction σ) :=
  Role.all.map (function c backend)

end Prompt
end Errand

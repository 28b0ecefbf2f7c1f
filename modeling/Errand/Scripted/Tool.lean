/-
# Scripted tools

SPEC_FULL.md, section 10.4, on scripted fakes.
-/

import Errand.Scripted.Basic
import Errand.Tool

namespace Errand
namespace Scripted

open Json (Value)

/-- What a tool makes of its input. -/
inductive ToolReply where
  | output (o : ToolOutput)
  /-- Success with the input as data. -/
  | input
  /-- Success with the input as data, or without data if the input is null. -/
  | inputUnlessNull

/-- The output that a reply makes of an input. -/
def ToolReply.outputFor (input : Value) : ToolReply → ToolOutput
  | .output o => o
  | .input => .success input
  | .inputUnlessNull => if input = .null then .empty else .success input

/-- The answer that makes an output. -/
def toolAnswer (input : Value) : Response ToolReply → Response ToolOutput
  | .answered r => .answered (r.outputFor input)
  | .failed f => .failed f
  | .unanswered => .unanswered

/-- The entry that fires the token and gives no answer. -/
def hangs {α : Type} : Cue (Response α) where
  effects := { firesToken := true }
  outcome := .unanswered

/-- A tool that plays a script.  An empty script always succeeds without data. -/
def tool (number : Nat) (name category : String) (contract : Contract)
    (script : List (Cue (Response ToolReply))) : Tool Stage where
  name
  category
  contract
  run input w :=
    let before := (w.state.inputs number).length
    let (r, w) := playAt script (.answered (.output .empty)) before
      (onStage (.addInput number input) w)
    (toolAnswer input r, w)

end Scripted
end Errand

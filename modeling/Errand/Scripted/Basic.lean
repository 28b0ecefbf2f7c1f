/-
# Scripted collaborators

SPEC_FULL.md, section 10.4, on scripted fakes.

To rehearse a run, its collaborators can be given scripts: what to answer on the
first call, on the second, and so on; the last entry of a script holds for all
later calls.  What scripted collaborators act on is the record of what each has been
asked, so a script is at the entry that the length of the record says.
-/

import Errand.Backend.Failover
import Errand.Function

namespace Errand
namespace Scripted

open Json (Value)

/-- What a backend is asked. -/
inductive BackendCall where
  | generate (r : GenerationRequest)
  | stream (r : GenerationRequest)
  | count (text : String)
deriving DecidableEq

/-- What scripted collaborators have been asked, each in order.  Tools and functions
have a number; backends and groups of backends have a path: below the path of a
group, its members are numbered. -/
structure Stage where
  inputs : Nat → List Value := fun _ => []
  invocations : Nat → List Invocation := fun _ => []
  calls : List Nat → List BackendCall := fun _ => []
  breakers : List Nat → Breakers := fun _ => .fresh

/-- A table with one entry replaced. -/
def replaceAt {κ α : Type} [DecidableEq κ] (key : κ) (a : α) (table : κ → α) : κ → α :=
  fun k => if k = key then a else table k

namespace Stage

/-- Record the input of a tool. -/
def addInput (tool : Nat) (v : Value) (s : Stage) : Stage :=
  { s with inputs := replaceAt tool (s.inputs tool ++ [v]) s.inputs }

/-- Record the invocation of a function. -/
def addInvocation (function : Nat) (i : Invocation) (s : Stage) : Stage :=
  { s with invocations := replaceAt function (s.invocations function ++ [i]) s.invocations }

/-- Record the call of a backend. -/
def addCall (path : List Nat) (c : BackendCall) (s : Stage) : Stage :=
  { s with calls := replaceAt path (s.calls path ++ [c]) s.calls }

/-- What the group at a path acts on: its breakers, and everything else. -/
def groupAt (path : List Nat) : Focus Stage (Failover.State Stage) where
  get s := { breakers := s.breakers path, shared := s }
  set g _ := { g.shared with breakers := replaceAt path g.breakers g.shared.breakers }

end Stage

/-- The state of a rehearsal. -/
abbrev Scene := World Stage

/-- Change what has been recorded. -/
def onStage (f : Stage → Stage) (w : Scene) : Scene := { w with state := f w.state }

/-- What happens while a collaborator answers: time passes, and the token may
fire. -/
structure Effects where
  advanceMs : Nat := 0
  firesToken : Bool := false
deriving DecidableEq, Repr

/-- The scene after some effects. -/
def Effects.apply (e : Effects) (w : Scene) : Scene :=
  { w with now := w.now + ofMillis e.advanceMs, cancelled := w.cancelled || e.firesToken }

/-- An entry of a script. -/
structure Cue (ρ : Type) where
  effects : Effects := {}
  outcome : ρ

/-- Play an entry. -/
def Cue.play {ρ : Type} (c : Cue ρ) (w : Scene) : ρ × Scene := (c.outcome, c.effects.apply w)

/-- The feed that plays entries in order. -/
def feedOf {ρ : Type} (cues : List (Cue ρ)) : Feed Stage ρ := .ofList (cues.map Cue.play)

/-- The entry of a script for a call that so many calls went before. -/
def entryAt {α : Type} (script : List α) (before : Nat) : Option α :=
  script[before]?.or script.getLast?

/-- Play the entry that is up, or give `fallback` if the script is empty. -/
def playAt {ρ : Type} (script : List (Cue ρ)) (fallback : ρ) (before : Nat) (w : Scene) :
    ρ × Scene :=
  ((entryAt script before).getD { outcome := fallback }).play w

end Scripted
end Errand

/-
# The world that collaborators act on

SPEC_FULL.md, section 6, on external collaborators, and section 5, on the token.

Tools, model functions and backends live outside the engine.  Each is a function
on a world: the state `σ` that the collaborators share, of which nothing is
assumed, the time, and the token by which a run is cancelled.  A collaborator may
change all three.
-/

import Errand.Clock
import Errand.Fault

namespace Errand

/-- What the collaborators of a run act on. -/
structure World (σ : Type) where
  state : σ
  now : Instant
  /-- Whether the run's token has fired. -/
  cancelled : Bool

/-- How a collaborator answers a question that its asker may stop waiting for. -/
inductive Response (α : Type) where
  | answered (a : α)
  | failed (fault : Fault)
  /-- The token fired while the answer was still awaited. -/
  | unanswered
deriving DecidableEq

/-- A response without what was answered. -/
def Response.outline {α : Type} : Response α → Response Unit
  | .answered _ => .answered ()
  | .failed f => .failed f
  | .unanswered => .unanswered

/-- A question to a collaborator. -/
abbrev Ask (σ α : Type) := World σ → Response α × World σ

/-- A call of a collaborator that always comes back. -/
abbrev Call (σ α : Type) := World σ → Except Fault α × World σ

/-- A part of a state, read and replaced as a whole. -/
structure Focus (σ τ : Type) where
  get : σ → τ
  set : τ → σ → σ

/-- Run a step on a part of the state. -/
def Focus.zoom {σ τ α : Type} (f : Focus σ τ) (step : World τ → α × World τ) (w : World σ) :
    α × World σ :=
  let (a, v) := step { state := f.get w.state, now := w.now, cancelled := w.cancelled }
  (a, { state := f.set v.state w.state, now := v.now, cancelled := v.cancelled })

end Errand

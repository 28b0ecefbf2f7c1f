/-
# Feeds: items that are made as they are read

SPEC_FULL.md, section 6 (`ChunkStream`) and section 4.6, on streams.

A feed hands out items one by one.  Reading an item acts on the world, and which
items follow may hang on what was read; but every feed ends.
-/

import Errand.World

namespace Errand

/-- Items of which each is made when it is read. -/
inductive Feed (σ ρ : Type) where
  | done
  | item (read : World σ → ρ × World σ) (rest : ρ → Feed σ ρ)

namespace Feed

variable {σ ρ : Type}

/-- The feed that hands out given readings in order. -/
def ofList : List (World σ → ρ × World σ) → Feed σ ρ
  | [] => done
  | read :: r => item read fun _ => ofList r

/-- A feed with an item put in front. -/
def cons (a : ρ) (f : Feed σ ρ) : Feed σ ρ := item (fun w => (a, w)) fun _ => f

/-- At most the first items of a feed. -/
def take : Nat → Feed σ ρ → Feed σ ρ
  | 0, _ | _, done => done
  | n + 1, item read rest => item read fun a => take n (rest a)

/-- Read a feed to its end. -/
def drain : Feed σ ρ → World σ → List ρ × World σ
  | done, w => ([], w)
  | item read rest, w =>
    let (a, w) := read w
    let (as, w) := drain (rest a) w
    (a :: as, w)

/-- The feed in which reading an item has an effect besides, which hangs on the
item. -/
def withEffect (effect : ρ → World σ → World σ) : Feed σ ρ → Feed σ ρ
  | done => done
  | item read rest =>
    item (fun w => let (a, w) := read w; (a, effect a w)) fun a => withEffect effect (rest a)

/-- A feed whose items act on a part of the state. -/
def within {τ : Type} (p : Focus σ τ) : Feed τ ρ → Feed σ ρ
  | done => done
  | item read rest => item (p.zoom read) fun a => within p (rest a)

end Feed
end Errand

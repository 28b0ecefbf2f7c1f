/-
# Failover across backends

SPEC_FULL.md, section 4.6 (Resilient Multi-Provider Invocation).

A group of backends is itself a backend.  Each of its operations asks the members
in order and takes the first answer.  A breaker for each name turns away members
that keep failing; a member that is turned away at the start of an operation, or
does not support the model, is not asked.  A failure counts against the breaker of
the member's name.  A cancellation counts against nobody and ends the operation.

A stream is taken from the first member that opens one and yields a first piece, or
ends at once.  Members cannot take over later: an error further on counts against
the member that is being read.
-/

import Errand.Backend.Basic
import Errand.Breaker

namespace Errand

open Json (Value)

/-- Breakers by the name of the backend. -/
def Breakers := String → Breaker

namespace Breakers

/-- Breakers without any record. -/
def fresh : Breakers := fun _ => {}

/-- Change the breaker of a name. -/
def update (bs : Breakers) (name : String) (f : Breaker → Breaker) : Breakers :=
  fun n => if n = name then f (bs n) else bs n

/-- The breaker of the name is changed. -/
@[simp] theorem update_self (bs : Breakers) (name : String) (f : Breaker → Breaker) :
    bs.update name f name = f (bs name) := by simp [update]

/-- The breakers of the other names are left as they are. -/
theorem update_of_ne (bs : Breakers) {name other : String} (f : Breaker → Breaker)
    (h : other ≠ name) : bs.update name f other = bs other := by simp [update, h]

end Breakers

/-- Backends in the order in which they are asked. -/
structure Failover (σ : Type) where
  policy : BreakerPolicy := {}
  members : List (Backend σ)

/-- What a group acts on: its breakers, which no member sees, and the state that its
members share. -/
structure Failover.State (σ : Type) where
  breakers : Breakers
  shared : σ

/-- The part of a group's state that its members act on. -/
def Failover.State.focus {σ : Type} : Focus (Failover.State σ) σ where
  get s := s.shared
  set a s := { s with shared := a }

/-- How asking members one after another ended. -/
inductive Walk (α : Type) where
  | answered (a : α)
  | cancelled (fault : Fault)
  /-- All failed; each failure with the name it counts against. -/
  | failed (failures : List (String × Fault))

/-- One more failure before a walk. -/
def Walk.afterFailure {α : Type} (name : String) (f : Fault) : Walk α → Walk α
  | .failed fs => .failed ((name, f) :: fs)
  | other => other

namespace Failover

variable {σ α : Type}

/-- The name of a group: those of its members. -/
def name (g : Failover σ) : String :=
  "resilient(" ++ String.intercalate "," (g.members.map (·.name)) ++ ")"

/-- Change the breaker of a name. -/
def record (name : String) (f : Breaker → Breaker) (w : World (State σ)) : World (State σ) :=
  { w with state := { w.state with breakers := w.state.breakers.update name f } }

/-- Record that a member answered. -/
def recordSuccess (name : String) (w : World (State σ)) : World (State σ) :=
  record name (Breaker.recordSuccess w.now) w

/-- Record that a member failed. -/
def recordFailure (g : Failover σ) (name : String) (w : World (State σ)) : World (State σ) :=
  record name (Breaker.recordFailure g.policy w.now) w

/-- The members that support a model, or all if none is asked for. -/
def candidates (g : Failover σ) (model : Option String) : List (Backend σ) :=
  g.members.filter fun b => model.all b.supports

/-- The candidates that are not turned away now. -/
def eligible (g : Failover σ) (model : Option String) (w : World (State σ)) :
    List (Backend σ) :=
  (g.candidates model).filter fun b => (w.state.breakers b.name).isAvailable g.policy w.now

/-- Ask members one after another until one answers or is cancelled. -/
def walk (g : Failover σ) (call : Backend σ → Call σ α) :
    List (Backend σ) → World (State σ) → Walk α × World (State σ)
  | [], w => (.failed [], w)
  | b :: rest, w =>
    match State.focus.zoom (call b) w with
    | (.ok a, w) => (.answered a, recordSuccess b.name w)
    | (.error f, w) =>
      if f.isCancellation then (.cancelled f, w)
      else
        let (r, w) := walk g call rest (g.recordFailure b.name w)
        (r.afterFailure b.name f, w)

/-- What an operation gives for a walk among the members that it could ask. -/
def conclude (g : Failover σ) (operation : String) (model : Option String) :
    Walk α → Except Fault α
  | .answered a => .ok a
  | .cancelled f => .error f
  | .failed fs =>
    match fs.getLast? with
    | some (_, last) => .error (.exhausted operation (fs.map (·.1)) last)
    | none => .error (.noneAvailable operation ((g.candidates model).map (·.name)))

/-- Ask the eligible members for the result of an operation. -/
def attempt (g : Failover σ) (operation : String) (model : Option String)
    (call : Backend σ → Call σ α) : Call (State σ) α := fun w =>
  let (r, w) := g.walk call (g.eligible model w) w
  (g.conclude operation model r, w)

/-- Open a member's stream and read its first piece, which stays in front.  The
member's name comes with it. -/
def openFirst (r : GenerationRequest) (b : Backend σ) : Call σ (String × TextFeed σ) := fun w =>
  match b.openStream r w with
  | (.error f, w) => (.error f, w)
  | (.ok .done, w) => (.ok (b.name, .done), w)
  | (.ok (.item read rest), w) =>
    match read w with
    | (.error f, w) => (.error f, w)
    | (.ok piece, w) => (.ok (b.name, .cons (.ok piece) (rest (.ok piece))), w)

/-- What reading an item of a member's stream records. -/
def recordItem (g : Failover σ) (name : String) :
    Except Fault String → World (State σ) → World (State σ)
  | .ok _, w => w
  | .error f, w => if f.isCancellation then w else g.recordFailure name w

/-- A member's stream, whose errors count against the member. -/
def track (g : Failover σ) (name : String) (feed : TextFeed σ) : TextFeed (State σ) :=
  (feed.within State.focus).withEffect (g.recordItem name)

/-- Open a stream. -/
def openStream (g : Failover σ) (r : GenerationRequest) : Call (State σ) (TextFeed (State σ)) :=
  fun w =>
    match g.attempt "generate_stream" r.model (openFirst r) w with
    | (.ok (name, feed), w) => (.ok (g.track name feed), w)
    | (.error f, w) => (.error f, w)

/-- Count tokens.  Where no member counts, or counting is cancelled, they are
estimated. -/
def countTokens (g : Failover σ) (text : String) : Call (State σ) Nat := fun w =>
  match g.walk (fun b => b.countTokens text) (g.eligible none w) w with
  | (.answered n, w) => (.ok n, w)
  | (.cancelled _, w) | (.failed _, w) => (.ok (Text.estimateTokens text), w)

/-- Whether some backend says that it is available.  Those after it are not
asked. -/
def anyAvailable : List (Backend σ) → World σ → Bool × World σ
  | [], w => (false, w)
  | b :: rest, w =>
    match b.isAvailable w with
    | (true, w) => (true, w)
    | (false, w) => anyAvailable rest w

/-- A group as a backend. -/
def backend (g : Failover σ) : Backend (State σ) where
  name := g.name
  supports m := g.members.any (·.supports m)
  generate r := g.attempt "generate" r.model fun b => b.generate r
  openStream := g.openStream
  structured r schema := g.attempt "generate_structured" r.model fun b => b.structured r schema
  countTokens := g.countTokens
  isAvailable w := State.focus.zoom (anyAvailable (g.eligible none w)) w

/-- What is said of a group without members. -/
def emptyMessage : String := "resilient backend requires at least one backend"

/-- The backend of a group, if it has members. -/
def backend? (g : Failover σ) : Except Fault (Backend (State σ)) :=
  if g.members.isEmpty then .error (.message emptyMessage) else .ok g.backend

end Failover
end Errand

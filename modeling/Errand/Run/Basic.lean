/-
# Runs: what the engine does between its collaborators

SPEC_FULL.md, section 5, on sequential steps and where cancellation is checked.

A run is a function on the engine's state.  It gives a result or stops because it
was cancelled, and in both cases leaves a state behind: the world its
collaborators act on, the registry with its use counts, the bindings, the events
sent so far, and the journal of everything asked of collaborators.

Everything asked goes through `ask`.  It asks nothing once the token has fired,
and it turns a question left unanswered, or answered by a cancellation however
wrapped, into cancellation of the run.

The world does not wait for the engine.  Time passes, and the token may be fired
by whoever holds it, the observer included.  What happens is `meanwhile`, and the
engine learns of it when it next looks at the token.
-/

import Errand.Contract
import Errand.Placeholder
import Errand.Registry
import Errand.Run.Event

namespace Errand

open Json (Value Members)

/-- What a run asks of a collaborator. -/
inductive Request where
  | tool (name : String) (input : Value)
  | execute (role : Role) (invocation : Invocation)
  | openStream (role : Role) (invocation : Invocation)
  | nextChunk (role : Role)
deriving DecidableEq

/-- A question that was put to a collaborator, and what came of it. -/
structure Exchange where
  request : Request
  /-- Whether the token had fired when the question was put. -/
  firedBefore : Bool
  /-- What came of it, the answer itself left out. -/
  response : Response Unit
  /-- Whether the token had fired when the exchange was over. -/
  firedAfter : Bool
deriving DecidableEq

/-- Whether an exchange amounts to a cancellation. -/
def Exchange.isCancellation (x : Exchange) : Bool :=
  match x.response with
  | .answered _ => false
  | .failed f => f.isCancellation
  | .unanswered => true

/-- The state of the engine. -/
structure Engine (σ : Type) where
  world : World σ
  registry : Registry σ
  bindings : Bindings := .empty
  /-- The events sent so far, in order. -/
  events : List Event := []
  /-- Everything asked so far, in order. -/
  journal : List Exchange := []
  /-- What happens in the world between two looks at the token. -/
  meanwhile : World σ → World σ := id

/-- The engine with nothing sent and nothing asked. -/
def Engine.atRest {σ : Type} (e : Engine σ) : Engine σ := { e with events := [], journal := [] }

/-- The engine with its world as it is by now.  A token that has fired stays fired. -/
def Engine.catchUp {σ : Type} (e : Engine σ) : Engine σ :=
  let w := e.meanwhile e.world
  { e with world := { w with cancelled := e.world.cancelled || w.cancelled } }

/-- The run was cancelled. -/
inductive Cancelled where
  | mk
deriving DecidableEq

/-- What is said of a cancelled run. -/
def Cancelled.message : String := Fault.cancelled.text

/-- A run that gives an `α` unless it is cancelled. -/
def Run (σ α : Type) := Engine σ → Except Cancelled α × Engine σ

namespace Run

variable {σ α β : Type}

instance : Monad (Run σ) where
  pure a := fun e => (.ok a, e)
  bind x f := fun e =>
    match x e with
    | (.ok a, e) => f a e
    | (.error c, e) => (.error c, e)

/-- The second run starts from where the first left the engine, unless that was cancelled. -/
theorem bind_apply (x : Run σ α) (f : α → Run σ β) (e : Engine σ) :
    (x >>= f) e = match x e with
      | (.ok a, e) => f a e
      | (.error c, e) => (.error c, e) := rfl

/-- A run whose result is kept is the run. -/
theorem id_map_eq (x : Run σ α) : id <$> x = x := by
  funext e
  show (match x e with
    | (.ok a, e) => ((.ok a, e) : Except Cancelled α × Engine σ)
    | (.error c, e) => (.error c, e)) = x e
  rcases x e with ⟨_ | _, _⟩ <;> rfl

/-- It does not matter how three runs after one another are grouped. -/
theorem bind_assoc_eq {γ : Type} (x : Run σ α) (f : α → Run σ β) (g : β → Run σ γ) :
    x >>= f >>= g = x >>= fun a => f a >>= g := by
  funext e
  simp only [bind_apply]
  rcases x e with ⟨_ | _, _⟩ <;> rfl

instance : LawfulMonad (Run σ) :=
  .mk' (Run σ) id_map_eq (fun _ _ => rfl) bind_assoc_eq

/-- The state of the engine. -/
def get : Run σ (Engine σ) := fun e => (.ok e, e)

/-- Change the state of the engine. -/
def modify (f : Engine σ → Engine σ) : Run σ Unit := fun e => (.ok (), f e)

/-- The time. -/
def now : Run σ Instant := fun e => (.ok e.world.now, e)

/-- Send an event. -/
def send (ev : Event) : Run σ Unit := modify fun e => { e with events := e.events ++ [ev] }

/-- Bind a value under a name. -/
def bindVariable (name : String) (value : Value) : Run σ Unit :=
  modify fun e => { e with bindings := e.bindings.set name value }

/-- Stop if the token has fired. -/
def checkToken : Run σ Unit := fun e =>
  let e := e.catchUp
  if e.world.cancelled then (.error .mk, e) else (.ok (), e)

/-- Ask a collaborator, unless the token has fired.  Whatever amounts to a
cancellation stops the run; any other failure is handed on. -/
def ask (request : Request) (question : Ask σ α) : Run σ (Except Fault α) := fun e =>
  let e := e.catchUp
  if e.world.cancelled then (.error .mk, e)
  else
    let (answer, world) := question e.world
    let x : Exchange := ⟨request, e.world.cancelled, answer.outline, world.cancelled⟩
    let e := { e with world, journal := e.journal ++ [x] }
    match answer with
    | .answered a => (.ok (.ok a), e)
    | .unanswered => (.error .mk, e)
    | .failed f => if f.isCancellation then (.error .mk, e) else (.ok (.error f), e)

/-- Look a function up by its role. -/
def lookupFunction (role : Role) : Run σ (Option (ModelFunction σ)) := fun e =>
  let (f?, registry) := e.registry.lookupFunction role
  (.ok f?, { e with registry })

/-- Resolve a target name. -/
def resolve (name : String) : Run σ (Option (Target σ)) := fun e =>
  let (t?, registry) := e.registry.resolve name
  (.ok t?, { e with registry })

end Run

/-- What stays the same throughout a run. -/
structure Setting where
  goal : String
  /-- What the schemas of tools mean. -/
  dialect : Schema.Dialect
  rules : SubstitutionRules := {}
  /-- Parameters that every function call of a step receives. -/
  ambient : Members := []
  /-- Whether the observer wants streamed replies piece by piece. -/
  wantsChunks : Bool := false

end Errand

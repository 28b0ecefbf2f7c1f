/-
# Backends

SPEC_FULL.md, section 6 (`InvocationBackend`).

A backend turns a prompt into text: at once, in pieces, or as JSON.  It may also
count tokens.  Only plain generation has to be given; the rest has a default made
from it.
-/

import Errand.Config
import Errand.Feed
import Errand.Reply
import Errand.Text.Tokens

namespace Errand

open Json (Value)

/-- One generation call. -/
structure GenerationRequest where
  model : Option String := none
  system : Option String := none
  prompt : String
  temperature : Option Number.Single := none
  maxTokens : Option Nat := none
deriving DecidableEq

namespace GenerationRequest

/-- The request a value spells. -/
def ofJson : Json.FromValue GenerationRequest :=
  let s := Json.Source.value
  s.map (fun (m, y, p, t, k, ()) => ⟨m, y, p, t, k⟩) <| s.record "GenerationRequest" <|
    .cons (.optional "model" (s.optional s.text)) <|
    .cons (.optional "system" (s.optional s.text)) <|
    .cons (.required "prompt" s.text) <|
    .cons (.optional "temperature" (s.optional s.single)) <|
    .cons (.optional "max_tokens" (s.optional s.nat32)) <|
    .nil

/-- A request as JSON. -/
def toJson (r : GenerationRequest) : Value :=
  .ofPairs [("model", textOrNull r.model), ("system", textOrNull r.system),
    ("prompt", .string r.prompt), ("temperature", .ofOption singleToJson r.temperature),
    ("max_tokens", .ofOption .ofNat r.maxTokens)]

end GenerationRequest

/-- The pieces of a text, each made as it is read. -/
abbrev TextFeed (σ : Type) := Feed σ (Except Fault String)

/-- A backend. -/
structure Backend (σ : Type) where
  name : String
  supports : String → Bool
  generate : GenerationRequest → Call σ String
  openStream : GenerationRequest → Call σ (TextFeed σ)
  /-- JSON that a schema, which is advice, asks for. -/
  structured : GenerationRequest → (schema : Value) → Call σ Value
  countTokens : String → Call σ Nat
  isAvailable : World σ → Bool × World σ

namespace Backend

variable {σ : Type}

/-- Streaming by plain generation: the whole reply in one piece. -/
def streamWhole (generate : GenerationRequest → Call σ String) (r : GenerationRequest) :
    Call σ (TextFeed σ) := fun w =>
  match generate r w with
  | (.error f, w) => (.error f, w)
  | (.ok t, w) => (.ok (.cons (.ok t) .done), w)

/-- JSON by plain generation: what JSON is found in the reply, whatever the schema. -/
def structuredByText (name : String) (generate : GenerationRequest → Call σ String)
    (r : GenerationRequest) (_schema : Value) : Call σ Value := fun w =>
  match generate r w with
  | (.error f, w) => (.error f, w)
  | (.ok t, w) =>
    match Reply.extract? t with
    | some v => (.ok v, w)
    | none => (.error (.message (name ++ " returned no JSON")), w)

/-- A backend that only generates: it supports every model, is always available,
and estimates tokens. -/
def ofGenerate (name : String) (generate : GenerationRequest → Call σ String) : Backend σ where
  name
  supports _ := true
  generate
  openStream := streamWhole generate
  structured := structuredByText name generate
  countTokens t w := (.ok (Text.estimateTokens t), w)
  isAvailable w := (true, w)

/-- A backend that acts on a part of the state. -/
def within {τ : Type} (p : Focus σ τ) (b : Backend τ) : Backend σ where
  name := b.name
  supports := b.supports
  generate r := p.zoom (b.generate r)
  openStream r w :=
    match p.zoom (b.openStream r) w with
    | (.ok feed, w) => (.ok (feed.within p), w)
    | (.error f, w) => (.error f, w)
  structured r schema := p.zoom (b.structured r schema)
  countTokens t := p.zoom (b.countTokens t)
  isAvailable := p.zoom b.isAvailable

end Backend
end Errand

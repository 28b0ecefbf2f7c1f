/-
# Parameters given as JSON

SPEC_FULL.md, sections 4.2 and 4.3, on the way of parameters to a tool.

An action carries its parameters as a value, and so may a written step.  The step that
runs carries them as the value's compact form, a template.  Its placeholders are filled, and
a tool that demands no parameters is handed what the filled template spells.

So the value is written, filled and read again.  What the tool is handed is the value with
each of its strings filled (`runStep_handsFilled`), if the value is legible and what is put
in fits where it is put.
-/

import Errand.Proofs.Placeholder.Inline
import Errand.Proofs.Reply
import Errand.Proofs.Run.ToolInput
import Errand.Proofs.Step

namespace Errand

open Json (Value)

/-! ### What a run asks -/

section Requests

variable {σ α β : Type}

/-- The questions that were put to collaborators, in order. -/
def Engine.requests (e : Engine σ) : List Request := e.journal.map (·.request)

/-- A question is put unless the token has fired. -/
theorem ask_requests (request : Request) (question : Ask σ α) (e : Engine σ) :
    (Run.ask request question e).2.requests =
      e.requests ++ if e.catchUp.world.cancelled then [] else [request] := by
  unfold Run.ask Engine.requests
  dsimp only
  split
  · simp [Engine.catchUp]
  · split
    · simp [Engine.catchUp]
    · simp [Engine.catchUp]
    · split <;> simp [Engine.catchUp]

/-- What leaves the engine alone does not tell in the engine. -/
theorem bind_snd {m : Run σ α} {f : α → Run σ β} (hf : ∀ a e, (f a e).2 = e) (e : Engine σ) :
    ((m >>= f) e).2 = (m e).2 := by
  rw [Run.bind_apply]
  rcases m e with ⟨_ | a, e⟩
  · rfl
  · exact hf a e

end Requests

section Steps

variable {σ : Type} {tool : Tool σ} {s : Setting} {step : Step} {e : Engine σ}

/-- A tool that demands no parameters is bound to the filled template, whatever it is. -/
theorem bindParameters_of_not_required (h : tool.contract.requiresParameters = false)
    (template : Option String) (description : String) (e : Engine σ) :
    bindParameters s (some tool) template description e =
      (.ok (.bound (template.map (Placeholder.substitute s.rules e.bindings))), e) := by
  refine bindParameters_of_ok description ?_
  rw [Contract.check, h]
  rfl

/-- The engine after a target name was resolved. -/
def Engine.resolved (e : Engine σ) (name : String) : Engine σ :=
  { e with registry := (e.registry.resolve name).2 }

@[simp] theorem Engine.bindings_resolved (e : Engine σ) (name : String) :
    (e.resolved name).bindings = e.bindings := by
  rw [resolved]

@[simp] theorem Engine.requests_resolved (e : Engine σ) (name : String) :
    (e.resolved name).requests = e.requests := by
  rw [resolved, requests, requests]

@[simp] theorem Engine.world_catchUp_resolved (e : Engine σ) (name : String) :
    (e.resolved name).catchUp.world = e.catchUp.world := by
  rw [resolved, catchUp, catchUp]

/-- A resolution that finds the tool only counts its use. -/
theorem resolve_eq_resolved (htool : (e.registry.resolve step.targetName).1 = some (.tool tool)) :
    Run.resolve step.targetName e = (.ok (some (.tool tool)), e.resolved step.targetName) := by
  rw [resolve_apply, htool]
  rfl

/-- **A step with bound parameters** asks its tool what they spell, and reports them. -/
theorem runStep_of_bound (htool : (e.registry.resolve step.targetName).1 = some (.tool tool))
    {parameters : Option String} {e₁ : Engine σ}
    (hbind : bindParameters s (some tool) step.rawParameters step.description
      (e.resolved step.targetName) = (.ok (.bound parameters), e₁)) :
    (runStep s step e).2.requests = e₁.requests ++
        (if e₁.catchUp.world.cancelled then []
          else [.tool tool.name (toolInput parameters)]) ∧
      ∀ r, (runStep s step e).1 = .ok r → r.boundParameters = parameters := by
  have hcall : (runTool step parameters tool e₁).2 =
      (Run.ask (.tool tool.name (toolInput parameters))
        (tool.run (toolInput parameters)) e₁).2 := by
    rw [runTool]
    exact bind_snd (fun answer _ => by cases answer <;> rfl) e₁
  have huntimed : runStepUntimed s step e = ((runTool step parameters tool) >>= fun r =>
      (pure { r with boundParameters := parameters } : Run σ StepResult)) e₁ := by
    rw [runStepUntimed, Run.bind_apply, resolve_eq_resolved htool]
    dsimp only
    rw [Run.bind_apply, Target.tool?, hbind]
    rfl
  have htimed : (runStep s step e).2 = (runStepUntimed s step e).2 := by
    rw [runStep, Run.bind_apply]
    exact bind_snd (fun _ _ => rfl) e
  constructor
  · rw [htimed, huntimed, bind_snd (fun _ _ => rfl), hcall]
    exact ask_requests _ _ e₁
  · intro r hr
    obtain ⟨e₂, hstep⟩ : ∃ e₂, runStep s step e = (.ok r, e₂) := ⟨_, by rw [← hr]⟩
    rw [runStep] at hstep
    obtain ⟨_, _, ⟨⟩, hstep⟩ := Run.bind_eq_ok.1 hstep
    obtain ⟨r', _, hr', hstep⟩ := Run.bind_eq_ok.1 hstep
    rw [huntimed] at hr'
    obtain ⟨_, _, -, hpure⟩ := Run.bind_eq_ok.1 hr'
    obtain ⟨_, _, ⟨⟩, hpure'⟩ := Run.bind_eq_ok.1 hstep
    cases hpure
    cases hpure'
    rfl

/-- **A step whose parameters are not bound** fails with what was said of them. -/
theorem runStep_of_failed (htool : (e.registry.resolve step.targetName).1 = some (.tool tool))
    {error : String} {e₁ : Engine σ}
    (hbind : bindParameters s (some tool) step.rawParameters step.description
      (e.resolved step.targetName) = (.ok (.failed error), e₁)) :
    runStep s step e = (.ok { StepResult.failure step error with
      executionTimeMs := elapsedMillis e.world.now e₁.world.now }, e₁) := by
  have huntimed : runStepUntimed s step e = (.ok (.failure step error), e₁) := by
    rw [runStepUntimed, Run.bind_apply, resolve_eq_resolved htool]
    dsimp only
    rw [Run.bind_apply, Target.tool?, hbind]
    rfl
  rw [runStep]
  exact Run.bind_eq_ok.2 ⟨_, _, rfl, Run.bind_eq_ok.2 ⟨_, _, huntimed,
    Run.bind_eq_ok.2 ⟨_, _, rfl, rfl⟩⟩⟩

/-- **A step whose tool demands no parameters** asks this tool what its filled template
spells, and nothing else. -/
theorem runStep_requests (htool : (e.registry.resolve step.targetName).1 = some (.tool tool))
    (hfree : tool.contract.requiresParameters = false) :
    (runStep s step e).2.requests = e.requests ++
      if e.catchUp.world.cancelled then []
      else [.tool tool.name (toolInput
        (step.rawParameters.map (Placeholder.substitute s.rules e.bindings)))] := by
  have hbind := bindParameters_of_not_required (s := s) hfree step.rawParameters step.description
    (e.resolved step.targetName)
  rw [(runStep_of_bound htool hbind).1, Engine.requests_resolved, Engine.world_catchUp_resolved,
    Engine.bindings_resolved]

/-- What a filled template of a value spells. -/
theorem Step.Carries.toolInput_eq {v : Value} {b : Bindings} (hv : Step.Carries v step)
    (hlegible : v.Legible Json.maxDepth) (hkeys : ∀ k ∈ v.keys, Placeholder.references k = [])
    (hfill : Placeholder.Fillable s.rules b v) :
    toolInput (step.rawParameters.map (Placeholder.substitute s.rules b)) =
      v.mapStrings (Placeholder.fillString s.rules b) := by
  have htemplate : templateOf v = some v.compact := by cases hfill <;> rfl
  rw [hv.rawParameters_eq, htemplate, Option.map_some, toolInput,
    Placeholder.parse?_substitute_compact hlegible hkeys hfill, Option.getD_some]

/-- The step carries a value with no placeholder in its keys, and its target is a tool that
demands no parameters. -/
structure CallsWith (step : Step) (e : Engine σ) (tool : Tool σ) (v : Value) : Prop where
  carries : Step.Carries v step
  structured : v.isStructured = true
  keys : ∀ k ∈ v.keys, Placeholder.references k = []
  target : (e.registry.resolve step.targetName).1 = some (.tool tool)
  free : tool.contract.requiresParameters = false

/-- The step asks its tool once, unless the token has fired, and nothing else.  It hands the
tool the value with every placeholder in its strings that resolves replaced by its text, and
everything else as it is. -/
def HandsFilled (s : Setting) (step : Step) (e : Engine σ) (tool : Tool σ) (v : Value) : Prop :=
  (runStep s step e).2.requests = e.requests ++
    if e.catchUp.world.cancelled then []
    else [.tool tool.name (v.mapStrings (Placeholder.fillString s.rules e.bindings))]

/-- **A tool is handed the parameters with their strings filled,** if these are legible, and
an object, or an array into which nothing is put that would need an escape.  Those that a
reply asks for are legible as far as their doubles are (`Reply.parameters_legible`). -/
theorem runStep_handsFilled {v : Value} (h : CallsWith step e tool v)
    (hlegible : v.Legible Json.maxDepth) (hfill : Placeholder.Fillable s.rules e.bindings v) :
    HandsFilled s step e tool v := by
  rw [HandsFilled, runStep_requests h.target h.free, h.carries.toolInput_eq hlegible h.keys hfill]

end Steps

/-! ### A tool that is handed a value -/

namespace Probe

/-- The action that hands the tool a value. -/
def action (v : Value) : Action := ⟨.tool, "tool", some v, none⟩

/-- The step of the action. -/
def valueStep (v : Value) : Step := (action v).toStep 1 ""

/-- The step carries the value. -/
theorem valueStep_carries (v : Value) : Step.Carries v (valueStep v) := .action 1 "" rfl

/-- A letter to whoever is bound, in two copies. -/
def letter : Value :=
  .object [("copies", .number (.int 2)), ("text", .string "Dear \x7bx\x7d")]

/-- A reply that asks for the letter. -/
def reply : String :=
  "Let us write.\n\x7b\"tool\": \"tool\", \"args\": " ++
    "\x7b\"copies\": 2, \"text\": \"Dear \x7bx\x7d\"\x7d\x7d"

/-- A list of whatever is bound. -/
def list : Value := .array [.string "\x7bx\x7d"]

/-- A double that is written `9.006443107101128e-10`. -/
def ratio : Value := .object [("ratio", .number (.real ⟨false, 8710497292051807, -83⟩))]

/-- The double next to it, as which it is read. -/
def otherRatio : Value := .object [("ratio", .number (.real ⟨false, 8710497292051806, -83⟩))]

/-- Arrays in one another, around an empty one. -/
def nest : Nat → Value
  | 0 => .array []
  | n + 1 => .array [nest n]

/-- The nest is spelled with its brackets alone, -/
theorem nest_compact (n : Nat) : (nest n).compact.toList =
    '[' :: (List.replicate n '[' ++ ']' :: List.replicate n ']') := by
  rw [Value.compact, String.toList_ofList]
  induction n with
  | zero => rfl
  | succ n ih =>
    rw [nest, Value.compactChars, Value.compactItems, ih, List.replicate_succ, List.replicate_succ',
      List.cons_append, List.cons_append, List.append_assoc, List.cons_append, List.cons_append]

/-- has no keys, -/
theorem nest_keys (n : Nat) : (nest n).keys = [] := by
  induction n with
  | zero => rfl
  | succ n ih => rw [nest, Value.keys, Value.keysOfItems, ih, Value.keysOfItems, List.append_nil]

/-- and is its own template. -/
theorem templateOf_nest (n : Nat) : templateOf (nest n) = some (nest n).compact := by
  cases n <;> rfl

/-- Arrays that nest too deep are handed on as the text that they are written as. -/
theorem toolInput_nest (rules : SubstitutionRules) (b : Bindings) :
    toolInput (some (Placeholder.substitute rules b (nest Json.maxDepth).compact)) =
      .string (nest Json.maxDepth).compact := by
  have hbrackets : ∀ c ∈ (nest Json.maxDepth).compact.toList, c ≠ '{' := by
    rw [nest_compact]
    intro c hc
    simp only [List.mem_cons, List.mem_append, List.mem_replicate] at hc
    rcases hc with rfl | ⟨-, rfl⟩ | rfl | ⟨-, rfl⟩ <;> decide
  have hparse : Json.parse? (nest Json.maxDepth).compact = none := by
    rw [Json.parse?, nest_compact, Json.parseChars?_brackets]
  rw [Placeholder.substitute_eq, (Placeholder.Fills.of_no_brace hbrackets).eq, String.ofList_toList,
    toolInput, hparse, Option.getD_none]

end Probe

open Probe

/-- The hypotheses of `runStep_handsFilled` are satisfiable: a reply asks for a letter, and
quotes in a name that is put into the letter are part of its text. -/
theorem runStep_handsFilled_letter :
    Reply.Asks (.string reply) (action letter) ∧
      CallsWith (valueStep letter) (engine {} "Ann \"Fox\" Lee") (tool {}) letter ∧
      letter.Legible Json.maxDepth ∧
      Placeholder.Fillable (setting .common).rules (engine {} "Ann \"Fox\" Lee").bindings letter ∧
      HandsFilled (setting .common) (valueStep letter) (engine {} "Ann \"Fox\" Lee") (tool {})
          letter ∧
      letter.mapStrings (Placeholder.fillString (setting .common).rules
          (engine {} "Ann \"Fox\" Lee").bindings) =
        .object [("copies", .number (.int 2)), ("text", .string "Dear Ann \"Fox\" Lee")] := by
  have hasks : Reply.Asks (.string reply) (action letter) := .decided (by decide +kernel)
  have hcalls : CallsWith (valueStep letter) (engine {} "Ann \"Fox\" Lee") (tool {}) letter :=
    ⟨valueStep_carries _, rfl, by decide, rfl, rfl⟩
  have hlegible : letter.Legible Json.maxDepth :=
    Reply.parameters_legible hasks rfl fun x hx => by cases hx
  exact ⟨hasks, hcalls, hlegible, .object, runStep_handsFilled hcalls hlegible .object,
    by decide +kernel⟩

/-- A tool is not handed its parameters with their strings filled if a text that is put
into an array has a quote in it, if a double is read back as the one next to it, or if the
parameters nest deeper than the reader goes. -/
theorem runStep_not_handsFilled :
    (CallsWith (valueStep list) (engine {} "a\",\"b") (tool {}) list ∧
      (runStep (setting .common) (valueStep list) (engine {} "a\",\"b")).2.requests =
        [.tool "tool" (.array [.string "a", .string "b"])] ∧
      ¬HandsFilled (setting .common) (valueStep list) (engine {} "a\",\"b") (tool {}) list) ∧
    (CallsWith (valueStep ratio) (engine {} "") (tool {}) ratio ∧
      (runStep (setting .common) (valueStep ratio) (engine {} "")).2.requests =
        [.tool "tool" otherRatio] ∧
      ¬HandsFilled (setting .common) (valueStep ratio) (engine {} "") (tool {}) ratio) ∧
    CallsWith (valueStep (nest Json.maxDepth)) (engine {} "") (tool {}) (nest Json.maxDepth) ∧
      (runStep (setting .common) (valueStep (nest Json.maxDepth)) (engine {} "")).2.requests =
        [.tool "tool" (.string (nest Json.maxDepth).compact)] ∧
      ¬HandsFilled (setting .common) (valueStep (nest Json.maxDepth)) (engine {} "") (tool {})
        (nest Json.maxDepth) := by
  have hlist : CallsWith (valueStep list) (engine {} "a\",\"b") (tool {}) list :=
    ⟨valueStep_carries _, rfl, by decide, rfl, rfl⟩
  have hratio : CallsWith (valueStep ratio) (engine {} "") (tool {}) ratio :=
    ⟨valueStep_carries _, rfl, by decide, rfl, rfl⟩
  have hnest : CallsWith (valueStep (nest Json.maxDepth)) (engine {} "") (tool {})
      (nest Json.maxDepth) := ⟨valueStep_carries _, rfl, by simp [nest_keys], rfl, rfl⟩
  have hhanded :
      (runStep (setting .common) (valueStep (nest Json.maxDepth)) (engine {} "")).2.requests =
      [.tool "tool" (.string (nest Json.maxDepth).compact)] := by
    rw [runStep_requests hnest.target hnest.free, hnest.carries.rawParameters_eq,
      templateOf_nest, Option.map_some, toolInput_nest]
    rfl
  refine ⟨⟨hlist, ?_, ?_⟩, ⟨hratio, ?_, ?_⟩, hnest, hhanded, ?_⟩
  · decide +kernel
  · unfold HandsFilled
    decide +kernel
  · decide +kernel
  · unfold HandsFilled
    decide +kernel
  · intro h
    rw [HandsFilled, hhanded] at h
    cases h

end Errand

/-
# The parameters that a generator names

SPEC_FULL.md, section 4.2, step 3.

A generator may reply with an object that has a parameters field.  What the field gives is
said without the code that reads it (`Value.Gives`): a text that is not blank gives itself,
trimmed, any other value its compact form, and null and blank texts give nothing.

With one exception this alone is bound for the tool, and this alone the tool is handed: what
else the reply holds is not looked at, and where the field gives nothing binding fails
(`RunsOnField`).  The exception is a field that is null.  It counts as if the reply had no
structured part at all, so that the raw reply is taken, the object around the field and
whatever stands around that included.  `runStep_runsOnField_iff` says that this happens
exactly if the raw reply is not blank and the tool's contract accepts it.
-/

import Errand.Proofs.Json.Form
import Errand.Proofs.Run.Binding
import Errand.Proofs.Run.Parameters
import Errand.Schema.Check

namespace Errand

open Json (Members Value)

/-! ### What a field gives -/

/-- The parameters that the value of a field gives. -/
inductive Json.Value.Gives : Value → String → Prop
  | text {s : String} : Text.isBlankText s = false → Gives (.string s) (Text.trim s)
  | compact {v : Value} : v ≠ .null → v.text? = none → Gives v v.compact

namespace Json

/-- No numeral has a blank in it. -/
theorem IsNumeric.solid {c : Char} (h : IsNumeric c) : Text.isBlank c = false := by
  rcases h with hdigit | hmark
  · rw [Bool.eq_false_iff]
    intro hblank
    rw [isDigit_of_isBlank hblank] at hdigit
    cases hdigit
  · simp only [List.mem_cons, List.not_mem_nil, or_false] at hmark
    rcases hmark with rfl | rfl | rfl | rfl | rfl <;> decide

/-- The compact form of a value neither starts nor ends with a blank. -/
theorem Value.compactChars_solid (v : Value) :
    v.compactChars ≠ [] ∧ (∀ c ∈ v.compactChars.head?, Text.isBlank c = false) ∧
      ∀ c ∈ v.compactChars.getLast?, Text.isBlank c = false := by
  -- What stands between two characters that are no blanks may be anything.
  have hends : ∀ (c d : Char) (s : List Char), Text.isBlank c = false → Text.isBlank d = false →
      c :: s ++ [d] ≠ [] ∧ (∀ x ∈ (c :: s ++ [d]).head?, Text.isBlank x = false) ∧
        ∀ x ∈ (c :: s ++ [d]).getLast?, Text.isBlank x = false := by
    intro c d s hc hd
    refine ⟨by simp, fun x hx => ?_, fun x hx => ?_⟩
    · obtain rfl : c = x := by simpa using hx
      exact hc
    · rw [List.getLast?_concat] at hx
      exact Option.some.inj hx ▸ hd
  cases v with
  | null => exact hends 'n' 'l' ['u', 'l'] (by decide) (by decide)
  | bool b =>
    cases b with
    | false => exact hends 'f' 'e' ['a', 'l', 's'] (by decide) (by decide)
    | true => exact hends 't' 'e' ['r', 'u'] (by decide) (by decide)
  | number n =>
    have hsolid : ∀ c ∈ n.chars, Text.isBlank c = false := fun c hc => (n.chars_numeric c hc).solid
    exact ⟨n.chars_ne_nil, fun c hc => hsolid c (List.mem_of_mem_head? hc),
      fun c hc => hsolid c (List.mem_of_mem_getLast? hc)⟩
  | string s => exact hends '"' '"' _ (by decide) (by decide)
  | array items => exact hends '[' ']' _ (by decide) (by decide)
  | object members => exact hends '{' '}' _ (by decide) (by decide)

/-- A value is spelled without blanks around it, -/
theorem Value.trim_compact (v : Value) : Text.trim v.compact = v.compact := by
  obtain ⟨-, hfirst, hlast⟩ := v.compactChars_solid
  rw [Text.trim, Value.compact, String.toList_ofList, Text.trimChars_of_solid hfirst hlast]

/-- so its spelling is not blank. -/
theorem Value.isBlankText_compact (v : Value) : Text.isBlankText v.compact = false := by
  obtain ⟨hne, hfirst, -⟩ := v.compactChars_solid
  rw [Text.isBlankText, Value.compact, String.toList_ofList]
  cases hchars : v.compactChars with
  | nil => exact absurd hchars hne
  | cons c r =>
    rw [hchars] at hfirst
    rw [List.all_cons, hfirst c rfl, Bool.false_and]

/-- **What a value gives** is its text, trimmed, unless it is null or blank. -/
theorem Value.gives_iff {v : Value} {text : String} : v.Gives text ↔
    v ≠ .null ∧ Text.isBlankText v.render = false ∧ text = Text.trim v.render := by
  constructor
  · intro h
    cases h with
    | text hsolid => exact ⟨by simp, hsolid, rfl⟩
    | compact hnull hplain =>
      rw [Value.render_eq_compact hplain]
      exact ⟨hnull, v.isBlankText_compact, v.trim_compact.symm⟩
  · rintro ⟨hnull, hsolid, rfl⟩
    cases v with
    | null => exact absurd rfl hnull
    | string s => exact .text hsolid
    | bool b | number n | array items | object members =>
      rw [Value.render_eq_compact rfl, Value.trim_compact]
      exact .compact hnull rfl

/-- Null gives no parameters. -/
theorem Value.not_gives_null {text : String} : ¬Value.null.Gives text := fun h =>
  (Value.gives_iff.1 h).1 rfl

end Json

/-! ### A reply with a parameters field -/

/-- The output's structured part is an object with a parameters field. -/
def FunctionOutput.HasField (o : FunctionOutput) (v : Value) : Prop :=
  ∃ ms, o.parsed = some (.object ms) ∧ Reply.field? generatedFields ms = some v

/-- The output reports success, and its raw reply, trimmed, is not blank and is accepted. -/
def FunctionOutput.SendsRaw (dialect : Schema.Dialect) (c : Contract) (o : FunctionOutput)
    (text : String) : Prop :=
  o.isSuccess = true ∧ ∃ raw, o.rawResponse = some raw ∧ Text.isBlankText raw = false ∧
    text = Text.trim raw ∧ c.check dialect (some text) = .ok ()

section Replies

variable {o : FunctionOutput} {dialect : Schema.Dialect} {c : Contract} {v : Value} {text : String}

/-- An output offers what its parameters field holds, and its raw reply if that is null. -/
theorem FunctionOutput.HasField.offers_iff (h : o.HasField v) :
    o.Offers text ↔ v ≠ .null ∧ text = v.render ∨ v = .null ∧ o.rawResponse = some text := by
  obtain ⟨ms, hparsed, hfield⟩ := h
  have hvalue : generatedValue (.object ms) = v := by
    rw [generatedValue, Value.members?, Option.bind_some, hfield, Option.getD_some]
  rw [FunctionOutput.offers_iff, hparsed, Option.bind_some, hvalue]
  cases v with
  | null => simp [templateOf]
  | bool b | number n | string s | array items | object members => simp [templateOf, eq_comm]

/-- **What an output with a parameters field supplies:** what the field gives, if the contract
accepts it, and the raw reply if the field is null. -/
theorem FunctionOutput.HasField.supplies_iff (h : o.HasField v) : o.Supplies dialect c text ↔
    o.isSuccess = true ∧ v.Gives text ∧ c.check dialect (some text) = .ok () ∨
      v = .null ∧ o.SendsRaw dialect c text := by
  constructor
  · rintro ⟨hsuccess, hoffers, hsolid, hcheck⟩
    rcases h.offers_iff.1 hoffers with ⟨hnull, rfl⟩ | ⟨rfl, hraw⟩
    · exact .inl ⟨hsuccess, Value.gives_iff.2 ⟨hnull, hsolid, rfl⟩, hcheck⟩
    · exact .inr ⟨rfl, hsuccess, _, hraw, hsolid, rfl, hcheck⟩
  · rintro (⟨hsuccess, hgives, hcheck⟩ | ⟨rfl, hsuccess, raw, hraw, hsolid, rfl, hcheck⟩)
    · obtain ⟨hnull, hsolid, rfl⟩ := Value.gives_iff.1 hgives
      exact .mk hsuccess (h.offers_iff.2 (.inl ⟨hnull, rfl⟩)) hsolid hcheck
    · exact .mk hsuccess (h.offers_iff.2 (.inr ⟨rfl, hraw⟩)) hsolid hcheck

end Replies

/-! ### A step that a generator supplies -/

section Steps

variable {σ : Type} {s : Setting} {step : Step} {e : Engine σ} {tool : Tool σ}
  {o : FunctionOutput} {v : Value}

/-- The tool that the step names does not accept the filled template, and the generator, asked
for parameters, answers with the output. -/
structure IsSupplied (s : Setting) (step : Step) (e : Engine σ) (tool : Tool σ)
    (o : FunctionOutput) : Prop where
  target : (e.registry.resolve step.targetName).1 = some (.tool tool)
  unfired : e.catchUp.world.cancelled = false
  answered : ∃ reason generator,
    tool.contract.check s.dialect
      (step.rawParameters.map (Placeholder.substitute s.rules e.bindings)) =
        .error reason ∧
      e.registry.findFunction? .parameterGenerator = some generator ∧
        (generator.execute (generatorInvocation s tool.name step.description reason
          tool.contract.inputSchema e.bindings) e.catchUp.world).1 = .answered o

/-- The step runs on what the field gives, and on nothing else. -/
structure RunsOnField (s : Setting) (step : Step) (e : Engine σ) (tool : Tool σ)
    (o : FunctionOutput) (v : Value) : Prop where
  /-- This is bound, if the generator reports success and the contract accepts it. -/
  bound : ∀ parameters,
    (bindParameters s (some tool) step.rawParameters step.description e).1 =
        .ok (.bound parameters) ↔
      o.isSuccess = true ∧ ∃ text, v.Gives text ∧
        tool.contract.check s.dialect (some text) = .ok () ∧
        parameters = some text
  /-- Where the field gives nothing, binding fails. -/
  failed : (∀ text, ¬v.Gives text) → ∃ error,
    (bindParameters s (some tool) step.rawParameters step.description e).1 = .ok (.failed error)
  /-- A tool that the step asks is handed what the field gives, -/
  asked : ∃ asked, (runStep s step e).2.requests = e.requests ++ asked ∧
    ∀ request ∈ asked, request.isTool = true →
      ∃ text, v.Gives text ∧ request = .tool tool.name (toolInput (some text))
  /-- and this is what the step reports. -/
  reported : ∀ r, (runStep s step e).1 = .ok r →
    (∀ parameters, r.boundParameters = some parameters → v.Gives parameters) ∧
      (r.boundParameters = none → r.isSuccess = false)

/-- The engine after the generator was asked. -/
theorem IsSupplied.bindParameters_eq (h : IsSupplied s step e tool o) :
    ∃ i e₁, bindParameters s (some tool) step.rawParameters step.description e =
        (.ok (acceptGenerated s.dialect tool.name tool.contract o), e₁) ∧
      e₁.requests = e.requests ++ [.execute .parameterGenerator i] := by
  obtain ⟨reason, generator, hreason, hgenerator, hanswer⟩ := h.answered
  have hworld : (e.lookedUp .parameterGenerator).catchUp.world = e.catchUp.world := rfl
  generalize hi : generatorInvocation s tool.name step.description reason
    tool.contract.inputSchema e.bindings = i at hanswer
  rw [bindParameters_of_error step.description hreason, generateParameters_of_some hgenerator hi]
  refine ⟨i, _, Prod.ext ?_ rfl, (ask_requests _ _ _).trans ?_⟩
  · rw [ask_of_unfired (hworld ▸ h.unfired), hworld, hanswer]
    rfl
  · rw [hworld, h.unfired]
    rfl

/-- The same tool and the same generator are found in any registry of the same items. -/
theorem IsSupplied.of_sameItems (h : IsSupplied s step e tool o) {r : Registry σ}
    (hitems : Registry.SameItems e.registry r) :
    IsSupplied s step { e with registry := r } tool o := by
  obtain ⟨reason, generator, hreason, hgenerator, hanswer⟩ := h.answered
  exact {
    target := (hitems.resolve_fst step.targetName).trans h.target
    unfired := h.unfired
    answered := ⟨reason, generator, hreason,
      (hitems.findFunction? .parameterGenerator).trans hgenerator, hanswer⟩ }

/-- The generator is asked the same once the step's target is resolved. -/
theorem IsSupplied.resolved (h : IsSupplied s step e tool o) :
    ∃ i e₁, bindParameters s (some tool) step.rawParameters step.description
          (e.resolved step.targetName) =
        (.ok (acceptGenerated s.dialect tool.name tool.contract o), e₁) ∧
      e₁.requests = e.requests ++ [.execute .parameterGenerator i] := by
  have hsame := Registry.sameItems_resolve e.registry step.targetName
  have hresolved : IsSupplied s step (e.resolved step.targetName) tool o := h.of_sameItems hsame
  obtain ⟨i, e₁, hbind, hrequests⟩ := hresolved.bindParameters_eq
  rw [Engine.requests_resolved] at hrequests
  exact ⟨i, e₁, hbind, hrequests⟩

/-- What is bound is what the output supplies. -/
theorem IsSupplied.bound_iff (h : IsSupplied s step e tool o) {parameters : Option String} :
    (bindParameters s (some tool) step.rawParameters step.description e).1 =
        .ok (.bound parameters) ↔
      ∃ text, o.Supplies s.dialect tool.contract text ∧ parameters = some text := by
  obtain ⟨i, e₁, hbind, -⟩ := h.bindParameters_eq
  rw [hbind, ← acceptGenerated_eq_bound_iff, Except.ok.injEq]

/-- **The step runs on what the output supplies:** a tool that it asks is handed this, and this
is what it reports. -/
theorem IsSupplied.runStep (h : IsSupplied s step e tool o) :
    (∃ asked, (runStep s step e).2.requests = e.requests ++ asked ∧
      ∀ request ∈ asked, request.isTool = true → ∃ text, o.Supplies s.dialect tool.contract text ∧
        request = .tool tool.name (toolInput (some text))) ∧
    ∀ r, (Errand.runStep s step e).1 = .ok r →
      (∀ parameters, r.boundParameters = some parameters →
        o.Supplies s.dialect tool.contract parameters) ∧
        (r.boundParameters = none → r.isSuccess = false) := by
  obtain ⟨i, e₁, hbind, hrequests⟩ := h.resolved
  cases haccept : acceptGenerated s.dialect tool.name tool.contract o with
  | failed error =>
    rw [haccept] at hbind
    rw [runStep_of_failed h.target hbind]
    refine ⟨⟨_, hrequests, fun request hrequest htool => ?_⟩, ?_⟩
    · rw [List.mem_singleton.1 hrequest] at htool
      cases htool
    · rintro _ ⟨⟩
      exact ⟨fun _ => nofun, fun _ => rfl⟩
  | bound parameters =>
    obtain ⟨text, hsupplies, rfl⟩ := acceptGenerated_eq_bound_iff.1 haccept
    rw [haccept] at hbind
    obtain ⟨hstep, hreported⟩ := runStep_of_bound h.target hbind
    rw [hrequests, List.append_assoc] at hstep
    refine ⟨⟨_, hstep, fun request hrequest htool => ?_⟩, fun r hr => ?_⟩
    · rcases List.mem_append.1 hrequest with hgenerator | hcall
      · rw [List.mem_singleton.1 hgenerator] at htool
        cases htool
      · split at hcall
        · cases hcall
        · exact ⟨text, hsupplies, List.mem_singleton.1 hcall⟩
    · rw [hreported r hr]
      refine ⟨fun parameters hp => ?_, nofun⟩
      rw [← Option.some.inj hp]
      exact hsupplies

/-- **A step that a generator supplies runs on the parameters field of the reply,** whatever
the reply, the contract and the bindings: what the field gives is bound, handed to the tool
and reported, and where it gives nothing binding fails.  The one exception is a field that is
null, in a reply that as a whole the contract accepts. -/
theorem runStep_runsOnField_iff (h : IsSupplied s step e tool o) (hfield : o.HasField v) :
    RunsOnField s step e tool o v ↔
      ¬(v = .null ∧ ∃ text, o.SendsRaw s.dialect tool.contract text) := by
  constructor
  · rintro hruns ⟨rfl, text, hraw⟩
    obtain ⟨-, _, hgives, -⟩ := (hruns.bound (some text)).1 (h.bound_iff.2
      ⟨text, hfield.supplies_iff.2 (.inr ⟨rfl, hraw⟩), rfl⟩)
    exact Value.not_gives_null hgives
  · intro hraw
    have hsupplies : ∀ text, o.Supplies s.dialect tool.contract text ↔
        o.isSuccess = true ∧ v.Gives text ∧ tool.contract.check s.dialect (some text) = .ok () := by
      intro text
      rw [hfield.supplies_iff, or_iff_left]
      exact fun hsends => hraw ⟨hsends.1, text, hsends.2⟩
    obtain ⟨⟨asked, hasked, hhanded⟩, hreported⟩ := h.runStep
    refine ⟨fun parameters => ?_, fun hnothing => ?_, ⟨asked, hasked, ?_⟩, fun r hr => ?_⟩
    · rw [h.bound_iff]
      constructor
      · rintro ⟨text, htext, rfl⟩
        obtain ⟨hsuccess, hgives, hcheck⟩ := (hsupplies text).1 htext
        exact ⟨hsuccess, text, hgives, hcheck, rfl⟩
      · rintro ⟨hsuccess, text, hgives, hcheck, rfl⟩
        exact ⟨text, (hsupplies text).2 ⟨hsuccess, hgives, hcheck⟩, rfl⟩
    · obtain ⟨i, e₁, hbind, -⟩ := h.bindParameters_eq
      rw [hbind]
      cases haccept : acceptGenerated s.dialect tool.name tool.contract o with
      | failed error => exact ⟨error, rfl⟩
      | bound parameters =>
        obtain ⟨text, htext, -⟩ := acceptGenerated_eq_bound_iff.1 haccept
        exact absurd ((hsupplies text).1 htext).2.1 (hnothing text)
    · intro request hrequest htool
      obtain ⟨text, htext, heq⟩ := hhanded request hrequest htool
      exact ⟨text, ((hsupplies text).1 htext).2.1, heq⟩
    · obtain ⟨hbound, hnone⟩ := hreported r hr
      exact ⟨fun parameters hp => ((hsupplies parameters).1 (hbound parameters hp)).2.1, hnone⟩

end Steps

/-! ### A tool that takes any parameters -/

namespace Notebook

/-- The setting of a run. -/
def setting : Setting := { goal := "g", dialect := .common }

/-- The tool, which has to be given parameters, whatever they are. -/
def tool : Tool Unit where
  name := "note"
  contract.requiresParameters := true
  run _ := fun w => (.answered .empty, w)

/-- The engine that has the tool and a generator that always gives the same reply. -/
def engine (reply : String) : Engine Unit where
  world := ⟨(), 0, false⟩
  registry := (({} : Registry Unit).registerTool tool).registerFunction (Reader.generator reply)

/-- The step that calls for a note and has no parameters. -/
def step : Step where
  stepNumber := 1
  targetName := "note"

/-- The generator supplies the step, whatever it replies. -/
theorem isSupplied (reply : String) :
    IsSupplied setting step (engine reply) tool (.ofReply reply) where
  target := rfl
  unfired := rfl
  answered := ⟨.missing, Reader.generator reply, rfl, rfl, rfl⟩

/-- A reply that names a note. -/
def titled : String := "\x7b\"parameters\": \x7b\"title\": \"plans\"\x7d\x7d"

/-- A reply that names nothing. -/
def untitled : String := "\x7b\"parameters\": null\x7d"

/-- The reply has a field of parameters. -/
theorem titled_hasField :
    (FunctionOutput.ofReply titled).HasField (.object [("title", .string "plans")]) :=
  ⟨[("parameters", .object [("title", .string "plans")])], by decide +kernel⟩

end Notebook

open Notebook

/-- The hypotheses of `runStep_runsOnField_iff` are satisfiable, and the step runs on the
note that the reply names. -/
theorem runStep_runsOnField_titled :
    IsSupplied setting step (engine titled) tool (.ofReply titled) ∧
      (FunctionOutput.ofReply titled).HasField (.object [("title", .string "plans")]) ∧
        RunsOnField setting step (engine titled) tool (.ofReply titled)
          (.object [("title", .string "plans")]) :=
  ⟨isSupplied titled, titled_hasField,
    (runStep_runsOnField_iff (isSupplied titled) titled_hasField).2 nofun⟩

/-- Where the field is null, the tool is handed the reply as a whole. -/
theorem runStep_not_runsOnField_null :
    IsSupplied setting step (engine untitled) tool (.ofReply untitled) ∧
      (FunctionOutput.ofReply untitled).HasField .null ∧
        Request.tool "note" (.object [("parameters", .null)]) ∈
          (runStep setting step (engine untitled)).2.requests ∧
        ¬RunsOnField setting step (engine untitled) tool (.ofReply untitled) .null := by
  have hhanded : Request.tool "note" (.object [("parameters", .null)]) ∈
      (runStep setting step (engine untitled)).2.requests := by
    decide +kernel
  refine ⟨isSupplied untitled, ⟨[("parameters", .null)], by decide +kernel⟩, hhanded, ?_⟩
  intro hruns
  obtain ⟨asked, hasked, hgives⟩ := hruns.asked
  rw [hasked] at hhanded
  obtain ⟨text, hnull, -⟩ := hgives _ (by simpa [engine, Engine.requests] using hhanded) rfl
  exact Value.not_gives_null hnull

end Errand

/-
# What binding comes to

SPEC_FULL.md, section 4.2, steps 2 and 3.

For a function, a filled template is bound as it is.  For a tool it has to meet the tool's
contract, and what does not is replaced by what the parameter generator supplies, if this
meets the contract (`FunctionOutput.Supplies`).  The generator is called only then, and
once.

`bindParameters_bindsTo` says this of every way a binding may go, from the reply of a
generator of which nothing is assumed.  So nothing is bound for a tool that its contract
does not accept, and whatever fails to be bound has an error and no parameters.
-/

import Errand.Proofs.Run.Chunks
import Errand.Proofs.Run.RoleCalls
import Errand.Proofs.Text.Cut

namespace Errand

open Json (Value)

/-! ### What a generator supplies -/

/-- The text that an output offers as parameters: what its structured part has under the
parameters field, or this part as a whole, unless it is null, and else the raw reply. -/
inductive FunctionOutput.Offers (o : FunctionOutput) : String → Prop
  | structured {v : Value} {t : String} : o.parsed = some v →
      templateOf (generatedValue v) = some t → o.Offers t
  | raw {t : String} : (∀ v ∈ o.parsed, generatedValue v = .null) → o.rawResponse = some t →
      o.Offers t

/-- The reply supplies parameters that the contract accepts: it reports success, and what it
offers is not blank and, trimmed, accepted. -/
inductive FunctionOutput.Supplies (dialect : Schema.Dialect) (c : Contract) (o : FunctionOutput) :
    String → Prop
  | mk {t : String} : o.isSuccess = true → o.Offers t → Text.isBlankText t = false →
      c.check dialect (some (Text.trim t)) = .ok () → Supplies dialect c o (Text.trim t)

section Replies

variable {o : FunctionOutput} {dialect : Schema.Dialect} {c : Contract} {text : String}
  {parameters : Option String}

/-- Null alone is no template. -/
theorem templateOf_eq_none_iff {v : Value} : templateOf v = none ↔ v = .null := by
  cases v <;> simp [templateOf]

/-- A reply offers what its value gives, and what it says if it has no value that gives anything.
-/
theorem FunctionOutput.offers_iff : o.Offers text ↔
    (o.parsed.bind fun v => templateOf (generatedValue v)).or o.rawResponse = some text := by
  rw [Option.or_eq_some_iff, Option.bind_eq_some_iff, Option.bind_eq_none_iff]
  simp only [templateOf_eq_none_iff]
  constructor
  · rintro (⟨hv, ht⟩ | ⟨hnull, hraw⟩)
    · exact .inl ⟨_, hv, ht⟩
    · exact .inr ⟨hnull, hraw⟩
  · rintro (⟨v, hv, ht⟩ | ⟨hnull, hraw⟩)
    · exact .structured hv ht
    · exact .raw hnull hraw

/-- What is generated is what is offered, trimmed, if it is not blank. -/
theorem generatedParameters?_eq_some_iff : generatedParameters? o = some text ↔
    ∃ t, o.Offers t ∧ Text.isBlankText t = false ∧ text = Text.trim t := by
  rw [generatedParameters?, Option.bind_eq_some_iff]
  simp only [← FunctionOutput.offers_iff, Text.trimmed?_eq_some_iff]

/-- **What is bound from an output is what it supplies.** -/
theorem acceptGenerated_eq_bound_iff {name : String} :
    acceptGenerated dialect name c o = .bound parameters ↔
      ∃ text, o.Supplies dialect c text ∧ parameters = some text := by
  constructor
  · intro h
    have hsuccess : o.isSuccess = true := by
      unfold acceptGenerated at h
      split at h
      · cases h
      · next hs => simpa using hs
    obtain ⟨hcheck, hgenerated⟩ := acceptGenerated_eq_bound h
    cases parameters with
    | none =>
      -- Only a text is ever accepted.
      rw [acceptGenerated, hgenerated, hsuccess] at h
      cases h
    | some text =>
      obtain ⟨t, ht, hsolid, rfl⟩ := generatedParameters?_eq_some_iff.1 hgenerated
      exact ⟨_, .mk hsuccess ht hsolid hcheck, rfl⟩
  · rintro ⟨_, ⟨hsuccess, ht, hsolid, hcheck⟩, rfl⟩
    have hgenerated := generatedParameters?_eq_some_iff.2 ⟨_, ht, hsolid, rfl⟩
    simp only [acceptGenerated, hsuccess, hgenerated, hcheck]
    rfl

end Replies

/-! ### The call of the generator -/

section Generation

variable {σ : Type} {s : Setting} {tool : Tool σ} {description : String}
  {reason : ParameterFault} {e : Engine σ} {generator : ModelFunction σ}

/-- The engine after the generator was looked up. -/
def Engine.lookedUp (e : Engine σ) (role : Role) : Engine σ :=
  { e with registry := (e.registry.lookupFunction role).2 }

/-- What becomes of the generator's reply. -/
def acceptReply (s : Setting) (tool : Tool σ) : Except Fault FunctionOutput → BindOutcome
  | .ok o => acceptGenerated s.dialect tool.name tool.contract o
  | .error f => .failed ("parameter generation failed: " ++ f.text)

/-- Without a generator, what does not meet the contract fails. -/
theorem generateParameters_of_none
    (h : e.registry.findFunction? .parameterGenerator = none) :
    generateParameters s tool description reason e =
      (.ok (.failed ("parameter validation failed for " ++ tool.name ++ ": " ++ reason.message)),
        e.lookedUp .parameterGenerator) := by
  rw [generateParameters, Run.bind_apply, lookupFunction_apply, Registry.lookupFunction_fst, h]
  rfl

/-- With one, its reply decides. -/
theorem generateParameters_of_some
    (h : e.registry.findFunction? .parameterGenerator = some generator) {i : Invocation}
    (hi : generatorInvocation s tool.name description reason tool.contract.inputSchema
      e.bindings = i) :
    generateParameters s tool description reason e =
      ((Run.ask (.execute .parameterGenerator i) (generator.execute i)
          (e.lookedUp .parameterGenerator)).1.map (acceptReply s tool),
        (Run.ask (.execute .parameterGenerator i) (generator.execute i)
          (e.lookedUp .parameterGenerator)).2) := by
  subst hi
  have hreply : (fun answer : Except Fault FunctionOutput =>
      (match answer with
        | .ok o => pure (acceptGenerated s.dialect tool.name tool.contract o)
        | .error f => pure (.failed ("parameter generation failed: " ++ f.text)) :
        Run σ BindOutcome)) = fun answer => pure (acceptReply s tool answer) := by
    funext answer
    cases answer <;> rfl
  rw [generateParameters, Run.bind_apply, lookupFunction_apply, Registry.lookupFunction_fst, h,
    ← bind_pure_apply, ← hreply]
  rfl

/-- What it comes to that a generator is called for parameters that a contract accepts: the
result of binding, and the engine after it. -/
structure Generates (dialect : Schema.Dialect) (c : Contract) (generator : ModelFunction σ)
    (i : Invocation) (e : Engine σ) (result : Except Cancelled BindOutcome)
    (e' : Engine σ) : Prop where
  /-- Once the token has fired there is no call. -/
  idle : e.catchUp.world.cancelled = true → result = .error .mk ∧ e.Asked [] e'
  once : e.catchUp.world.cancelled = false → e.Asked [.execute .parameterGenerator i] e'
  cancelled : result = .error .mk ↔
    e.catchUp.world.cancelled = true ∨ (generator.execute i e.catchUp.world).1.Cancels
  bound : ∀ parameters, result = .ok (.bound parameters) ↔
    e.catchUp.world.cancelled = false ∧ ∃ o text,
      (generator.execute i e.catchUp.world).1 = .answered o ∧ o.Supplies dialect c text ∧
        parameters = some text

/-- A reply is bound if it is an answer that supplies parameters. -/
theorem settled_eq_bound_iff {answer : Response FunctionOutput} {parameters : Option String} :
    answer.settled.map (acceptReply s tool) = .ok (.bound parameters) ↔
      ∃ o text, answer = .answered o ∧ o.Supplies s.dialect tool.contract text ∧
        parameters = some text := by
  cases answer with
  | answered o =>
    have haccept : (Response.answered o).settled.map (acceptReply s tool) =
        .ok (acceptGenerated s.dialect tool.name tool.contract o) := rfl
    rw [haccept, Except.ok.injEq, acceptGenerated_eq_bound_iff]
    constructor
    · rintro ⟨text, h⟩
      exact ⟨o, text, rfl, h⟩
    · rintro ⟨_, text, ⟨⟩, h⟩
      exact ⟨text, h⟩
  | failed f =>
    constructor
    · intro h
      simp only [Response.settled] at h
      split at h <;> cases h
    · rintro ⟨_, _, ⟨⟩, _⟩
  | unanswered =>
    constructor
    · rintro ⟨⟩
    · rintro ⟨_, _, ⟨⟩, _⟩

/-- **The generator is called once,** and binding comes to what its reply supplies. -/
theorem generateParameters_generates
    (h : e.registry.findFunction? .parameterGenerator = some generator) :
    Generates s.dialect tool.contract generator (generatorInvocation s tool.name description reason
        tool.contract.inputSchema e.bindings) e
      (generateParameters s tool description reason e).1
      (generateParameters s tool description reason e).2 := by
  generalize hi : generatorInvocation s tool.name description reason tool.contract.inputSchema
    e.bindings = i
  rw [generateParameters_of_some h hi]
  -- Looking the generator up changed neither the world nor the journal.
  have hworld : (e.lookedUp .parameterGenerator).catchUp.world = e.catchUp.world := rfl
  cases hfired : e.catchUp.world.cancelled with
  | true =>
    rw [ask_of_fired (hworld ▸ hfired)]
    refine ⟨fun _ => ⟨rfl, .nil rfl⟩, fun h => (by cases hfired.symm.trans h), ?_, fun p => ?_⟩
    · simp only [hfired, true_or, iff_true]
      rfl
    · simp only [hfired, Bool.true_eq_false, false_and, iff_false]
      rintro ⟨⟩
  | false =>
    rw [ask_of_unfired (hworld ▸ hfired), hworld]
    refine ⟨fun h => (by cases hfired.symm.trans h), fun _ => ⟨_, rfl, rfl⟩, ?_, fun p => ?_⟩
    · simp only [hfired, Bool.false_eq_true, false_or]
      rw [← Response.settled_eq_error_iff (c := .mk)]
      cases (generator.execute i e.catchUp.world).1.settled with
      | ok answer => constructor <;> rintro ⟨⟩
      | error c =>
        obtain ⟨⟩ := c
        exact ⟨fun _ => rfl, fun _ => rfl⟩
    · simp only [hfired, true_and]
      exact settled_eq_bound_iff

/-- It leaves the bindings as they are. -/
theorem generateParameters_bindings :
    (generateParameters s tool description reason e).2.bindings = e.bindings := by
  cases h : e.registry.findFunction? .parameterGenerator with
  | none =>
    rw [generateParameters_of_none h]
    rfl
  | some generator =>
    rw [generateParameters_of_some h rfl]
    exact (ask_frame _ _ _).2

end Generation

/-! ### Binding -/

section Binding

variable {σ : Type}

/-- What it comes to that a template, once filled, is bound for a tool, or for a function if
there is none: the result, and the engine after it. -/
structure BindsTo (s : Setting) (tool? : Option (Tool σ)) (filled : Option String)
    (description : String) (e : Engine σ) (result : Except Cancelled BindOutcome)
    (e' : Engine σ) : Prop where
  /-- For a function the filled template is bound, and nobody is called. -/
  function : tool? = none → result = .ok (.bound filled) ∧ e' = e
  /-- So it is for a tool whose contract accepts it. -/
  accepted : ∀ tool ∈ tool?, tool.contract.check s.dialect filled = .ok () →
    result = .ok (.bound filled) ∧ e' = e
  /-- What is not accepted fails without a generator. -/
  alone : ∀ tool ∈ tool?, ∀ reason, tool.contract.check s.dialect filled = .error reason →
    e.registry.findFunction? .parameterGenerator = none →
      (∃ error, result = .ok (.failed error)) ∧ e.Asked [] e'
  /-- With one, it is called. -/
  generated : ∀ tool ∈ tool?, ∀ reason, tool.contract.check s.dialect filled = .error reason →
    ∀ generator ∈ e.registry.findFunction? .parameterGenerator,
      Generates s.dialect tool.contract generator (generatorInvocation s tool.name description
        reason tool.contract.inputSchema e.bindings) e result e'
  /-- Whatever is bound for a tool is accepted by its contract. -/
  checked : ∀ tool ∈ tool?, ∀ parameters, result = .ok (.bound parameters) →
    tool.contract.check s.dialect parameters = .ok ()
  /-- Whatever fails has no parameters and an error. -/
  failed : ∀ outcome, result = .ok outcome → (∀ parameters, outcome ≠ .bound parameters) →
    outcome.parameters? = none ∧ outcome.error?.isSome = true
  bindings : e'.bindings = e.bindings

/-- What is not bound has failed, with an error and without parameters. -/
theorem BindOutcome.failed_of_ne_bound {outcome : BindOutcome}
    (h : ∀ parameters, outcome ≠ .bound parameters) :
    outcome.parameters? = none ∧ outcome.error?.isSome = true := by
  cases outcome with
  | bound parameters => exact absurd rfl (h parameters)
  | failed error => exact ⟨rfl, rfl⟩

variable (s : Setting) (template : Option String) (description : String) (e : Engine σ)

/-- **Binding.**  For a function the filled template is bound.  For a tool it is bound if the
tool's contract accepts it; if not, binding fails without a generator, and with one is what
the generator supplies, called once.  So for a tool nothing is bound that its contract does
not accept.  What fails has an error and no parameters, and the bindings stay as they are. -/
theorem bindParameters_bindsTo (tool? : Option (Tool σ)) :
    BindsTo s tool? (template.map (Placeholder.substitute s.rules e.bindings)) description e
      (bindParameters s tool? template description e).1
      (bindParameters s tool? template description e).2 := by
  have hfailed : ∀ outcome, (bindParameters s tool? template description e).1 = .ok outcome →
      (∀ parameters, outcome ≠ .bound parameters) →
        outcome.parameters? = none ∧ outcome.error?.isSome = true :=
    fun _ _ h => BindOutcome.failed_of_ne_bound h
  cases tool? with
  | none =>
    exact ⟨fun _ => ⟨rfl, rfl⟩, fun _ h => (by cases h), fun _ h => (by cases h),
      fun _ h => (by cases h), fun _ h => (by cases h), hfailed, rfl⟩
  | some tool =>
    have hchecked : ∀ t ∈ some tool, ∀ parameters,
        (bindParameters s (some tool) template description e).1 = .ok (.bound parameters) →
          t.contract.check s.dialect parameters = .ok () := by
      rintro _ ⟨⟩ parameters h
      exact (bindParameters_eq_bound (Prod.ext h rfl)).checked
    cases hcheck : tool.contract.check s.dialect
        (template.map (Placeholder.substitute s.rules e.bindings)) with
    | ok u =>
      have hbound := bindParameters_of_ok description hcheck
      refine ⟨fun h => (by cases h), ?_, ?_, ?_, hchecked, hfailed, by rw [hbound]⟩
      · intro _ _ _
        rw [hbound]
        exact ⟨rfl, rfl⟩
      · rintro _ ⟨⟩ reason h
        cases hcheck.symm.trans h
      · rintro _ ⟨⟩ reason h
        cases hcheck.symm.trans h
    | error reason =>
      have hasked := bindParameters_of_error description hcheck
      refine ⟨fun h => (by cases h), ?_, ?_, ?_, hchecked, hfailed, ?_⟩
      · rintro _ ⟨⟩ h
        cases hcheck.symm.trans h
      · rintro _ ⟨⟩ _ _ hnone
        rw [hasked, generateParameters_of_none hnone]
        exact ⟨⟨_, rfl⟩, .nil rfl⟩
      · rintro _ ⟨⟩ reason' h generator hgenerator
        obtain rfl : reason = reason' := Except.error.inj (hcheck.symm.trans h)
        rw [hasked]
        exact generateParameters_generates hgenerator
      · rw [hasked]
        exact generateParameters_bindings

/-! ### A tool that has to be given a path -/

namespace Reader

/-- The tool, which reads the file under a path. -/
def tool : Tool Unit where
  name := "read"
  contract.requiresParameters := true
  contract.inputSchema := some (.object [("required", .array [.string "path"])])
  run _ := fun w => (.answered .empty, w)

/-- A generator that always gives the same reply. -/
def generator (reply : String) : ModelFunction Unit where
  role := .parameterGenerator
  streams := false
  execute _ := fun w => (.answered (.ofReply reply), w)
  openStream _ := fun w => (.answered .done, w)

/-- What binding comes to when nothing is given and the generator gives this reply. -/
def outcome? (reply : String) : Option BindOutcome :=
  let registry : Registry Unit := ({} : Registry Unit).registerFunction (generator reply)
  let engine : Engine Unit := { world := ⟨(), 0, false⟩, registry }
  (bindParameters { goal := "", dialect := .common } (some tool) none "" engine).1.toOption

end Reader

/-- A generator's reply is checked like any other parameters. -/
example :
    Reader.outcome? "\x7b\"parameters\": \x7b\"path\": \"a.txt\"\x7d\x7d" =
        some (.bound (some "\x7b\"path\":\"a.txt\"\x7d")) ∧
      Reader.outcome? "\x7b\"file\": \"a.txt\"\x7d" =
        some (.failed ("generated parameters are invalid for read: schema violation: " ++
          "\"path\" is a required property")) := by
  decide +kernel

end Binding
end Errand

/-
# Laws of runs

A law says how a run may change the engine: it relates the engine before to the
engine after, and knows whether the run was stopped.  It must allow doing nothing,
and two runs after one another when it allows each.

`Run.Obeys L m` says that `m` keeps to the law from every engine.  Obedience is
compositional (`Run.Obeys.bind`), so a law that the primitives keep is kept by every
step (`runStep_obeys`).  A law may have its say on which questions are put to
collaborators (`Law.Admits`).  What a step may ask depends on where it starts, on what
its target resolves to and on the parameters that binding can give (`StepAsks`):
`runStep_obeysFrom` asks the law only about that.

`Run.Yields` is the counterpart for what a run gives back.
-/

import Errand.Run.Strategy

namespace Errand

/-- A rule for how a run may change the engine.  The flag tells whether the run was
stopped. -/
structure Law (σ : Type) where
  holds : Engine σ → Bool → Engine σ → Prop
  refl : ∀ e, holds e false e
  trans : ∀ {e₁ e₂ e₃ : Engine σ} {b : Bool}, holds e₁ false e₂ → holds e₂ b e₃ → holds e₁ b e₃

/-- Whether a run was stopped. -/
def Cancelled.stopped {α : Type} : Except Cancelled α → Bool
  | .ok _ => false
  | .error _ => true

namespace Run

variable {σ α β : Type} {L : Law σ}

/-- The run keeps to the law when it starts from the engine. -/
def ObeysFrom (L : Law σ) (m : Run σ α) (e : Engine σ) : Prop :=
  L.holds e (Cancelled.stopped (m e).1) (m e).2

/-- The run keeps to the law, whatever engine it starts from. -/
def Obeys (L : Law σ) (m : Run σ α) : Prop := ∀ e, ObeysFrom L m e

/-- Whatever the run gives back has the property. -/
def Yields (m : Run σ α) (P : α → Prop) : Prop := ∀ e a, (m e).1 = .ok a → P a

/-- A run that came through went through both of its parts. -/
theorem bind_eq_ok {m : Run σ α} {f : α → Run σ β} {e e₂ : Engine σ} {b : β} :
    (m >>= f) e = (.ok b, e₂) ↔ ∃ a e₁, m e = (.ok a, e₁) ∧ f a e₁ = (.ok b, e₂) := by
  rw [bind_apply]
  rcases m e with ⟨_ | a, e₁⟩
  · simp
  · refine ⟨fun h => ⟨a, e₁, rfl, h⟩, ?_⟩
    rintro ⟨_, _, he, h⟩
    cases he
    exact h

/-- Who does nothing keeps to every law, -/
theorem Obeys.pure (a : α) : Obeys L (pure a : Run σ α) := fun e => L.refl e

/-- and so does who only looks at the engine. -/
theorem Obeys.get : Obeys L (Run.get : Run σ (Engine σ)) := fun e => L.refl e

/-- or at the clock. -/
theorem Obeys.now : Obeys L (Run.now : Run σ Instant) := fun e => L.refl e

/-- **Obedience goes on where a lawful run came through.** -/
theorem ObeysFrom.bind {m : Run σ α} {f : α → Run σ β} {e : Engine σ} (hm : ObeysFrom L m e)
    (hf : ∀ a e₁, m e = (.ok a, e₁) → ObeysFrom L (f a) e₁) : ObeysFrom L (m >>= f) e := by
  unfold ObeysFrom at hm ⊢
  rw [bind_apply]
  rcases hme : m e with ⟨_ | a, e₁⟩ <;> rw [hme] at hm
  · exact hm
  · exact L.trans hm (hf a e₁ hme)

/-- Obedience after a lawful run, of which something is known of what it gives. -/
theorem Obeys.bind_of {m : Run σ α} {f : α → Run σ β} {P : α → Prop} (hm : Obeys L m)
    (hP : Yields m P) (hf : ∀ a, P a → Obeys L (f a)) : Obeys L (m >>= f) := fun e =>
  (hm e).bind fun a e₁ h => hf a (hP e a (by rw [h])) e₁

/-- **Obedience is compositional.** -/
theorem Obeys.bind {m : Run σ α} {f : α → Run σ β} (hm : Obeys L m)
    (hf : ∀ a, Obeys L (f a)) : Obeys L (m >>= f) :=
  hm.bind_of (P := fun _ => True) (fun _ _ _ => trivial) fun a _ => hf a

/-- What has the property may be given back, -/
theorem Yields.pure {P : α → Prop} {a : α} (h : P a) : Yields (pure a : Run σ α) P := by
  intro e b hb
  obtain rfl := Except.ok.inj hb
  exact h

/-- and it is given back if the second part gives it back, -/
theorem Yields.bind {m : Run σ α} {f : α → Run σ β} {P : β → Prop}
    (hf : ∀ a, Yields (f a) P) : Yields (m >>= f) P := by
  intro e b h
  rw [bind_apply] at h
  rcases hme : m e with ⟨_ | a, e₁⟩ <;> rw [hme] at h
  · cases h
  · exact hf a e₁ b h

/-- which may rely on what the first one gives. -/
theorem Yields.bind_of {m : Run σ α} {f : α → Run σ β} {P : α → Prop} {Q : β → Prop}
    (hm : Yields m P) (hf : ∀ a, P a → Yields (f a) Q) : Yields (m >>= f) Q := by
  intro e b h
  have h₁ := hm e
  rw [bind_apply] at h
  rcases hme : m e with ⟨_ | a, e₁⟩ <;> rw [hme] at h h₁
  · cases h
  · exact hf a (h₁ a rfl) e₁ b h

end Run

/-- Whether a request is the call of a tool. -/
def Request.isTool : Request → Bool
  | .tool _ _ => true
  | .execute _ _ | .openStream _ _ | .nextChunk _ => false

/-- The role of the function that a request is put to. -/
def Request.role? : Request → Option Role
  | .tool _ _ => none
  | .execute role _ | .openStream role _ | .nextChunk role => some role

/-- A question to a tool is put to no role. -/
theorem Request.role?_eq_none {request : Request} (h : request.isTool = true) :
    request.role? = none := by
  cases request <;> first | rfl | cases h

/-- What the steps of a run need a law to allow: looks at the token, look-ups, chunks
sent on, and the questions that the law has no objection to. -/
structure Law.Admits {σ : Type} (L : Law σ) (ok : Request → Prop) : Prop where
  checkToken : Run.Obeys L Run.checkToken
  ask : ∀ {α : Type} {request : Request} (question : Ask σ α), ok request →
    Run.Obeys L (Run.ask request question)
  lookupFunction : ∀ role, Run.Obeys L (Run.lookupFunction role)
  resolve : ∀ name, Run.Obeys L (Run.resolve name)
  chunk : ∀ number text, Run.Obeys L (Run.send (.chunk number text))

/-- What the step with a number needs a law to allow. -/
structure Law.AdmitsStep {σ : Type} (L : Law σ) (ok : Request → Prop) (number : Nat) :
    Prop where
  ask : ∀ {α : Type} {request : Request} (question : Ask σ α), ok request →
    Run.Obeys L (Run.ask request question)
  lookupFunction : ∀ role, Run.Obeys L (Run.lookupFunction role)
  resolve : ∀ name, Run.Obeys L (Run.resolve name)
  chunk : ∀ text, Run.Obeys L (Run.send (.chunk number text))

/-- A law that admits whatever may be asked admits the steps of every number. -/
theorem Law.Admits.step {σ : Type} {L : Law σ} {ok : Request → Prop} (A : L.Admits ok)
    (number : Nat) : L.AdmitsStep ok number :=
  ⟨A.ask, A.lookupFunction, A.resolve, A.chunk number⟩

/-! ### What the primitives leave alone -/

section Frames

variable {σ α : Type} (e : Engine σ)

/-- Neither events nor bindings changed. -/
def Engine.SentAndBoundAs (e e' : Engine σ) : Prop :=
  e'.events = e.events ∧ e'.bindings = e.bindings

/-- Who looks at the token neither sends nor binds, -/
theorem checkToken_frame : e.SentAndBoundAs (Run.checkToken e).2 := by
  unfold Run.checkToken
  dsimp only
  split <;> exact ⟨rfl, rfl⟩

/-- and neither does who asks. -/
theorem ask_frame (request : Request) (question : Ask σ α) :
    e.SentAndBoundAs (Run.ask request question e).2 := by
  unfold Run.ask
  dsimp only
  split
  · exact ⟨rfl, rfl⟩
  · split
    · exact ⟨rfl, rfl⟩
    · exact ⟨rfl, rfl⟩
    · split <;> exact ⟨rfl, rfl⟩

/-- Looking a function up changes the registry alone. -/
theorem lookupFunction_apply (role : Role) : Run.lookupFunction role e =
    (.ok (e.registry.lookupFunction role).1,
      { e with registry := (e.registry.lookupFunction role).2 }) := by
  unfold Run.lookupFunction
  generalize e.registry.lookupFunction role = found
  rfl

/-- Resolving a target name changes the registry alone. -/
theorem resolve_apply (name : String) : Run.resolve name e =
    (.ok (e.registry.resolve name).1, { e with registry := (e.registry.resolve name).2 }) := by
  unfold Run.resolve
  generalize e.registry.resolve name = found
  rfl

/-- A question is put at most once. -/
theorem ask_journal (request : Request) (question : Ask σ α) :
    ∃ asked, (Run.ask request question e).2.journal = e.journal ++ asked ∧
      ∀ x ∈ asked, x.request = request := by
  unfold Run.ask
  dsimp only
  split
  · exact ⟨[], by simp [Engine.catchUp], by simp⟩
  · let x : Exchange := ⟨request, e.catchUp.world.cancelled,
      (question e.catchUp.world).1.outline, (question e.catchUp.world).2.cancelled⟩
    have once : ∀ y ∈ [x], y.request = request := fun y hy => by rw [List.mem_singleton.1 hy]
    split
    · exact ⟨[x], rfl, once⟩
    · exact ⟨[x], rfl, once⟩
    · split <;> exact ⟨[x], rfl, once⟩

/-- A law that lets the world, the registry and the journal change as they may admits
all primitives, if it admits chunks. -/
theorem Law.admits_of_frame {L : Law σ}
    (h : ∀ e b e', Engine.SentAndBoundAs e e' → L.holds e b e')
    (chunk : ∀ number text, Run.Obeys L (Run.send (.chunk number text))) :
    L.Admits fun _ => True where
  checkToken e := h e _ _ (checkToken_frame e)
  ask question _ e := h e _ _ (ask_frame e _ question)
  lookupFunction role e := by
    rw [Run.ObeysFrom, lookupFunction_apply]
    exact h e _ _ ⟨rfl, rfl⟩
  resolve name e := by
    rw [Run.ObeysFrom, resolve_apply]
    exact h e _ _ ⟨rfl, rfl⟩
  chunk := chunk

end Frames

/-! ### What binding gives -/

section Binding

variable {σ : Type}

/-- What binding a template for a tool may give: parameters that meet the tool's
contract, namely the template filled in or a generator's. -/
structure BoundFor (s : Setting) (tool : Tool σ) (template : Option String) (b : Bindings)
    (parameters : Option String) : Prop where
  checked : tool.contract.check s.dialect parameters = .ok ()
  source : parameters = template.map (Placeholder.substitute s.rules b) ∨
    ∃ o, generatedParameters? o = parameters

/-- Parameters that are accepted pass the check, and the reply gives them. -/
theorem acceptGenerated_eq_bound {dialect : Schema.Dialect} {name : String} {c : Contract}
    {o : FunctionOutput} {parameters : Option String}
    (h : acceptGenerated dialect name c o = .bound parameters) :
    c.check dialect parameters = .ok () ∧ generatedParameters? o = parameters := by
  unfold acceptGenerated at h
  cases hg : generatedParameters? o with
  | none =>
    rw [hg] at h
    split at h <;> cases h
  | some text =>
    rw [hg] at h
    cases hc : c.check dialect (some text) with
    | error reason =>
      simp only [hc] at h
      split at h <;> cases h
    | ok u =>
      simp only [hc] at h
      split at h
      · cases h
      · cases h
        exact ⟨hc, rfl⟩

/-- So do parameters that are generated, -/
theorem generateParameters_eq_bound {s : Setting} {tool : Tool σ} {description : String}
    {reason : ParameterFault} {e e' : Engine σ} {parameters : Option String}
    (h : generateParameters s tool description reason e = (.ok (.bound parameters), e')) :
    tool.contract.check s.dialect parameters = .ok () ∧
      ∃ o, generatedParameters? o = parameters := by
  obtain ⟨f?, e₁, -, h⟩ := Run.bind_eq_ok.1 h
  cases f? with
  | none => cases h
  | some generator =>
    obtain ⟨_, e₂, -, h⟩ := Run.bind_eq_ok.1 h
    obtain ⟨answer, e₃, -, h⟩ := Run.bind_eq_ok.1 h
    cases answer with
    | error f => cases h
    | ok o =>
      obtain ⟨hc, hg⟩ := acceptGenerated_eq_bound (Except.ok.inj (Prod.mk.inj h).1)
      exact ⟨hc, o, hg⟩

/-- What a tool's contract accepts is bound. -/
theorem bindParameters_of_ok {s : Setting} {tool : Tool σ} {template : Option String}
    {e : Engine σ} (description : String)
    (h : tool.contract.check s.dialect
      (template.map (Placeholder.substitute s.rules e.bindings)) = .ok ()) :
    bindParameters s (some tool) template description e =
      (.ok (.bound (template.map (Placeholder.substitute s.rules e.bindings))), e) := by
  rw [bindParameters, Run.bind_apply, Run.get]
  simp only [h]
  rfl

/-- For anything else the generator is asked. -/
theorem bindParameters_of_error {s : Setting} {tool : Tool σ} {template : Option String}
    {e : Engine σ} {reason : ParameterFault} (description : String)
    (h : tool.contract.check s.dialect (template.map (Placeholder.substitute s.rules e.bindings)) =
      .error reason) :
    bindParameters s (some tool) template description e =
      generateParameters s tool description reason e := by
  rw [bindParameters, Run.bind_apply, Run.get]
  simp only [h]

/-- and parameters that are bound are the template's or generated ones. -/
theorem bindParameters_eq_bound {s : Setting} {tool : Tool σ} {template : Option String}
    {description : String} {e e' : Engine σ} {parameters : Option String}
    (h : bindParameters s (some tool) template description e = (.ok (.bound parameters), e')) :
    BoundFor s tool template e.bindings parameters := by
  cases hc : tool.contract.check s.dialect
      (template.map (Placeholder.substitute s.rules e.bindings)) with
  | ok u =>
    rw [bindParameters_of_ok description hc] at h
    cases h
    exact ⟨hc, .inl rfl⟩
  | error reason =>
    rw [bindParameters_of_error description hc] at h
    obtain ⟨hc, hg⟩ := generateParameters_eq_bound h
    exact ⟨hc, .inr hg⟩

/-- A resolution gives what the registry does, and binds nothing. -/
theorem resolve_eq_ok {name : String} {e e' : Engine σ} {target? : Option (Target σ)}
    (h : Run.resolve name e = (.ok target?, e')) :
    (e.registry.resolve name).1 = target? ∧ e'.bindings = e.bindings := by
  rw [resolve_apply] at h
  obtain ⟨ht, rfl⟩ := Prod.mk.inj h
  exact ⟨Except.ok.inj ht, rfl⟩

end Binding

/-! ### Steps -/

section Steps

variable {σ : Type} {L : Law σ} {ok : Request → Prop} {number : Nat}

/-- Whoever may ask the generator may have parameters generated, -/
theorem generateParameters_obeys (A : L.AdmitsStep ok number) (s : Setting) (tool : Tool σ)
    (description : String) (reason : ParameterFault)
    (h : ∀ i, ok (.execute .parameterGenerator i)) :
    Run.Obeys L (generateParameters s tool description reason) := by
  refine (A.lookupFunction _).bind fun f? => ?_
  cases f? with
  | none => exact .pure _
  | some generator =>
    refine Run.Obeys.get.bind fun e => (A.ask _ (h _)).bind fun answer => ?_
    cases answer <;> exact .pure _

/-- and have them bound, -/
theorem bindParameters_obeys (A : L.AdmitsStep ok number) (s : Setting) (tool? : Option (Tool σ))
    (template : Option String) (description : String)
    (h : ∀ i, tool?.isSome = true → ok (.execute .parameterGenerator i)) :
    Run.Obeys L (bindParameters s tool? template description) := by
  refine Run.Obeys.get.bind fun e => ?_
  cases tool? with
  | none => exact .pure _
  | some tool =>
    dsimp only
    split
    · exact .pure _
    · exact generateParameters_obeys A s tool description _ fun i => h i rfl

/-- whoever may ask the tool may run it, -/
theorem runTool_obeys (A : L.AdmitsStep ok number) (step : Step) (parameters : Option String)
    (tool : Tool σ) (h : ok (.tool tool.name (toolInput parameters))) :
    Run.Obeys L (runTool step parameters tool) := by
  refine (A.ask _ h).bind fun answer => ?_
  cases answer <;> exact .pure _

/-- By induction on the feed: the end is one question more, and so is each chunk. -/
theorem readChunks_obeys {step : Step} (A : L.AdmitsStep ok step.stepNumber) (role : Role)
    (h : ok (.nextChunk role)) (feed : ChunkFeed σ) :
    ∀ (raw : String) (parsed : Option Json.Value),
      Run.Obeys L (readChunks step role feed raw parsed) := by
  induction feed with
  | done =>
    intro raw parsed
    exact (A.ask noChunkLeft h).bind fun _ => .pure _
  | item read rest ih =>
    intro raw parsed
    rw [readChunks]
    refine (A.ask read h).bind fun answer => ?_
    cases answer with
    | error f => exact .pure _
    | ok c =>
      dsimp only
      split
      · exact (A.chunk _).bind fun _ => ih _ _ _
      · exact ih _ _ _

/-- and whoever may call the role may run its function. -/
theorem runFunction_obeys {step : Step} (A : L.AdmitsStep ok step.stepNumber) (s : Setting)
    (parameters : Option String) (f : ModelFunction σ)
    (h : ∀ request : Request, request.role? = some f.role → ok request) :
    Run.Obeys L (runFunction s step parameters f) := by
  have streamed (i : Invocation) : Run.Obeys L (streamFunction step f i) := by
    refine (A.ask _ (h _ rfl)).bind fun answer => ?_
    cases answer with
    | error e => exact .pure _
    | ok feed => exact readChunks_obeys A f.role (h _ rfl) feed _ _
  have whole (i : Invocation) : Run.Obeys L (executeFunction f i) := by
    refine (A.ask _ (h _ rfl)).bind fun answer => ?_
    cases answer <;> exact .pure _
  unfold runFunction
  dsimp only
  split
  · exact (streamed _).bind fun _ => .pure _
  · exact (whole _).bind fun _ => .pure _

/-- What a step may ask when it starts from the engine `e`: of the tool that its target
resolves to, of the parameter generator for it, and of the function that its target
resolves to. -/
inductive StepAsks (s : Setting) (step : Step) (e : Engine σ) : Request → Prop
  | tool {t : Tool σ} {parameters : Option String} :
      (e.registry.resolve step.targetName).1 = some (.tool t) →
      BoundFor s t step.rawParameters e.bindings parameters →
      StepAsks s step e (.tool t.name (toolInput parameters))
  | generator {t : Tool σ} (i : Invocation) :
      (e.registry.resolve step.targetName).1 = some (.tool t) →
      StepAsks s step e (.execute .parameterGenerator i)
  | function {f : ModelFunction σ} {request : Request} :
      (e.registry.resolve step.targetName).1 = some (.function f) →
      request.role? = some f.role → StepAsks s step e request

/-- **A law kept by the primitives is kept by a step,** if it has no objection to what
the step may ask. -/
theorem runStep_obeysFrom {step : Step} (A : L.AdmitsStep ok step.stepNumber) (s : Setting)
    {e : Engine σ} (h : ∀ request, StepAsks s step e request → ok request) :
    Run.ObeysFrom L (runStep s step) e := by
  have untimed : Run.ObeysFrom L (runStepUntimed s step) e := by
    refine (A.resolve _ e).bind fun target? e₁ hr => ?_
    obtain ⟨htarget, hbindings⟩ := resolve_eq_ok hr
    cases target? with
    | none => exact L.refl e₁
    | some target =>
      have hgenerator : ∀ i, target.tool?.isSome = true → ok (.execute .parameterGenerator i) := by
        intro i htool
        cases target with
        | tool t => exact h _ (.generator i htarget)
        | function f => cases htool
      refine (bindParameters_obeys A s _ _ _ hgenerator e₁).bind fun outcome e₂ hb => ?_
      cases outcome with
      | failed error => exact L.refl e₂
      | bound parameters =>
        refine Run.Obeys.bind ?_ (fun _ => .pure _) e₂
        cases target with
        | function f =>
          exact runFunction_obeys A s parameters f fun _ hr => h _ (.function htarget hr)
        | tool t =>
          have hbound := bindParameters_eq_bound hb
          rw [hbindings] at hbound
          exact runTool_obeys A step parameters t (h _ (.tool htarget hbound))
  exact (Run.Obeys.now e).bind fun _ _ hnow => by
    cases hnow
    exact untimed.bind fun _ e₂ _ => Run.Obeys.now.bind (fun _ => .pure _) e₂

/-- A law that admits every question is kept by every step. -/
theorem runStep_obeys (A : L.Admits ok) (s : Setting) (step : Step)
    (h : ∀ request, ok request) : Run.Obeys L (runStep s step) := fun _ =>
  runStep_obeysFrom (A.step _) s fun _ _ => h _

/-- Whatever a run asks is allowed. -/
def askedLaw (ok : Request → Prop) : Law σ where
  holds e _ e' := ∃ asked, e'.journal = e.journal ++ asked ∧ ∀ x ∈ asked, ok x.request
  refl e := ⟨[], by simp, by simp⟩
  trans := by
    rintro e₁ e₂ e₃ b ⟨asked, hj, ha⟩ ⟨asked', hj', ha'⟩
    refine ⟨asked ++ asked', by rw [hj', hj, List.append_assoc], fun x hx => ?_⟩
    exact (List.mem_append.1 hx).elim (ha x) (ha' x)

/-- To ask only what is allowed is a law that admits what is allowed. -/
theorem askedLaw_admits {ok : Request → Prop} : (askedLaw (σ := σ) ok).Admits ok where
  checkToken e := by
    unfold Run.ObeysFrom Run.checkToken
    dsimp only
    split <;> exact ⟨[], by simp [Engine.catchUp], by simp⟩
  ask question hok e := by
    obtain ⟨asked, hj, ha⟩ := ask_journal e _ question
    exact ⟨asked, hj, fun x hx => by rwa [ha x hx]⟩
  lookupFunction role e := by
    rw [Run.ObeysFrom, lookupFunction_apply]
    exact ⟨[], (List.append_nil _).symm, by simp⟩
  resolve name e := by
    rw [Run.ObeysFrom, resolve_apply]
    exact ⟨[], (List.append_nil _).symm, by simp⟩
  chunk _ _ e := ⟨[], (List.append_nil _).symm, by simp⟩

/-- **A step asks what it may ask** and nothing else. -/
theorem runStep_asks (s : Setting) (step : Step) (e : Engine σ) :
    ∃ asked, (runStep s step e).2.journal = e.journal ++ asked ∧
      ∀ x ∈ asked, StepAsks s step e x.request :=
  runStep_obeysFrom (askedLaw_admits.step _) s fun _ h => h

end Steps

end Errand

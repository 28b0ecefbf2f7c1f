/-
# Calls of roles

Who does which job is settled before a run.  Look-ups count uses, and nothing else happens
to the registry, so what is registered stays the same throughout (`registryLaw`), and a
role is called in vain at the end of a run exactly if it would have been at its start.

A call of a role that came through put one question, to that role, if somebody is
registered for it, and otherwise none (`callRole_eq_ok`).  `Engine.Asked` says what was
asked between two engines.
-/

import Errand.Proofs.Run.Completion

namespace Errand

variable {σ : Type}

namespace Registry

variable {r r' r'' : Registry σ}

/-- The same tools and functions are registered, however often they were looked up. -/
structure SameItems (r r' : Registry σ) : Prop where
  tools : r'.tools.map (·.item) = r.tools.map (·.item)
  functions : r'.functions.map (·.item) = r.functions.map (·.item)

theorem SameItems.refl (r : Registry σ) : SameItems r r := ⟨rfl, rfl⟩

theorem SameItems.trans (h : SameItems r r') (h' : SameItems r' r'') : SameItems r r'' :=
  ⟨h'.tools.trans h.tools, h'.functions.trans h.functions⟩

/-- To count a use changes no item, -/
theorem map_item_countUse {α : Type} (same : α → Bool) (entries : List (Entry α)) :
    (countUse same entries).map (·.item) = entries.map (·.item) := by
  induction entries with
  | nil => rfl
  | cons x rest ih =>
    rw [countUse]
    split
    · rfl
    · rw [List.map_cons, List.map_cons, ih]

/-- and items may be searched for without their counts. -/
theorem map_item_find? {α : Type} (same : α → Bool) (entries : List (Entry α)) :
    (entries.find? fun x => same x.item).map (·.item) = (entries.map (·.item)).find? same := by
  rw [List.find?_map]
  rfl

/-- Who has the same items finds the same functions. -/
theorem SameItems.findFunction? (h : SameItems r r') (role : Role) :
    r'.findFunction? role = r.findFunction? role := by
  have hfind (q : Registry σ) : q.findFunction? role =
      (q.functions.map (·.item)).find? (·.role == role) :=
    map_item_find? (fun f : ModelFunction σ => f.role == role) q.functions
  rw [hfind, hfind, h.functions]

/-- and the same tools. -/
theorem SameItems.findTool? (h : SameItems r r') (name : String) :
    r'.findTool? name = r.findTool? name := by
  have hfind (q : Registry σ) : q.findTool? name =
      ((q.tools.map (·.item)).find? (·.name == name)).or
        ((q.tools.map (·.item)).find? fun t => Text.equalIgnoringCase t.name name) := by
    rw [Registry.findTool?, Option.map_or, ← map_item_find?, ← map_item_find?]
  rw [hfind, hfind, h.tools]

/-- A lookup finds the function that a search finds, -/
theorem lookupFunction_fst (r : Registry σ) (role : Role) :
    (r.lookupFunction role).1 = r.findFunction? role := by
  unfold lookupFunction
  split <;> simp [*]

/-- or the tool, -/
theorem lookupTool_fst (r : Registry σ) (name : String) :
    (r.lookupTool name).1 = r.findTool? name := by
  unfold lookupTool
  split <;> simp [*]

/-- and leaves the items as they are, -/
theorem sameItems_lookupFunction (r : Registry σ) (role : Role) :
    SameItems r (r.lookupFunction role).2 := by
  unfold lookupFunction
  split
  · exact ⟨rfl, map_item_countUse _ _⟩
  · exact .refl r

/-- whichever is looked up, -/
theorem sameItems_lookupTool (r : Registry σ) (name : String) :
    SameItems r (r.lookupTool name).2 := by
  unfold lookupTool
  split
  · exact ⟨map_item_countUse _ _, rfl⟩
  · exact .refl r

/-- and so does a resolution. -/
theorem sameItems_resolve (r : Registry σ) (name : String) : SameItems r (r.resolve name).2 := by
  unfold resolve
  split
  · exact .refl r
  · next name _ =>
    have htool := sameItems_lookupTool r name
    split
    · next r₁ heq =>
      rw [heq] at htool
      exact htool
    · next r₁ heq =>
      rw [heq] at htool
      split
      · exact htool
      · next role _ =>
        have hfunction := sameItems_lookupFunction r₁ role
        split <;> next heq' =>
          rw [heq'] at hfunction
          exact htool.trans hfunction

/-- A target name resolves to a tool, if one has the name, else to a function. -/
theorem resolve_fst (r : Registry σ) (name : String) :
    (r.resolve name).1 = (Text.trimmed? name).bind fun name =>
      ((r.findTool? name).map .tool).or
        (((Role.ofName? name).bind r.findFunction?).map .function) := by
  unfold resolve
  split
  · next heq => rw [heq]; rfl
  · next name heq =>
    rw [heq, Option.bind_some]
    have htool := lookupTool_fst r name
    have hsame := sameItems_lookupTool r name
    split
    · next heq' =>
      rw [heq'] at htool
      rw [← htool]
      rfl
    · next r₁ heq' =>
      rw [heq'] at htool hsame
      rw [← htool, Option.map_none, Option.none_or]
      split
      · next hrole => rw [hrole]; rfl
      · next role hrole =>
        have hfunction := lookupFunction_fst r₁ role
        rw [hsame.findFunction?] at hfunction
        rw [hrole, Option.bind_some, ← hfunction]
        split <;> next heq'' => rw [heq'']; rfl

/-- **Targets resolve to the same throughout.** -/
theorem SameItems.resolve_fst (h : SameItems r r') (name : String) :
    (r'.resolve name).1 = (r.resolve name).1 := by
  have hfunctions : r'.findFunction? = r.findFunction? := funext h.findFunction?
  have htools : r'.findTool? = r.findTool? := funext h.findTool?
  rw [Registry.resolve_fst, Registry.resolve_fst, htools, hfunctions]

/-- The catalog lists what is registered. -/
theorem SameItems.catalog (h : SameItems r r') : r'.catalog = r.catalog := by
  have htools (q : Registry σ) : (q.tools.map fun x => (⟨x.item.name, x.item.category,
      x.item.contract.description⟩ : ToolSummary)) = (q.tools.map (·.item)).map fun t =>
        ⟨t.name, t.category, t.contract.description⟩ := by
    rw [List.map_map]
    rfl
  have hfunctions : r'.findFunction? = r.findFunction? := funext h.findFunction?
  rw [Registry.catalog, Registry.catalog, Registry.roles, Registry.roles, htools, htools, h.tools,
    hfunctions]

/-- What a call of a role asks: the function that is registered for it, if there is one. -/
def roleRequests (r : Registry σ) (role : Role) (i : Invocation) : List Request :=
  if (r.findFunction? role).isSome then [.execute role i] else []

end Registry

/-! ### The registry during a run -/

/-- Runs leave what is registered as it is. -/
def registryLaw (σ : Type) : Law σ where
  holds e _ e' := e.registry.SameItems e'.registry
  refl e := .refl e.registry
  trans := Registry.SameItems.trans

/-- Whoever asks leaves the items as they are, -/
theorem registryLaw_ask {α : Type} (request : Request) (question : Ask σ α) :
    Run.Obeys (registryLaw σ) (Run.ask request question) := by
  intro e
  unfold Run.ObeysFrom Run.ask
  dsimp only
  split
  · exact .refl e.registry
  · split
    · exact .refl e.registry
    · exact .refl e.registry
    · split <;> exact .refl e.registry

/-- and so does every run. -/
theorem registryLaw_admitsRuns : (registryLaw σ).AdmitsRuns where
  checkToken e := by
    unfold Run.ObeysFrom Run.checkToken
    dsimp only
    split <;> exact .refl e.registry
  ask question _ := registryLaw_ask _ question
  lookupFunction role e := by
    rw [Run.ObeysFrom, lookupFunction_apply]
    exact e.registry.sameItems_lookupFunction role
  resolve name e := by
    rw [Run.ObeysFrom, resolve_apply]
    exact e.registry.sameItems_resolve name
  chunk _ _ e := .refl e.registry
  send _ _ e := .refl e.registry
  completion {r variableName} _ e := by
    have hsend : Run.Obeys (registryLaw σ) (Run.send (.stepCompleted r)) := fun e =>
      Registry.SameItems.refl e.registry
    have hbind : Run.Obeys (registryLaw σ) (bindOutput variableName r.output) := by
      intro e
      cases variableName <;> exact Registry.SameItems.refl e.registry
    refine Run.Obeys.bind hsend (fun _ => ?_) e
    split
    · exact hbind
    · exact .pure ()

theorem Run.Obeys.sameItems {α : Type} {m : Run σ α} (h : Run.Obeys (registryLaw σ) m)
    {e e' : Engine σ} {x : Except Cancelled α} (hm : m e = (x, e')) :
    e.registry.SameItems e'.registry := by
  have := h e
  rw [Run.ObeysFrom, hm] at this
  exact this

/-! ### Calls that came through -/

/-- These requests were put between two engines, in this order, and no others. -/
def Engine.Asked (e : Engine σ) (requests : List Request) (e' : Engine σ) : Prop :=
  ∃ asked, e'.journal = e.journal ++ asked ∧ asked.map (·.request) = requests

namespace Engine.Asked

variable {e e₁ e' : Engine σ} {requests requests' : List Request}

/-- Who leaves the journal alone asks nothing, -/
theorem nil (h : e'.journal = e.journal) : e.Asked [] e' := ⟨[], by rw [h, List.append_nil], rfl⟩

/-- and the questions of two parts come one after another. -/
theorem trans (h : e.Asked requests e₁) (h' : e₁.Asked requests' e') :
    e.Asked (requests ++ requests') e' := by
  obtain ⟨asked, hj, rfl⟩ := h
  obtain ⟨asked', hj', rfl⟩ := h'
  exact ⟨asked ++ asked', by rw [hj', hj, List.append_assoc], List.map_append⟩

end Engine.Asked

/-- Nobody is asked for a look at the token. -/
theorem checkToken_asked {e e' : Engine σ} {x : Except Cancelled Unit}
    (h : Run.checkToken e = (x, e')) : e.Asked [] e' := by
  unfold Run.checkToken at h
  dsimp only at h
  split at h <;> cases h <;> exact .nil rfl

/-- or for an event that is sent. -/
theorem send_asked {ev : Event} {e e' : Engine σ} {x : Except Cancelled Unit}
    (h : Run.send ev e = (x, e')) : e.Asked [] e' := by
  cases h
  exact .nil rfl

/-- A completion asks nothing. -/
theorem completion_asked {variableName : Option String} {x : StepResult} {e e' : Engine σ}
    {u : Unit} (h : completion variableName x e = (.ok u, e')) : e.Asked [] e' := by
  cases hx : x.isSuccess with
  | false =>
    rw [completion_of_failure hx] at h
    exact send_asked h
  | true =>
    rw [completion_of_success hx] at h
    obtain ⟨_, e₁, hsend, h⟩ := Run.bind_eq_ok.1 h
    have hbound : e₁.Asked [] e' := by
      cases variableName <;> cases h <;> exact .nil rfl
    exact (send_asked hsend).trans hbound

/-- A question that did not stop the run was put. -/
theorem ask_asked {α : Type} {request : Request} {question : Ask σ α} {e e' : Engine σ}
    {answer : Except Fault α} (h : Run.ask request question e = (.ok answer, e')) :
    e.Asked [request] e' := by
  unfold Run.ask at h
  dsimp only at h
  split at h
  · cases h
  · split at h
    · cases h
      exact ⟨_, rfl, rfl⟩
    · cases h
    · split at h
      · cases h
      · cases h
        exact ⟨_, rfl, rfl⟩

/-- A role was called and there was a reply.  The role is missing exactly if nobody is
registered for it; otherwise whoever is was asked, once. -/
structure CalledRole (r : Registry σ) (role : Role) (i : Invocation) (e : Engine σ)
    (reply : RoleReply) (e' : Engine σ) : Prop where
  call : callRole role i e = (.ok reply, e')
  missing : reply = .missing ↔ r.findFunction? role = none
  asked : e.Asked (r.roleRequests role i) e'

/-- **A call of a role that came through.** -/
theorem callRole_eq_ok {role : Role} {i : Invocation} {r : Registry σ} {e e' : Engine σ}
    {reply : RoleReply} (hr : r.SameItems e.registry)
    (h : callRole role i e = (.ok reply, e')) : CalledRole r role i e reply e' := by
  have hcall := h
  obtain ⟨f?, e₁, hlookup, h⟩ := Run.bind_eq_ok.1 h
  rw [lookupFunction_apply] at hlookup
  obtain ⟨hfound, rfl⟩ := Prod.mk.inj hlookup
  rw [Except.ok.injEq, Registry.lookupFunction_fst, hr.findFunction?] at hfound
  cases f? with
  | none =>
    cases h
    have hrequests : r.roleRequests role i = [] := by rw [Registry.roleRequests, hfound]; rfl
    exact ⟨hcall, by simp [hfound], hrequests ▸ .nil rfl⟩
  | some f =>
    obtain ⟨answer, e₂, hask, h⟩ := Run.bind_eq_ok.1 h
    have hrequests : r.roleRequests role i = [.execute role i] := by
      rw [Registry.roleRequests, hfound]
      rfl
    -- The look-up left the journal as it was.
    have hasked : e.Asked [.execute role i] e₂ := by
      have hlooked := ask_asked hask
      exact hlooked
    have hreply : reply ≠ .missing ∧ e₂ = e' := by
      cases answer with
      | error g =>
        cases h
        exact ⟨by simp, rfl⟩
      | ok o =>
        cases h
        refine ⟨?_, rfl⟩
        unfold RoleReply.ofOutput
        split <;> simp
    obtain ⟨hne, rfl⟩ := hreply
    exact ⟨hcall, by simp [hne, hfound], hrequests ▸ hasked⟩

end Errand

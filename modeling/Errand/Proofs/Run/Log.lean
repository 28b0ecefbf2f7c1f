/-
# The log of a run

What a run lets others know are the events it sends and the questions it asks.  Each is
kept in a list of its own, and neither list says how the two went together.  A log does:
it holds the events and the requests of a run in one sequence (`Engine.Noted`).

`Run.Logs r m G` says of every run of `m` with the items of `r` registered that it has a
log that fits `G`.  A run that was stopped does not have a whole log, but the start of
one: there are something it could have given and something more to log that fit `G`
together.  Like this the rule for two runs after one another (`Run.Logs.bind`) covers
those that are stopped in the first or in the second, and a statement about the logs of a
whole run has in it what holds however early the run was cancelled.
-/

import Errand.Proofs.Run.RoleCalls

namespace Errand

variable {σ : Type}

/-- What a run lets others know: an event, or a question. -/
inductive Note where
  | told (ev : Event)
  | asked (request : Request)

/-- The event of a note. -/
def Note.event? : Note → Option Event
  | .told ev => some ev
  | .asked _ => none

/-- The request of a note. -/
def Note.request? : Note → Option Request
  | .told _ => none
  | .asked request => some request

/-- The notes of a run, in order. -/
abbrev Log := List Note

namespace Log

/-- The events of a log. -/
def events (log : Log) : List Event := log.filterMap Note.event?

/-- The requests of a log. -/
def requests (log : Log) : List Request := log.filterMap Note.request?

@[simp] theorem events_append (l l' : Log) : Log.events (l ++ l') = l.events ++ l'.events :=
  List.filterMap_append

@[simp] theorem events_cons_told (ev : Event) (l : Log) :
    Log.events (.told ev :: l) = ev :: l.events := rfl

@[simp] theorem events_nil : Log.events [] = [] := rfl

/-- The requests of two logs come one after another. -/
theorem requests_append (l l' : Log) : Log.requests (l ++ l') = l.requests ++ l'.requests :=
  List.filterMap_append

/-- The log of some requests has them and no event. -/
theorem requests_map_asked (requests : List Request) :
    Log.requests (requests.map .asked) = requests := by
  rw [Log.requests, List.filterMap_map]
  exact List.filterMap_some

/-- Requests are no events. -/
@[simp] theorem events_map_asked (requests : List Request) :
    Log.events (requests.map .asked) = [] := by
  rw [Log.events, List.filterMap_map]
  exact List.filterMap_eq_nil_iff.2 fun _ _ => rfl

end Log

/-- The log is what there is to know of what happened between two engines. -/
structure Engine.Noted (e : Engine σ) (log : Log) (e' : Engine σ) : Prop where
  events : e'.events = e.events ++ log.events
  requests : e.Asked log.requests e'

namespace Engine.Noted

variable {e e₁ e' : Engine σ} {log log' : Log}

/-- Who neither tells nor asks notes nothing, -/
theorem nil (hevents : e'.events = e.events) (hjournal : e'.journal = e.journal) :
    e.Noted [] e' :=
  ⟨by rw [hevents, Log.events_nil, List.append_nil], .nil hjournal⟩

/-- and notes of two parts come one after another. -/
theorem trans (h : e.Noted log e₁) (h' : e₁.Noted log' e') : e.Noted (log ++ log') e' := by
  refine ⟨?_, ?_⟩
  · rw [h'.events, h.events, Log.events_append, List.append_assoc]
  · rw [Log.requests_append]
    exact h.requests.trans h'.requests

end Engine.Noted

/-! ### Logs of runs -/

/-- A log that fits what a run came to.  Where the run was stopped, it is the start of one
that fits. -/
def Run.Fits {α : Type} (G : α → Log → Prop) (log : Log) : Except Cancelled α → Prop
  | .ok a => G a log
  | .error _ => ∃ a rest, G a (log ++ rest)

/-- Every run that starts with these items registered has a log that fits. -/
def Run.Logs {α : Type} (r : Registry σ) (m : Run σ α) (G : α → Log → Prop) : Prop :=
  ∀ e, r.SameItems e.registry → ∃ log, e.Noted log (m e).2 ∧ Run.Fits G log (m e).1 ∧
    r.SameItems (m e).2.registry

namespace Run

variable {α β : Type} {r : Registry σ}

/-- What fits closely fits loosely. -/
theorem Fits.mono {G K : α → Log → Prop} (h : ∀ a l, G a l → K a l) {log : Log}
    {x : Except Cancelled α} (hx : Fits G log x) : Fits K log x := by
  cases x with
  | ok a => exact h a log hx
  | error c =>
    obtain ⟨a, rest, hG⟩ := hx
    exact ⟨a, rest, h a _ hG⟩

/-- Whatever a run came to, its log is the start of one that fits. -/
theorem Fits.exists_append {G : α → Log → Prop} {log : Log} {x : Except Cancelled α}
    (hx : Fits G log x) : ∃ a rest, G a (log ++ rest) := by
  cases x with
  | ok a => exact ⟨a, [], by rwa [List.append_nil]⟩
  | error c => exact hx

/-- What has been noted before may be put in front. -/
theorem Fits.append {K : α → Log → Prop} {log log' : Log} {x : Except Cancelled α}
    (hx : Fits (fun a l => K a (log ++ l)) log' x) : Fits K (log ++ log') x := by
  cases x with
  | ok a => exact hx
  | error c =>
    obtain ⟨a, rest, hK⟩ := hx
    exact ⟨a, rest, by rwa [List.append_assoc]⟩

/-- What is logged closely is logged loosely. -/
theorem Logs.mono {m : Run σ α} {G K : α → Log → Prop} (hm : Logs r m G)
    (h : ∀ a l, G a l → K a l) : Logs r m K := by
  intro e hr
  obtain ⟨log, hnoted, hfits, hsame⟩ := hm e hr
  exact ⟨log, hnoted, hfits.mono h, hsame⟩

/-- Who does nothing logs nothing, -/
theorem Logs.pure {a : α} {G : α → Log → Prop} (h : G a []) : Logs r (pure a) G :=
  fun _ hr => ⟨[], .nil rfl rfl, h, hr⟩

/-- **Two runs after one another.**  If the first is stopped, its log goes on to one of
something that it could have given, and from there to one of the second. -/
theorem Logs.bind {m : Run σ α} {f : α → Run σ β} {G : α → Log → Prop} {K : β → Log → Prop}
    (hm : Logs r m G) (hf : ∀ a l, G a l → Logs r (f a) fun b l' => K b (l ++ l')) :
    Logs r (m >>= f) K := by
  intro e hr
  obtain ⟨log, hnoted, hfits, hsame⟩ := hm e hr
  rw [bind_apply]
  rcases hme : m e with ⟨c | a, e₁⟩ <;> rw [hme] at hnoted hfits hsame
  · obtain ⟨a, rest, hG⟩ := hfits
    obtain ⟨log', -, hfits', -⟩ := hf a _ hG e hr
    obtain ⟨b, rest', hK⟩ := hfits'.exists_append
    exact ⟨log, hnoted, ⟨b, rest ++ (log' ++ rest'), by rwa [← List.append_assoc]⟩, hsame⟩
  · obtain ⟨log', hnoted', hfits', hsame'⟩ := hf a log hfits e₁ hsame
    exact ⟨log ++ log', hnoted.trans hnoted', hfits'.append, hsame'⟩

/-- A result that is read off adds nothing to the log. -/
theorem Logs.bind_pure {m : Run σ α} {f : α → β} {G : α → Log → Prop} {K : β → Log → Prop}
    (hm : Logs r m G) (h : ∀ a l, G a l → K (f a) l) : Logs r (do return f (← m)) K :=
  hm.bind fun a l hl => .pure (by rw [List.append_nil]; exact h a l hl)

end Run

/-! ### The logs of the primitives -/

section Primitives

variable {α : Type} (r : Registry σ)

/-- and neither does who looks at the engine. -/
theorem get_logs : Run.Logs r Run.get fun _ l => l = [] :=
  fun _ hr => ⟨[], .nil rfl rfl, rfl, hr⟩

/-- or at the clock. -/
theorem now_logs : Run.Logs r Run.now fun _ l => l = [] :=
  fun _ hr => ⟨[], .nil rfl rfl, rfl, hr⟩

/-- Changes that tell nobody leave no note. -/
theorem modify_logs {f : Engine σ → Engine σ} (hevents : ∀ e, (f e).events = e.events)
    (hjournal : ∀ e, (f e).journal = e.journal) (hregistry : ∀ e, (f e).registry = e.registry) :
    Run.Logs r (Run.modify f) fun _ l => l = [] :=
  fun e hr => ⟨[], .nil (hevents e) (hjournal e), rfl, by
    show r.SameItems (f e).registry
    rwa [hregistry]⟩

/-- An event that is sent is logged. -/
theorem send_logs (ev : Event) : Run.Logs r (Run.send ev) fun _ l => l = [.told ev] :=
  fun _ hr => ⟨[.told ev], ⟨rfl, .nil rfl⟩, rfl, hr⟩

/-- A look at the token is not, -/
theorem checkToken_logs : Run.Logs r Run.checkToken fun _ l => l = [] := by
  intro e hr
  unfold Run.checkToken
  dsimp only
  split
  · exact ⟨[], .nil rfl rfl, ⟨(), [], rfl⟩, hr⟩
  · exact ⟨[], .nil rfl rfl, rfl, hr⟩

/-- A question is logged when it is put. -/
theorem ask_logs (request : Request) (question : Ask σ α) :
    Run.Logs r (Run.ask request question) fun _ l => l = [.asked request] := by
  intro e hr
  unfold Run.ask
  dsimp only
  have noted : ∀ {e' : Engine σ} {x : Exchange}, e'.events = e.events →
      e'.journal = e.journal ++ [x] → x.request = request → e.Noted [.asked request] e' :=
    fun hevents hjournal hx => ⟨by rw [hevents]; exact (List.append_nil _).symm,
      ⟨_, hjournal, by rw [List.map_singleton, hx]; rfl⟩⟩
  split
  · exact ⟨[], .nil rfl rfl, ⟨.error .cancelled, [.asked request], rfl⟩, hr⟩
  · split
    · exact ⟨_, noted rfl rfl rfl, rfl, hr⟩
    · exact ⟨_, noted rfl rfl rfl, ⟨.error .cancelled, [], rfl⟩, hr⟩
    · next f _ =>
      split
      · exact ⟨_, noted rfl rfl rfl, ⟨.error f, [], rfl⟩, hr⟩
      · exact ⟨_, noted rfl rfl rfl, rfl, hr⟩

/-- and neither is a search for a function, which finds the registry's, -/
theorem lookupFunction_logs (role : Role) :
    Run.Logs r (Run.lookupFunction role) fun f? l => f? = r.findFunction? role ∧ l = [] := by
  intro e hr
  rw [lookupFunction_apply]
  refine ⟨[], .nil rfl rfl, ⟨?_, rfl⟩, hr.trans (e.registry.sameItems_lookupFunction role)⟩
  rw [Registry.lookupFunction_fst, hr.findFunction?]

end Primitives

/-! ### The logs of what runs are made of -/

section Parts

variable (r : Registry σ)

/-- or a look at the catalog. -/
theorem catalogText_logs : Run.Logs r catalogText fun _ l => l = [] := by
  refine (get_logs r).bind fun _ l hl => .pure ?_
  rw [hl]
  rfl

/-- A completion is one event. -/
theorem completion_logs (variableName : Option String) (x : StepResult) :
    Run.Logs r (completion variableName x) fun _ l => l = [.told (.stepCompleted x)] := by
  have hbind : Run.Logs r (bindOutput variableName x.output) fun _ l => l = [] := by
    cases variableName with
    | none => exact .pure rfl
    | some name => exact modify_logs r (fun _ => rfl) (fun _ => rfl) fun _ => rfl
  refine (send_logs r _).bind fun _ l hl => ?_
  split
  · refine hbind.mono fun _ l' hl' => ?_
    rw [hl, hl']
    rfl
  · refine .pure ?_
    rw [hl]
    rfl

/-- **A call of a role is logged** if somebody is registered for it. -/
theorem callRole_logs (role : Role) (i : Invocation) :
    Run.Logs r (callRole role i) fun _ l => l = (r.roleRequests role i).map .asked := by
  refine (lookupFunction_logs r role).bind fun f? l hlookup => ?_
  obtain ⟨hfound, rfl⟩ := hlookup
  cases f? with
  | none =>
    refine .pure ?_
    rw [Registry.roleRequests, ← hfound]
    rfl
  | some f =>
    refine (ask_logs r _ _).bind fun answer l hl => ?_
    have hrequests : (r.roleRequests role i).map Note.asked = l := by
      rw [Registry.roleRequests, ← hfound, hl]
      rfl
    cases answer with
    | ok o => exact .pure (by rw [hrequests]; simp)
    | error g => exact .pure (by rw [hrequests]; simp)

/-- What a step may tell and ask, by what is registered. -/
inductive StepNote (r : Registry σ) (step : Step) : Note → Prop
  | chunk (text : String) : StepNote r step (.told (.chunk step.stepNumber text))
  | tool {t : Tool σ} (input : Json.Value) :
      (r.resolve step.targetName).1 = some (.tool t) →
      StepNote r step (.asked (.tool t.name input))
  | generator (i : Invocation) : StepNote r step (.asked (.execute .parameterGenerator i))
  | function {f : ModelFunction σ} {request : Request} :
      (r.resolve step.targetName).1 = some (.function f) → request.role? = some f.role →
      StepNote r step (.asked request)

/-- Whatever a run notes is allowed. -/
def notedLaw (ok : Note → Prop) : Law σ where
  holds e _ e' := ∃ log, e.Noted log e' ∧ ∀ n ∈ log, ok n
  refl e := ⟨[], .nil rfl rfl, by simp⟩
  trans := by
    rintro e₁ e₂ e₃ b ⟨log, h, hok⟩ ⟨log', h', hok'⟩
    refine ⟨log ++ log', h.trans h', fun n hn => ?_⟩
    exact (List.mem_append.1 hn).elim (hok n) (hok' n)

/-- To note only what is allowed is a law that admits steps whose chunks are allowed. -/
theorem notedLaw_admitsStep {ok : Note → Prop} {number : Nat}
    (hchunk : ∀ text, ok (.told (.chunk number text))) :
    (notedLaw (σ := σ) ok).AdmitsStep (fun request => ok (.asked request)) number where
  ask {_ request} question hok e := by
    obtain ⟨asked, hjournal, hrequest⟩ := ask_journal e request question
    have hevents := (ask_frame e request question).1
    refine ⟨(asked.map (·.request)).map .asked, ⟨?_, asked, hjournal, ?_⟩, fun n hn => ?_⟩
    · rw [hevents, Log.events_map_asked, List.append_nil]
    · rw [Log.requests_map_asked]
    · obtain ⟨q, hq, rfl⟩ := List.mem_map.1 hn
      obtain ⟨x, hx, rfl⟩ := List.mem_map.1 hq
      rwa [hrequest x hx]
  lookupFunction role e := by
    rw [Run.ObeysFrom, lookupFunction_apply]
    exact ⟨[], .nil rfl rfl, by simp⟩
  resolve name e := by
    rw [Run.ObeysFrom, resolve_apply]
    exact ⟨[], .nil rfl rfl, by simp⟩
  chunk text e := ⟨[.told (.chunk number text)], ⟨rfl, .nil rfl⟩, by simpa using hchunk text⟩

/-- **The log of a step** holds chunks of this step, and questions that the step may
put. -/
theorem runStep_logs (s : Setting) (step : Step) :
    Run.Logs r (runStep s step) fun x l => x.Reports step ∧ ∀ n ∈ l, StepNote r step n := by
  intro e hr
  have hasks : ∀ request, StepAsks s step e request → StepNote r step (.asked request) := by
    intro request h
    cases h with
    | tool htarget _ => exact .tool _ ((hr.resolve_fst _).symm.trans htarget)
    | generator i _ => exact .generator i
    | function htarget hf => exact .function ((hr.resolve_fst _).symm.trans htarget) hf
  obtain ⟨log, hnoted, hok⟩ :=
    runStep_obeysFrom (notedLaw_admitsStep fun text => StepNote.chunk text) s hasks
  have hsame : e.registry.SameItems (runStep s step e).2.registry :=
    step_obeys registryLaw_admitsRuns s step e
  refine ⟨log, hnoted, ?_, hr.trans hsame⟩
  rcases hx : (runStep s step e).1 with c | x
  · exact ⟨.failure step "", [], failure_reports step "", by rwa [List.append_nil]⟩
  · exact ⟨runStep_reports step s e x hx, hok⟩

end Parts
end Errand

/-
# The bindings of a run are told by its events

SPEC_FULL.md, section 4.4: what a step leaves is bound before the next step.

A run binds variables in one way only: a step that succeeded and names an output
variable has its output bound under it, as a text, the empty one if there is no
output.  Each completed step is told by an event, so the bindings in the end are those
at the start with the events replayed (`Bindings.replay`).  This is a law that the
primitives keep (`bindingLaw_admitsRuns`), so it holds wherever a run stops, also in
the middle of a step that is cancelled.
-/

import Errand.Proofs.Run.Completion
import Errand.Schema.Check

namespace Errand

/-- The bindings after the completion of a step. -/
def Bindings.complete (b : Bindings) (r : StepResult) : Bindings :=
  match r.isSuccess, r.outputVariable with
  | true, some name => b.set name (.string (r.output.getD ""))
  | _, _ => b

/-- The bindings after the completion of steps in order. -/
def Bindings.replay (b : Bindings) (rs : List StepResult) : Bindings := rs.foldl complete b

/-- Results may be replayed in two goes, -/
theorem Bindings.replay_append (b : Bindings) (rs rs' : List StepResult) :
    b.replay (rs ++ rs') = (b.replay rs).replay rs' := List.foldl_append

/-- and read off from events in two goes. -/
theorem completedSteps_append (evs evs' : List Event) :
    completedSteps (evs ++ evs') = completedSteps evs ++ completedSteps evs' :=
  List.filterMap_append

/-- An event that is no completion adds no completed step. -/
theorem completedSteps_of_not_isCompletion {ev : Event} (h : ev.isCompletion = false) :
    completedSteps [ev] = [] := by
  cases ev with
  | stepCompleted r => cases h
  | _ => rfl

section Law

variable {σ : Type}

/-- The bindings are those before, with the events since replayed. -/
def bindingLaw (σ : Type) : Law σ where
  holds e _ e' := ∃ sent, e'.events = e.events ++ sent ∧
    e'.bindings = e.bindings.replay (completedSteps sent)
  refl e := ⟨[], by simp, rfl⟩
  trans := by
    rintro e₁ e₂ e₃ b ⟨sent, hs, hb⟩ ⟨sent', hs', hb'⟩
    refine ⟨sent ++ sent', by rw [hs', hs, List.append_assoc], ?_⟩
    rw [hb', hb, completedSteps_append, Bindings.replay_append]

/-- Who neither sends nor binds keeps to the law, -/
theorem bindingLaw_of_frame (e : Engine σ) (b : Bool) (e' : Engine σ)
    (h : e.SentAndBoundAs e') : (bindingLaw σ).holds e b e' :=
  ⟨[], by rw [h.1, List.append_nil], h.2⟩

/-- and so does who sends what completes no step. -/
theorem bindingLaw_send {ev : Event} (h : ev.isCompletion = false) :
    Run.Obeys (bindingLaw σ) (Run.send ev) := fun _ =>
  ⟨[ev], rfl, by rw [completedSteps_of_not_isCompletion h]; rfl⟩

/-- **A completion is told by its event:** what it binds is what the event replays. -/
theorem bindingLaw_completion {r : StepResult} {variableName : Option String}
    (h : r.outputVariable = variableName) :
    Run.Obeys (bindingLaw σ) (completion variableName r) := by
  subst h
  intro e
  cases hr : r.isSuccess with
  | false =>
    rw [completion_of_failure hr]
    refine ⟨[.stepCompleted r], rfl, ?_⟩
    show e.bindings = e.bindings.complete r
    simp [Bindings.complete, hr]
  | true =>
    rw [completion_of_success hr]
    cases hv : r.outputVariable with
    | none =>
      refine ⟨[.stepCompleted r], rfl, ?_⟩
      show e.bindings = e.bindings.complete r
      simp [Bindings.complete, hr, hv]
    | some name =>
      refine ⟨[.stepCompleted r], rfl, ?_⟩
      show e.bindings.set name (.string (r.output.getD "")) = e.bindings.complete r
      simp [Bindings.complete, hr, hv]

/-- Every run keeps to the law: a step that completes is bound and then sent. -/
theorem bindingLaw_admitsRuns : (bindingLaw σ).AdmitsRuns where
  toAdmits := Law.admits_of_frame bindingLaw_of_frame fun _ _ => bindingLaw_send rfl
  send _ := bindingLaw_send
  completion := bindingLaw_completion

/-- A goal run gives the bindings that it ends with. -/
theorem Strategy.body_bindings {c : Config} {dialect : Schema.Dialect} {goal : String}
    {wantsChunks : Bool} {strategy : Strategy} {e e' : Engine σ} {o : RunOutcome}
    (h : strategy.body c dialect goal wantsChunks e = (.ok o, e')) :
    o.bindings = e'.bindings.snapshot := by
  cases strategy with
  | planExecute =>
    obtain ⟨_, _, -, h⟩ := Run.bind_eq_ok.1 h
    cases h
    rfl
  | react =>
    obtain ⟨_, _, -, h⟩ := Run.bind_eq_ok.1 h
    obtain ⟨_, _, -, h⟩ := Run.bind_eq_ok.1 h
    cases h
    rfl

end Law

/-- **The bindings of a run are told by its events.**  Wherever a plan run or a goal
run stops, its bindings are those it started with, none in a goal run, with the
completions among the events that it sent replayed in order.  A goal run that comes
through gives these bindings. -/
theorem bindings_eq_replay (σ : Type) :
    (∀ (s : Setting) (p : Plan) (e : Engine σ), ∃ sent,
      (runPlan s p e).2.events = e.events ++ sent ∧
        (runPlan s p e).2.bindings = e.bindings.replay (completedSteps sent)) ∧
    ∀ (c : Config) (dialect : Schema.Dialect) (goal : String) (wantsChunks : Bool)
      (strategy : Strategy) (e : Engine σ),
      ∃ sent, (strategy.run c dialect goal wantsChunks e).2.events = e.events ++ sent ∧
        (strategy.run c dialect goal wantsChunks e).2.bindings =
          Bindings.empty.replay (completedSteps sent) ∧
        ∀ o, (strategy.run c dialect goal wantsChunks e).1 = .ok o →
          o.bindings = (Bindings.empty.replay (completedSteps sent)).snapshot := by
  refine ⟨fun s p e => runPlan_obeys bindingLaw_admitsRuns s p e, ?_⟩
  intro c dialect goal wantsChunks strategy e
  rw [Strategy.run_eq]
  obtain ⟨sent, hs, hb⟩ :=
    Strategy.body_obeys bindingLaw_admitsRuns c dialect goal wantsChunks strategy
    { e with bindings := .empty }
  refine ⟨sent, hs, hb, fun o ho => ?_⟩
  rw [← hb]
  exact Strategy.body_bindings (Prod.ext ho rfl)

/-! ### A workshop -/

namespace Workshop

/-- A tool that gives back what it is handed. -/
def echo : Tool Unit where
  name := "echo"
  run v := fun w => (.answered (.success v), w)

/-- A tool that fails. -/
def press : Tool Unit where
  name := "press"
  run _ := fun w => (.failed (.message "jammed"), w)

/-- A planner that has something said and is done. -/
def planner : ModelFunction Unit where
  role := .planner
  streams := false
  execute _ := fun w =>
    let say : Json.Members :=
      [("name", .string "echo"), ("input", .string "hi"), ("output_variable", .string "said")]
    (.answered (.structured (.array [.object say, .object [("type", .string "finish")]])), w)
  openStream _ := fun w => (.unanswered, w)

/-- The engine that has them. -/
def engine : Engine Unit where
  world := ⟨(), 0, false⟩
  registry := ((({} : Registry Unit).registerTool echo).registerTool press).registerFunction planner

/-- What it is to do. -/
def setting : Setting := { goal := "g", dialect := .common }

end Workshop

open Workshop in
/-- A goal run that comes through: the workshop says something, and it is bound. -/
theorem bindings_eq_replay_workshop :
    ∃ o sent, (Strategy.planExecute.run {} .common "g" false engine).1 = .ok o ∧
      o.bindings = .object [("said", .string "hi")] ∧
      o.bindings = (Bindings.empty.replay (completedSteps sent)).snapshot := by
  obtain ⟨sent, -, -, h⟩ := (bindings_eq_replay Unit).2 {} .common "g" false .planExecute engine
  exact ⟨_, sent, rfl, rfl, h _ rfl⟩

end Errand

/-
# A pass over a plan

SPEC_FULL.md, sections 4.4 and 8: one fail-fast pass in ascending order.

A pass takes the steps of a plan in ascending order, each from where the one before
left the engine (`Taken`), and stops at the first that fails.  `runPlan_isPass` says all
that a caller can see of a pass that was not cancelled: its results are those of the
steps taken, in order and with their identity; all but the last are successes; the
events tell of exactly these completions; and the engine is left as the steps taken
left it, so nothing was asked for a later step.  A plan that is refused leaves no trace.
-/

import Errand.Proofs.Plan
import Errand.Proofs.Run.Bindings
import Errand.Proofs.Run.Cancellation
import Mathlib.Data.List.Forall2

namespace Errand

variable {σ : Type}

/-- Steps run one after another, each from the engine that the one before left: the
results that they gave, and the engine in the end. -/
inductive Taken (s : Setting) : Engine σ → List Step → List StepResult → Engine σ → Prop
  | nil (e : Engine σ) : Taken s e [] [] e
  | cons {e e₁ e₂ e₃ e₄ : Engine σ} {step : Step} {steps : List Step} {r : StepResult}
      {rs : List StepResult} :
      Run.checkToken e = (.ok (), e₁) → runStep s step e₁ = (.ok r, e₂) →
      completion step.outputVariable r e₂ = (.ok (), e₃) → Taken s e₃ steps rs e₄ →
      Taken s e (step :: steps) (r :: rs) e₄

/-- How a pass came to its end: every step was taken and succeeded, or the last of the
steps taken failed and `left` remained. -/
inductive PassEnd : List StepResult → (left : List Step) → Option String → Prop
  | complete {rs : List StepResult} : (∀ x ∈ rs, x.isSuccess = true) → PassEnd rs [] none
  | failed {rs : List StepResult} {x : StepResult} {left : List Step} :
      (∀ y ∈ rs, y.isSuccess = true) → x.isSuccess = false →
      PassEnd (rs ++ [x]) left (some (stepFailedMessage x.stepNumber x))

/-- A success in front leaves the end of a pass as it is. -/
theorem PassEnd.cons {r : StepResult} {rs : List StepResult} {left : List Step}
    {error : Option String} (hr : r.isSuccess = true) (h : PassEnd rs left error) :
    PassEnd (r :: rs) left error := by
  cases h with
  | complete h => exact .complete (List.forall_mem_cons.2 ⟨hr, h⟩)
  | failed h hx => exact .failed (List.forall_mem_cons.2 ⟨hr, h⟩) hx

namespace PassEnd

variable {rs : List StepResult} {left : List Step} {error : Option String}

/-- All results but the last are successes. -/
theorem succeeded (h : PassEnd rs left error) : ∀ x ∈ rs.dropLast, x.isSuccess = true := by
  cases h with
  | complete h => exact fun x hx => h x (List.dropLast_subset rs hx)
  | failed h _ => simpa using h

/-- There is no error exactly when every step was taken and succeeded. -/
theorem isNone_iff (h : PassEnd rs left error) :
    error.isNone = true ↔ left = [] ∧ ∀ x ∈ rs, x.isSuccess = true := by
  cases h with
  | complete h => exact ⟨fun _ => ⟨rfl, h⟩, fun _ => rfl⟩
  | @failed rs x left _ hx =>
    refine ⟨fun h => by simp at h, fun h => ?_⟩
    have := h.2 x (by simp)
    rw [hx] at this
    cases this

/-- A failed result is the last, and the error tells of it. -/
theorem last (h : PassEnd rs left error) : ∀ x ∈ rs, x.isSuccess = false →
    rs.getLast? = some x ∧ error = some (stepFailedMessage x.stepNumber x) := by
  intro x hx hf
  cases h with
  | complete h => exact absurd (h x hx) (by simp [hf])
  | @failed rs y left h _ =>
    rcases List.mem_append.1 hx with hx | hx
    · exact absurd (h x hx) (by simp [hf])
    · obtain rfl := List.mem_singleton.1 hx
      exact ⟨by simp, rfl⟩

/-- Steps are left over only when one failed. -/
theorem stopped (h : PassEnd rs left error) (hleft : left ≠ []) :
    ∃ x ∈ rs, x.isSuccess = false := by
  cases h with
  | complete _ => exact absurd rfl hleft
  | failed _ hx => exact ⟨_, by simp, hx⟩

end PassEnd

/-- Taking a step and those after it, where that was not cancelled. -/
theorem runSteps_cons_eq_ok {s : Setting} {step : Step} {rest : List Step} {e e' : Engine σ}
    {result : List StepResult × Option String} :
    runSteps s (step :: rest) e = (.ok result, e') ↔ ∃ r e₁ e₂ e₃,
      Run.checkToken e = (.ok (), e₁) ∧ runStep s step e₁ = (.ok r, e₂) ∧
        completion step.outputVariable r e₂ = (.ok (), e₃) ∧
          if r.isSuccess = true then
            ∃ rs error, runSteps s rest e₃ = (.ok (rs, error), e') ∧ result = (r :: rs, error)
          else e' = e₃ ∧ result = ([r], some (stepFailedMessage step.stepNumber r)) := by
  rw [runSteps_cons]
  constructor
  · intro h
    obtain ⟨_, e₁, h₁, h⟩ := Run.bind_eq_ok.1 h
    obtain ⟨r, e₂, h₂, h⟩ := Run.bind_eq_ok.1 h
    obtain ⟨_, e₃, h₃, h⟩ := Run.bind_eq_ok.1 h
    refine ⟨r, e₁, e₂, e₃, h₁, h₂, h₃, ?_⟩
    split at h
    · next hr =>
      obtain ⟨⟨rs, error⟩, _, h₄, h⟩ := Run.bind_eq_ok.1 h
      cases h
      rw [if_pos hr]
      exact ⟨rs, error, h₄, rfl⟩
    · next hr =>
      cases h
      rw [if_neg hr]
      exact ⟨rfl, rfl⟩
  · rintro ⟨r, e₁, e₂, e₃, h₁, h₂, h₃, h⟩
    refine Run.bind_eq_ok.2 ⟨_, _, h₁, Run.bind_eq_ok.2 ⟨_, _, h₂, ?_⟩⟩
    refine Run.bind_eq_ok.2 ⟨_, _, h₃, ?_⟩
    split at h
    · next hr =>
      obtain ⟨rs, error, h₄, rfl⟩ := h
      rw [if_pos hr]
      exact Run.bind_eq_ok.2 ⟨_, _, h₄, rfl⟩
    · next hr =>
      obtain ⟨rfl, rfl⟩ := h
      rw [if_neg hr]
      rfl

/-- **What taking steps until one fails comes to,** by induction on the steps.  Had the
steps left over not been there, all would be the same. -/
theorem runSteps_eq_ok {s : Setting} {steps : List Step} {e e' : Engine σ}
    {rs : List StepResult} {error : Option String}
    (h : runSteps s steps e = (.ok (rs, error), e')) :
    ∃ taken left, steps = taken ++ left ∧ Taken s e taken rs e' ∧ PassEnd rs left error ∧
      runSteps s taken e = (.ok (rs, error), e') := by
  induction steps generalizing e rs error with
  | nil =>
    cases h
    exact ⟨[], [], rfl, .nil _, .complete (by simp), rfl⟩
  | cons step rest ih =>
    obtain ⟨r, e₁, e₂, e₃, h₁, h₂, h₃, h⟩ := runSteps_cons_eq_ok.1 h
    split at h
    · next hr =>
      obtain ⟨rs', error', h₄, heq⟩ := h
      cases heq
      obtain ⟨taken, left, rfl, ht, hend, halone⟩ := ih h₄
      refine ⟨step :: taken, left, rfl, .cons h₁ h₂ h₃ ht, hend.cons hr, ?_⟩
      refine runSteps_cons_eq_ok.2 ⟨r, e₁, e₂, e₃, h₁, h₂, h₃, ?_⟩
      rw [if_pos hr]
      exact ⟨_, _, halone, rfl⟩
    · next hr =>
      obtain ⟨rfl, heq⟩ := h
      cases heq
      refine ⟨[step], rest, rfl, .cons h₁ h₂ h₃ (.nil _), ?_, ?_⟩
      · have hn : r.stepNumber = step.stepNumber :=
          (runStep_reports step s e₁ r (by rw [h₂])).stepNumber
        rw [← hn]
        exact @PassEnd.failed [] r rest (by simp) (by simpa using hr)
      · refine runSteps_cons_eq_ok.2 ⟨r, e₁, e₂, e', h₁, h₂, h₃, ?_⟩
        rw [if_neg hr]
        exact ⟨rfl, rfl⟩

/-! ### What the steps taken leave -/

/-- A step completes nothing by itself: completions are its caller's. -/
def silentLaw (σ : Type) : Law σ where
  holds e _ e' := ∃ sent, e'.events = e.events ++ sent ∧ completedSteps sent = []
  refl e := ⟨[], by simp, rfl⟩
  trans := by
    rintro e₁ e₂ e₃ b ⟨sent, hs, hc⟩ ⟨sent', hs', hc'⟩
    exact ⟨sent ++ sent', by rw [hs', hs, List.append_assoc],
      by rw [completedSteps_append, hc, hc', List.append_nil]⟩

/-- Whoever completes no step keeps silent about it. -/
theorem silentLaw_admits : (silentLaw σ).Admits fun _ => True :=
  Law.admits_of_frame (fun _ _ _ h => ⟨[], by rw [h.1, List.append_nil], rfl⟩)
    fun number text _ => ⟨[.chunk number text], rfl, rfl⟩

/-- A completion is told last. -/
theorem completion_events (variableName : Option String) (r : StepResult) (e : Engine σ) :
    (completion variableName r e).2.events = e.events ++ [.stepCompleted r] := by
  cases hr : r.isSuccess with
  | false =>
    rw [completion_of_failure hr]
    rfl
  | true =>
    rw [completion_of_success hr]
    cases variableName <;> rfl

namespace Taken

variable {s : Setting} {e e' : Engine σ} {taken : List Step} {rs : List StepResult}

/-- The results are those of the steps taken, in order. -/
theorem reports (h : Taken s e taken rs e') : List.Forall₂ StepResult.Reports rs taken := by
  induction h with
  | nil => exact .nil
  | @cons _ e₁ _ _ _ step _ r _ _ h₂ _ _ ih =>
    exact .cons (runStep_reports step s e₁ r (by rw [h₂])) ih

/-- The events tell of the results, in order, and of no other completion. -/
theorem events (h : Taken s e taken rs e') :
    ∃ sent, e'.events = e.events ++ sent ∧ completedSteps sent = rs := by
  induction h with
  | nil e => exact ⟨[], by simp, rfl⟩
  | @cons e e₁ e₂ e₃ e₄ step _ r rs h₁ h₂ h₃ _ ih =>
    have hlook : e₁.events = e.events := by
      have := (checkToken_frame e).1
      rwa [h₁] at this
    obtain ⟨sent, hs, hc⟩ := runStep_obeys silentLaw_admits s step (fun _ => trivial) e₁
    have hdone : e₃.events = e₂.events ++ [.stepCompleted r] := by
      have := completion_events step.outputVariable r e₂
      rwa [h₃] at this
    obtain ⟨sent', hs', hc'⟩ := ih
    rw [h₂] at hs
    refine ⟨sent ++ .stepCompleted r :: sent', ?_, ?_⟩
    · rw [hs', hdone, hs, hlook]
      simp
    · rw [completedSteps_append, hc, List.nil_append, ← hc']
      rfl

end Taken

/-! ### Passes -/

/-- All that is to be seen of a pass over a plan that was not cancelled: it started
from `e`, took the steps `taken`, did not come to the steps `left`, gave `r`, and left
the engine as `e'`. -/
structure IsPass (s : Setting) (p : Plan) (e : Engine σ) (r : PlanResult) (e' : Engine σ)
    (taken left : List Step) : Prop where
  perm : (taken ++ left).Perm p.steps
  ascending : (taken ++ left).Pairwise fun a b => a.stepNumber < b.stepNumber
  /-- Each result is that of running its step from where the step before left the
  engine, and the last step left it as it is in the end. -/
  run : Taken s e taken r.steps e'
  reports : List.Forall₂ StepResult.Reports r.steps taken
  succeeded : ∀ x ∈ r.steps.dropLast, x.isSuccess = true
  isSuccess_iff : r.isSuccess = true ↔ left = [] ∧ ∀ x ∈ r.steps, x.isSuccess = true
  failed : ∀ x ∈ r.steps, x.isSuccess = false → r.steps.getLast? = some x ∧
    r.errorMessage = some ("step " ++ .ofList (Json.decimalChars x.stepNumber) ++ " failed: " ++
      x.errorText)
  stopped : left ≠ [] → ∃ x ∈ r.steps, x.isSuccess = false
  /-- The plan without the steps left over would have left the engine the same. -/
  alone : (runPlan s { p with steps := taken } e).2 = e'
  events : ∃ sent, e'.events = e.events ++ sent ∧ completedSteps sent = r.steps

/-- A plan that is refused leaves no trace. -/
theorem runPlan_of_refusal {s : Setting} {p : Plan} {error : String}
    (h : p.refusal? = some error) (e : Engine σ) :
    runPlan s p e = (.ok (.failed error), e) := by
  unfold runPlan
  rw [h]
  rfl

/-- A plan that is not refused has its steps taken in order. -/
theorem runPlan_eq_ok {s : Setting} {p : Plan} (hp : p.refusal? = none) {e e' : Engine σ}
    {r : PlanResult} :
    runPlan s p e = (.ok r, e') ↔ ∃ rs error,
      runSteps s p.orderedSteps e = (.ok (rs, error), e') ∧
        r = ⟨error.isNone, rs, error, p.summary, elapsedMillis e.world.now e'.world.now⟩ := by
  unfold runPlan
  rw [hp]
  constructor
  · intro h
    obtain ⟨_, _, hnow, h⟩ := Run.bind_eq_ok.1 h
    cases hnow
    obtain ⟨⟨rs, error⟩, e₁, h₁, h⟩ := Run.bind_eq_ok.1 h
    cases h
    exact ⟨rs, error, h₁, rfl⟩
  · rintro ⟨rs, error, h, rfl⟩
    exact Run.bind_eq_ok.2 ⟨_, _, rfl, Run.bind_eq_ok.2 ⟨_, _, h, rfl⟩⟩

/-- Of a plan that is not refused, only the order of its steps and its summary matter. -/
theorem runPlan_congr (s : Setting) {p q : Plan} (hp : p.refusal? = none)
    (hq : q.refusal? = none) (ho : q.orderedSteps = p.orderedSteps)
    (hs : q.summary = p.summary) : (runPlan s q : Run σ PlanResult) = runPlan s p := by
  unfold runPlan
  rw [hp, hq, ho, hs]

/-- **A pass that was not cancelled,** over a plan that is not refused. -/
theorem exists_isPass {s : Setting} {p : Plan} (hp : p.refusal? = none) {e e' : Engine σ}
    {r : PlanResult} (h : runPlan s p e = (.ok r, e')) :
    ∃ taken left, IsPass s p e r e' taken left := by
  obtain ⟨he, hd⟩ := p.refusal?_eq_none_iff.1 hp
  obtain ⟨rs, error, hrun, rfl⟩ := (runPlan_eq_ok hp).1 h
  obtain ⟨taken, left, hsteps, ht, hend, halone⟩ := runSteps_eq_ok hrun
  have hasc := Plan.orderedSteps_strict hd
  have hperm := p.orderedSteps_perm
  rw [hsteps] at hasc hperm
  have hasc' := (List.pairwise_append.1 hasc).1
  have alone : (runPlan s { p with steps := taken } e).2 = e' := by
    have horder : Plan.orderedSteps { p with steps := taken } = taken :=
      Plan.orderedSteps_eq hasc' (List.Perm.refl taken)
    have hrefusal : Plan.refusal? { p with steps := taken } = none :=
      (Plan.refusal?_eq_none_iff _).2 ⟨he, List.pairwise_map.2 (hasc'.imp Nat.ne_of_lt)⟩
    have := (runPlan_eq_ok hrefusal).2 ⟨rs, error, by rw [horder]; exact halone, rfl⟩
    rw [this]
  exact ⟨taken, left, hperm, hasc, ht, ht.reports, hend.succeeded, hend.isNone_iff, hend.last,
    hend.stopped, alone, ht.events⟩

/-- A pass is cancelled only by its token or by an exchange. -/
theorem runPlan_eq_error {s : Setting} {p : Plan} {e e' : Engine σ} {c : Cancelled}
    (h : runPlan s p e = (.error c, e')) :
    ∃ asked, e'.journal = e.journal ++ asked ∧
      (e'.world.cancelled = true ∨ ∃ x ∈ asked, x.Cancels) := by
  obtain ⟨asked, hend⟩ := runPlan_endsOnCancellation s p e
  rw [h] at hend
  exact ⟨asked, hend.journal, hend.cause c rfl⟩

/-- **A pass over a plan.**  An executable plan with distinct step numbers, however its
steps are written, is passed over in ascending order up to the first failure, unless its
token or an exchange cancels it.  Any other plan is refused and leaves the engine as it
was. -/
theorem runPlan_isPass (s : Setting) (p : Plan) (e : Engine σ) :
    (p.isExecutable = true ∧ Plan.DistinctNumbers p.steps →
      (∀ steps, steps.Perm p.steps → runPlan s { p with steps } e = runPlan s p e) ∧
      (∀ r e', runPlan s p e = (.ok r, e') → ∃ taken left, IsPass s p e r e' taken left) ∧
      ∀ c e', runPlan s p e = (.error c, e') → ∃ asked, e'.journal = e.journal ++ asked ∧
        (e'.world.cancelled = true ∨ ∃ x ∈ asked, x.Cancels)) ∧
    (¬(p.isExecutable = true ∧ Plan.DistinctNumbers p.steps) →
      ∃ error, runPlan s p e = (.ok (.failed error), e)) := by
  rw [← Plan.refusal?_eq_none_iff]
  refine ⟨fun hp => ⟨fun steps hs => ?_, fun r e' h => exists_isPass hp h,
    fun c e' h => runPlan_eq_error h⟩, fun hp => ?_⟩
  · obtain ⟨he, hd⟩ := p.refusal?_eq_none_iff.1 hp
    have hq : Plan.refusal? { p with steps } = none :=
      (Plan.refusal?_eq_none_iff _).2 ⟨he, hd.perm hs⟩
    have ho : Plan.orderedSteps { p with steps } = p.orderedSteps :=
      Plan.orderedSteps_eq_of_perm hd hs
    rw [runPlan_congr s hp hq ho rfl]
  · obtain ⟨error, h⟩ := Option.ne_none_iff_exists'.1 hp
    exact ⟨error, runPlan_of_refusal h e⟩

namespace Workshop

/-- Three steps of the workshop, the second of which fails. -/
def steps : List Step :=
  [⟨1, "say", "echo", some "hi", some "said"⟩, ⟨2, "squeeze", "press", none, some "juice"⟩,
    ⟨3, "say more", "echo", none, none⟩]

/-- The plan with the steps written in reverse. -/
def plan : Plan := .executable steps.reverse

/-- What becomes of the steps up to the second. -/
def results : List StepResult :=
  [⟨1, "say", "echo", true, some "hi", none, 0, some "said", some "hi"⟩,
    ⟨2, "squeeze", "press", false, none, some "tool press failed: jammed", 0, some "juice", none⟩]

/-- What is said of the plan. -/
def error : String := "step 2 failed: tool press failed: jammed"

end Workshop

open Workshop in
/-- The hypotheses of `runPlan_isPass` are satisfiable: the workshop's plan is passed over
up to the step that fails, and refused once it is blocked. -/
theorem runPlan_isPass_workshop :
    (∃ e' taken left,
      IsPass setting plan engine ⟨false, results, some error, none, 0⟩ e' taken left) ∧
    ∃ refusal, runPlan setting { plan with isExecutable := false } engine =
      (.ok (.failed refusal), engine) := by
  have hp : plan.isExecutable = true ∧ Plan.DistinctNumbers plan.steps := by decide
  have ho : plan.orderedSteps = steps := Plan.orderedSteps_eq (by decide) (by decide)
  have hrun : (runSteps setting steps engine).1 = .ok (results, some error) := by rfl
  refine ⟨?_, (runPlan_isPass _ _ _).2 (by decide)⟩
  have hpass := (runPlan_eq_ok (plan.refusal?_eq_none_iff.2 hp)).2
    ⟨results, some error, by rw [ho]; exact Prod.ext hrun rfl, rfl⟩
  obtain ⟨taken, left, h⟩ := ((runPlan_isPass _ _ _).1 hp).2.1 _ _ hpass
  exact ⟨_, taken, left, h⟩

end Errand

/-
# A cancelled run asks nothing more

SPEC_FULL.md, sections 5 and 7: cancellation is always propagated.

The token of a run may fire at any time, and a collaborator may report a cancellation
of its own, wrapped in as many contexts as it likes.  `cancellation_ends_run` says what
runs make of it, in terms of the journal: an exchange that amounts to a cancellation
(`Exchange.Cancels`) is the last one and stops the run, no question is put while the
token has fired, and none follows an exchange during which it did.

The law behind it (`tokenLaw`) also knows that a token that has fired stays fired,
which is what carries the statement from one part of a run to the next.
-/

import Errand.Proofs.Run.Completion

namespace Errand

/-- The exchange was broken off, or its answer is a fault with a cancellation somewhere
in its chain. -/
def Exchange.Cancels (x : Exchange) : Prop :=
  x.response = .unanswered ∨ ∃ f, x.response = .failed f ∧ Fault.cancelled ∈ f.causes

/-- Whether an exchange cancels can be computed. -/
theorem Exchange.isCancellation_iff (x : Exchange) : x.isCancellation = true ↔ x.Cancels := by
  rcases x with ⟨request, before, _ | f | _, after⟩
  · simp [isCancellation, Cancels]
  · simp [isCancellation, Cancels, Fault.isCancellation_iff]
  · simp [isCancellation, Cancels]

/-- What the exchanges of a run have to do with its token: the journal grew by `asked`
from `e` on, and `stopped` tells whether the run was stopped. -/
structure HeedsToken {σ : Type} (e : Engine σ) (stopped : Bool) (e' : Engine σ)
    (asked : List Exchange) : Prop where
  journal : e'.journal = e.journal ++ asked
  idle : e.world.cancelled = true → asked = [] ∧ e'.world.cancelled = true
  fresh : ∀ x ∈ asked, x.firedBefore = false
  fired : ∀ x ∈ asked, x.firedAfter = true → e'.world.cancelled = true
  stops : ∀ x ∈ asked, x.isCancellation = true → stopped = true
  cause : stopped = true → e'.world.cancelled = true ∨ ∃ x ∈ asked, x.isCancellation = true
  final : asked.Pairwise fun x _ => x.firedAfter = false ∧ x.isCancellation = false

section Law

variable {σ α : Type} {e e₁ e₂ e₃ : Engine σ} {b : Bool} {asked asked' : List Exchange}

/-- Who does nothing heeds the token, -/
theorem HeedsToken.refl (e : Engine σ) : HeedsToken e false e [] :=
  ⟨by simp, fun h => ⟨rfl, h⟩, by simp, by simp, by simp, by simp, .nil⟩

/-- **Heeding the token is compositional.**  If the first part put a question during
which the token fired, the second part starts with a fired token and puts none. -/
theorem HeedsToken.trans (h : HeedsToken e₁ false e₂ asked) (h' : HeedsToken e₂ b e₃ asked') :
    HeedsToken e₁ b e₃ (asked ++ asked') where
  journal := by rw [h'.journal, h.journal, List.append_assoc]
  idle hc := by
    obtain ⟨rfl, hc₂⟩ := h.idle hc
    obtain ⟨rfl, hc₃⟩ := h'.idle hc₂
    exact ⟨rfl, hc₃⟩
  fresh x hx := (List.mem_append.1 hx).elim (h.fresh x) (h'.fresh x)
  fired x hx hf := by
    rcases List.mem_append.1 hx with hx | hx
    · exact (h'.idle (h.fired x hx hf)).2
    · exact h'.fired x hx hf
  stops x hx hc := by
    rcases List.mem_append.1 hx with hx | hx
    · exact absurd (h.stops x hx hc) Bool.false_ne_true
    · exact h'.stops x hx hc
  cause hb := (h'.cause hb).imp_right fun ⟨x, hx, hc⟩ => ⟨x, List.mem_append_right _ hx, hc⟩
  final := by
    refine List.pairwise_append.2 ⟨h.final, h'.final, fun x hx y hy => ⟨?_, ?_⟩⟩
    · cases hf : x.firedAfter with
      | false => rfl
      | true =>
        rw [(h'.idle (h.fired x hx hf)).1] at hy
        cases hy
    · cases hc : x.isCancellation with
      | false => rfl
      | true => exact absurd (h.stops x hx hc) Bool.false_ne_true

/-- An exchange that others follow neither fired the token nor was cancelled. -/
theorem HeedsToken.later (h : HeedsToken e₁ b e₂ asked) {before after : List Exchange}
    {x : Exchange} (ha : asked = before ++ x :: after) :
    ∀ y ∈ after, x.firedAfter = false ∧ x.isCancellation = false := by
  have hp := h.final
  rw [ha, List.pairwise_append] at hp
  exact (List.pairwise_cons.1 hp.2.1).1

/-- Runs heed the token. -/
def tokenLaw (σ : Type) : Law σ where
  holds e b e' := ∃ asked, HeedsToken e b e' asked
  refl e := ⟨[], .refl e⟩
  trans := fun ⟨_, h⟩ ⟨_, h'⟩ => ⟨_, h.trans h'⟩

/-- Nothing was asked, and the token is as it was. -/
theorem tokenLaw_of_frame {e' : Engine σ} (hj : e'.journal = e.journal)
    (hw : e'.world = e.world) : (tokenLaw σ).holds e false e' :=
  ⟨[], by simp [hj], fun h => ⟨rfl, by rw [hw, h]⟩, by simp, by simp, by simp, by simp, .nil⟩

/-- A look at the token finds it fired if it had fired before, and only a fired token
stops the run. -/
theorem HeedsToken.of_catchUp (hb : b = true → e.catchUp.world.cancelled = true) :
    HeedsToken e b e.catchUp [] :=
  ⟨by simp [Engine.catchUp], fun h => ⟨rfl, by simp [Engine.catchUp, h]⟩, by simp, by simp,
    by simp, fun h => .inl (hb h), .nil⟩

/-- and so does who only looks at it, -/
theorem tokenLaw_checkToken : Run.Obeys (tokenLaw σ) Run.checkToken := by
  intro e
  unfold Run.ObeysFrom Run.checkToken
  dsimp only
  split
  · next hc => exact ⟨[], .of_catchUp fun _ => hc⟩
  · exact ⟨[], .of_catchUp fun h => by cases h⟩

/-- A single exchange, put while the token had not fired. -/
theorem HeedsToken.of_exchange {e' : Engine σ} {x : Exchange}
    (he : e.world.cancelled = false) (hj : e'.journal = e.journal ++ [x])
    (hbefore : x.firedBefore = false) (hafter : x.firedAfter = e'.world.cancelled)
    (hb : x.isCancellation = b) : HeedsToken e b e' [x] where
  journal := hj
  idle h := by rw [he] at h; cases h
  fresh := by simpa using hbefore
  fired := by simp [hafter]
  stops := by simp [hb]
  cause h := .inr ⟨x, List.mem_singleton_self x, by rw [hb, h]⟩
  final := List.pairwise_singleton _ x

/-- **A question is put only while the token has not fired,** and stops the run if it
comes to a cancellation. -/
theorem tokenLaw_ask (request : Request) (question : Ask σ α) :
    Run.Obeys (tokenLaw σ) (Run.ask request question) := by
  intro e
  unfold Run.ObeysFrom Run.ask
  dsimp only
  split
  · next hc => exact ⟨[], .of_catchUp fun _ => hc⟩
  · next hc =>
    have hc : e.catchUp.world.cancelled = false := by simpa using hc
    have he : e.world.cancelled = false := (Bool.or_eq_false_iff.1 hc).1
    rcases question e.catchUp.world with ⟨_ | f | _, world⟩
    · exact ⟨_, .of_exchange he rfl hc rfl rfl⟩
    · dsimp only
      split
      · next hf => exact ⟨_, .of_exchange he rfl hc rfl hf⟩
      · next hf => exact ⟨_, .of_exchange he rfl hc rfl (Bool.eq_false_iff.2 hf)⟩
    · exact ⟨_, .of_exchange he rfl hc rfl rfl⟩

/-- binds a value. -/
theorem tokenLaw_bindOutput (variableName output : Option String) :
    Run.Obeys (tokenLaw σ) (bindOutput variableName output) := by
  intro e
  cases variableName with
  | none => exact ⟨[], .refl e⟩
  | some name => exact tokenLaw_of_frame rfl rfl

/-- or sends an event. -/
theorem tokenLaw_send (ev : Event) : Run.Obeys (tokenLaw σ) (Run.send ev) := by
  intro e
  exact tokenLaw_of_frame rfl rfl

/-- Every run heeds the token. -/
theorem tokenLaw_admitsRuns : (tokenLaw σ).AdmitsRuns where
  checkToken := tokenLaw_checkToken
  ask question _ := tokenLaw_ask _ question
  lookupFunction role e := by
    rw [Run.ObeysFrom, lookupFunction_apply]
    exact tokenLaw_of_frame rfl rfl
  resolve name e := by
    rw [Run.ObeysFrom, resolve_apply]
    exact tokenLaw_of_frame rfl rfl
  chunk _ _ := tokenLaw_send _
  send ev _ := tokenLaw_send ev
  completion {r _} _ := by
    refine (tokenLaw_send _).bind fun _ => ?_
    split
    · exact tokenLaw_bindOutput _ r.output
    · exact .pure ()

end Law

/-- What the exchanges of a run have to do with cancellation: the run started from `e`,
came to `result`, left the engine as `e'`, and asked `asked`. -/
structure Run.EndsOnCancellation {σ α : Type} (e : Engine σ) (result : Except Cancelled α)
    (e' : Engine σ) (asked : List Exchange) : Prop where
  journal : e'.journal = e.journal ++ asked
  /-- A cancelled exchange is the last, and the run is cancelled. -/
  cancelled : ∀ before x after, asked = before ++ x :: after → x.Cancels →
    after = [] ∧ result = .error .mk
  /-- No question is put once the token has fired. -/
  fresh : ∀ x ∈ asked, x.firedBefore = false
  /-- Nothing is asked after an exchange by whose end the token had fired. -/
  fired : ∀ before x after, asked = before ++ x :: after → x.firedAfter = true → after = []
  /-- Nothing is asked at all if the token had fired before. -/
  idle : e.world.cancelled = true → asked = []
  /-- No run is cancelled but by its token or by an exchange. -/
  cause : ∀ c, result = .error c → e'.world.cancelled = true ∨ ∃ x ∈ asked, x.Cancels

/-- Who heeds the token ends on the first exchange that cancels. -/
theorem HeedsToken.endsOnCancellation {σ α : Type} {e e' : Engine σ}
    {result : Except Cancelled α} {asked : List Exchange}
    (h : HeedsToken e (Cancelled.stopped result) e' asked) :
    Run.EndsOnCancellation e result e' asked where
  journal := h.journal
  cancelled before x after ha hx := by
    have hc := x.isCancellation_iff.2 hx
    refine ⟨?_, ?_⟩
    · refine List.eq_nil_iff_forall_not_mem.2 fun y hy => ?_
      have := (h.later ha y hy).2
      rw [hc] at this
      cases this
    · cases result with
      | error c => rfl
      | ok a => exact absurd (h.stops x (by simp [ha]) hc) Bool.false_ne_true
  fresh := h.fresh
  fired before x after ha hx := by
    refine List.eq_nil_iff_forall_not_mem.2 fun y hy => ?_
    have := (h.later ha y hy).1
    rw [hx] at this
    cases this
  idle hc := (h.idle hc).1
  cause c hr := (h.cause (by rw [hr]; rfl)).imp_right fun ⟨x, hx, hc⟩ =>
    ⟨x, hx, x.isCancellation_iff.1 hc⟩

/-- **A plan ends on cancellation.**  Once an exchange cancels or the token has fired, nobody is
asked anything more, and the run gives the cancellation. -/
theorem runPlan_endsOnCancellation {σ : Type} (s : Setting) (p : Plan) (e : Engine σ) :
    ∃ asked, Run.EndsOnCancellation e (runPlan s p e).1 (runPlan s p e).2 asked := by
  obtain ⟨asked, h⟩ := runPlan_obeys tokenLaw_admitsRuns s p e
  exact ⟨asked, h.endsOnCancellation⟩

/-- **Cancellation ends a run.**  In every plan run and every goal run, a question that
is broken off, or answered by a fault with a cancellation at any depth of its chain, is
the last one, and the run is cancelled.  No question is put once the token has fired.
Nothing else cancels a run. -/
theorem cancellation_ends_run (σ : Type) :
    (∀ (s : Setting) (p : Plan) (e : Engine σ), ∃ asked,
      Run.EndsOnCancellation e (runPlan s p e).1 (runPlan s p e).2 asked) ∧
    ∀ (c : Config) (dialect : Schema.Dialect) (goal : String) (wantsChunks : Bool)
      (strategy : Strategy) (e : Engine σ),
      ∃ asked, Run.EndsOnCancellation e (strategy.run c dialect goal wantsChunks e).1
        (strategy.run c dialect goal wantsChunks e).2 asked := by
  refine ⟨fun s p e => runPlan_endsOnCancellation s p e, ?_⟩
  intro c dialect goal wantsChunks strategy e
  obtain ⟨asked, h⟩ := Strategy.body_obeys tokenLaw_admitsRuns c dialect goal wantsChunks strategy
    { e with bindings := .empty }
  have hend := h.endsOnCancellation
  rw [Strategy.run_eq]
  exact ⟨asked, hend.journal, hend.cancelled, hend.fresh, hend.fired, hend.idle, hend.cause⟩

end Errand

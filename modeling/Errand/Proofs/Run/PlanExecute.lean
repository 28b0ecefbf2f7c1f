/-
# The course of planning and executing

SPEC_FULL.md, section 4.5 (Plan-Execute-Evaluate).

An iteration that gets a plan is a turn: the planner is asked (`propose`), the actions of
its plan are carried out one after another up to the first finish (`Carried`), and unless
there was one the checker is asked whether the goal is reached.  `Turn` keeps what each
of these came to and the engine between them.

A run that comes through is a course of turns (`Course`): it stops at the first that
reaches the goal, without a plan, or after the last iteration.  Everything an outcome says
is then read off its turns (`IsCourse`).
-/

import Errand.Proofs.Run.Bindings
import Errand.Proofs.Run.RoleCalls

namespace Errand
namespace PlanExecute

variable {σ : Type}

/-- Begin an iteration: tell of it, and ask the planner. -/
def propose (s : Setting) (i : Nat) (history : List HistoryEntry) : Run σ RoleReply := do
  Run.checkToken
  Run.send (.iterationStarted i)
  let tools ← catalogText
  callRole .planner (plannerInvocation s.goal i tools { history })

/-- Why there is nothing to do without a plan. -/
def blockage? : RoleReply → Option String
  | .missing => some "no planner is registered"
  | .failed e => some ("planning failed: " ++ e)
  | .done _ => none

/-- The progress once a plan was carried out. -/
def advance (p : Progress) (i : Nat) (plan : Json.Value) (entries : List HistoryEntry) :
    Progress :=
  { p with
    iterations := i
    shared := p.shared.insert "last_plan" plan
    history := p.history ++ entries }

/-- Whether the goal is reached: a finish says so, and else the checker is asked. -/
def judge (c : PlanExecuteConfig) (s : Setting) (finished : Bool) (p : Progress) : Run σ Bool :=
  if finished then pure true else isComplete c s p

/-- **One iteration,** and those after it. -/
theorem loop_succ (c : PlanExecuteConfig) (s : Setting) (remaining i : Nat) (p : Progress) :
    (loop c s (remaining + 1) i p : Run σ (StopReason × Progress)) = (do
      match ← propose s i p.history with
      | .missing => return (.blocked "no planner is registered", { p with iterations := i })
      | .failed e => return (.blocked ("planning failed: " ++ e), { p with iterations := i })
      | .done o =>
        let (finished, entries) ← runActions s i 1 (Reply.actions o.content)
        let p := advance p i o.content entries
        let reached ← judge c s finished p
        if reached then return (.goalAchieved, { p with isComplete := true })
        else loop c s remaining (i + 1) p) := by
  rw [loop, propose]
  simp only [bind_assoc]
  refine bind_congr fun _ => bind_congr fun _ => bind_congr fun _ => bind_congr fun reply => ?_
  cases reply with
  | missing => rfl
  | failed e => rfl
  | done o =>
    refine bind_congr fun carried => ?_
    obtain ⟨finished, entries⟩ := carried
    cases finished with
    | true => rfl
    | false => rfl

/-! ### Actions -/

/-- The actions were carried out one after another, each from where the one before left the
engine, and gave the entries. -/
inductive Carried (s : Setting) (i : Nat) :
    (n : Nat) → Engine σ → List Action → List HistoryEntry → Engine σ → Prop
  | nil {n : Nat} {e : Engine σ} : Carried s i n e [] [] e
  | cons {n : Nat} {e e₁ e₂ : Engine σ} {a : Action} {rest : List Action} {x : HistoryEntry}
      {entries : List HistoryEntry} :
      runAction s i n a e = (.ok x, e₁) → Carried s i (n + 1) e₁ rest entries e₂ →
        Carried s i n e (a :: rest) (x :: entries) e₂

/-- An action that was carried out has its entry, whatever became of it. -/
theorem runAction_eq_ok {s : Setting} {i n : Nat} {a : Action} {e e' : Engine σ}
    {x : HistoryEntry} (h : runAction s i n a e = (.ok x, e')) :
    ∃ r, x.Records i a r := by
  rw [runAction_eq] at h
  obtain ⟨_, _, -, h⟩ := Run.bind_eq_ok.1 h
  obtain ⟨_, _, -, h⟩ := Run.bind_eq_ok.1 h
  obtain ⟨r, _, -, h⟩ := Run.bind_eq_ok.1 h
  obtain ⟨_, _, -, h⟩ := Run.bind_eq_ok.1 h
  obtain ⟨_, _, -, h⟩ := Run.bind_eq_ok.1 h
  cases h
  exact ⟨r, entryOf_records i a r _⟩

/-- One entry for each action, in order. -/
theorem Carried.entries {s : Setting} {i n : Nat} {e e' : Engine σ} {actions : List Action}
    {entries : List HistoryEntry} (h : Carried s i n e actions entries e') :
    entries.map (fun x => (x.iteration, x.action)) = actions.map fun a => (i, a) := by
  induction h with
  | nil => rfl
  | cons hrun _ ih =>
    obtain ⟨r, hrecords⟩ := runAction_eq_ok hrun
    rw [List.map_cons, List.map_cons, ih, hrecords.iteration, hrecords.action]

/-- Whether an action is a finish. -/
def isFinish (a : Action) : Bool := decide (a.kind = .finish)

/-- **What carrying out actions comes to:** those ahead of the first finish are carried
out. -/
theorem runActions_eq_ok {s : Setting} {i n : Nat} {actions : List Action} {e e' : Engine σ}
    {finished : Bool} {entries : List HistoryEntry}
    (h : runActions s i n actions e = (.ok (finished, entries), e')) :
    finished = actions.any isFinish ∧
      Carried s i n e (actions.takeWhile fun a => !isFinish a) entries e' := by
  induction actions generalizing n e entries with
  | nil =>
    cases h
    exact ⟨rfl, .nil⟩
  | cons a rest ih =>
    rw [runActions] at h
    by_cases ha : a.kind = .finish
    · rw [if_pos ha] at h
      cases h
      have hfinish : isFinish a = true := decide_eq_true ha
      rw [List.any_cons, hfinish, List.takeWhile_cons_of_neg (by simp [hfinish])]
      exact ⟨rfl, .nil⟩
    · rw [if_neg ha] at h
      obtain ⟨x, e₁, hx, h⟩ := Run.bind_eq_ok.1 h
      obtain ⟨⟨finished', entries'⟩, e₂, hrest, h⟩ := Run.bind_eq_ok.1 h
      cases h
      obtain ⟨hfinished, hcarried⟩ := ih hrest
      have hgoes : isFinish a = false := decide_eq_false ha
      rw [List.any_cons, hgoes, Bool.false_or, List.takeWhile_cons_of_pos (by simp [hgoes])]
      exact ⟨hfinished, .cons hx hcarried⟩

/-! ### Turns -/

/-- What a checker's reply says of the goal.  Without a checker, enough successes say yes. -/
def saysYes (c : PlanExecuteConfig) (history : List HistoryEntry) : RoleReply → Prop
  | .done o => Reply.verdict? o.content = some true
  | .failed _ => False
  | .missing => c.heuristicSuccessThreshold ≤ history.countP (·.isSuccess)

/-- An iteration with a plan, and the engine between its parts. -/
structure Turn (σ : Type) where
  start : Engine σ
  plan : FunctionOutput
  planned : Engine σ
  entries : List HistoryEntry
  carried : Engine σ
  /-- Whether the goal is reached. -/
  reached : Bool
  finish : Engine σ

namespace Turn

/-- The actions of the plan ahead of its first finish. -/
def actions (t : Turn σ) : List Action :=
  (Reply.actions t.plan.content).takeWhile fun a => !isFinish a

/-- Whether the plan holds a finish. -/
def finishes (t : Turn σ) : Bool := (Reply.actions t.plan.content).any isFinish

/-- The turn is iteration `i` of a run with the given history so far. -/
structure Happens (c : PlanExecuteConfig) (s : Setting) (r : Registry σ) (i : Nat)
    (history : List HistoryEntry) (t : Turn σ) : Prop where
  planned : propose s i history t.start = (.ok (.done t.plan), t.planned)
  carried : Carried s i 1 t.planned t.actions t.entries t.carried
  finished : t.finishes = true → t.reached = true ∧ t.finish = t.carried
  judged : t.finishes = false → ∃ reply,
    CalledRole r .completionChecker (checkerInvocation s.goal { history := history ++ t.entries })
      t.carried reply t.finish ∧ (t.reached = true ↔ saysYes c (history ++ t.entries) reply)

end Turn

/-- **The course of a run** from iteration `i` on. -/
inductive Course (c : PlanExecuteConfig) (s : Setting) (r : Registry σ) :
    (i : Nat) → List HistoryEntry → Engine σ → List (Turn σ) → StopReason → Engine σ → Prop
  | exhausted {i : Nat} {history : List HistoryEntry} {e : Engine σ} : i = c.maxIterations + 1 →
      Course c s r i history e [] (.maxIterationsExceeded c.maxIterations) e
  | blocked {i : Nat} {history : List HistoryEntry} {e e' : Engine σ} {reply : RoleReply}
      {reason : String} : i ≤ c.maxIterations → propose s i history e = (.ok reply, e') →
      blockage? reply = some reason → Course c s r i history e [] (.blocked reason) e'
  | achieved {i : Nat} {history : List HistoryEntry} {t : Turn σ} : i ≤ c.maxIterations →
      t.Happens c s r i history → t.reached = true →
      Course c s r i history t.start [t] .goalAchieved t.finish
  | next {i : Nat} {history : List HistoryEntry} {t : Turn σ} {turns : List (Turn σ)}
      {stop : StopReason} {e' : Engine σ} : i ≤ c.maxIterations → t.Happens c s r i history →
      t.reached = false → Course c s r (i + 1) (history ++ t.entries) t.finish turns stop e' →
      Course c s r i history t.start (t :: turns) stop e'

/-! ### Runs are courses -/

section Runs

variable {c : PlanExecuteConfig} {s : Setting} {r : Registry σ} {e e' : Engine σ} {i : Nat}
  {history : List HistoryEntry}

/-- A proposal leaves the registry its items. -/
theorem propose_sameItems {x : Except Cancelled RoleReply}
    (h : propose s i history e = (x, e')) : e.registry.SameItems e'.registry := by
  refine Run.Obeys.sameItems ?_ h
  exact registryLaw_admitsRuns.checkToken.bind fun _ =>
    (registryLaw_admitsRuns.send _ rfl).bind fun _ =>
      catalogText_obeys.bind fun _ => callRole_obeys registryLaw_admitsRuns _ _

/-- Whether all is done is up to the checker, who was called. -/
theorem isComplete_eq_ok {p : Progress} {yes : Bool} (hr : r.SameItems e.registry)
    (h : isComplete c s p e = (.ok yes, e')) :
    ∃ reply, CalledRole r .completionChecker (checkerInvocation s.goal p) e reply e' ∧
      (yes = true ↔ saysYes c p.history reply) := by
  obtain ⟨reply, e₁, hcall, h⟩ := Run.bind_eq_ok.1 h
  have hcalled := callRole_eq_ok hr hcall
  refine ⟨reply, ?_⟩
  cases reply with
  | done o =>
    cases h
    refine ⟨hcalled, ?_⟩
    rw [saysYes]
    cases Reply.verdict? o.content <;> simp
  | missing =>
    cases h
    exact ⟨hcalled, decide_eq_true_iff⟩
  | failed m =>
    cases h
    exact ⟨hcalled, by simp [saysYes]⟩

/-- A judgement leaves the registry its items. -/
theorem judge_sameItems {finished : Bool} {p : Progress} {x : Except Cancelled Bool}
    (h : judge c s finished p e = (x, e')) : e.registry.SameItems e'.registry := by
  refine Run.Obeys.sameItems ?_ h
  unfold judge
  split
  · exact .pure _
  · exact isComplete_obeys registryLaw_admitsRuns c s p

/-- **An iteration that gets a plan is a turn.** -/
theorem turn_happens {p : Progress} {plan : FunctionOutput} {finished reached : Bool}
    {entries : List HistoryEntry} {e₁ e₂ e₃ : Engine σ} (hr : r.SameItems e.registry)
    (hpropose : propose s i p.history e = (.ok (.done plan), e₁))
    (hactions : runActions s i 1 (Reply.actions plan.content) e₁ = (.ok (finished, entries), e₂))
    (hjudge : judge c s finished (advance p i plan.content entries) e₂ = (.ok reached, e₃)) :
    Turn.Happens c s r i p.history ⟨e, plan, e₁, entries, e₂, reached, e₃⟩ := by
  have hr₁ := hr.trans (propose_sameItems hpropose)
  have hr₂ : r.SameItems e₂.registry :=
    hr₁.trans ((runActions_obeys registryLaw_admitsRuns s i 1 _).sameItems hactions)
  obtain ⟨hfinished, hcarried⟩ := runActions_eq_ok hactions
  cases finished with
  | true =>
    cases hjudge
    exact ⟨hpropose, hcarried, fun _ => ⟨rfl, rfl⟩, fun hnot => nomatch hfinished.trans hnot⟩
  | false =>
    obtain ⟨reply, hcalled, hyes⟩ := isComplete_eq_ok hr₂ hjudge
    exact ⟨hpropose, hcarried, fun hfinish => (nomatch hfinished.trans hfinish),
      fun _ => ⟨reply, hcalled, hyes⟩⟩

/-- How many iterations of a run got no plan. -/
def unplanned : StopReason → Nat
  | .blocked _ => 1
  | _ => 0

/-- What the turns of a course make of the progress. -/
structure Makes (p : Progress) (turns : List (Turn σ)) (stop : StopReason) (p' : Progress) :
    Prop where
  iterations : p'.iterations = p.iterations + turns.length + unplanned stop
  isComplete : p'.isComplete = true ↔ stop = .goalAchieved
  history : p'.history = p.history ++ turns.flatMap (·.entries)

/-- The turn that reaches the goal is the last. -/
theorem makes_achieved {p : Progress} (t : Turn σ) {plan : Json.Value}
    {entries : List HistoryEntry} (ht : t.entries = entries) (hi : p.iterations + 1 = i) :
    Makes p [t] .goalAchieved { advance p i plan entries with isComplete := true } := by
  subst ht hi
  exact ⟨rfl, by simp, by simp [advance]⟩

/-- One more turn is made of progress that has been advanced by it. -/
theorem Makes.next {p p' : Progress} {turns : List (Turn σ)} {stop : StopReason}
    {plan : Json.Value} {entries : List HistoryEntry}
    (h : Makes (advance p i plan entries) turns stop p') (t : Turn σ) (ht : t.entries = entries)
    (hi : p.iterations + 1 = i) : Makes p (t :: turns) stop p' := by
  subst ht hi
  refine ⟨?_, h.isComplete, ?_⟩
  · have hiterations : p'.iterations = p.iterations + 1 + turns.length + unplanned stop :=
      h.iterations
    rw [hiterations, List.length_cons]
    omega
  · rw [h.history, List.flatMap_cons, ← List.append_assoc]
    rfl

/-- **A loop that comes through is a course,** by induction on the iterations left. -/
theorem exists_course {remaining : Nat} {p p' : Progress} {stop : StopReason}
    (hleft : remaining + i = c.maxIterations + 1) (hi : p.iterations + 1 = i)
    (hp : p.isComplete = false) (hr : r.SameItems e.registry)
    (h : loop c s remaining i p e = (.ok (stop, p'), e')) :
    ∃ turns, Course c s r i p.history e turns stop e' ∧ Makes p turns stop p' := by
  induction remaining generalizing i p e with
  | zero =>
    cases h
    refine ⟨[], .exhausted (by omega), ?_⟩
    exact ⟨by simp [unplanned], by simp [hp], by simp⟩
  | succ remaining ih =>
    have hmax : i ≤ c.maxIterations := by omega
    rw [loop_succ] at h
    obtain ⟨reply, e₁, hpropose, h⟩ := Run.bind_eq_ok.1 h
    have hr₁ := hr.trans (propose_sameItems hpropose)
    cases reply with
    | missing =>
      cases h
      refine ⟨[], .blocked hmax hpropose rfl, ?_⟩
      exact ⟨by simp [unplanned, ← hi], by simp [hp], by simp⟩
    | failed m =>
      cases h
      refine ⟨[], .blocked hmax hpropose rfl, ?_⟩
      exact ⟨by simp [unplanned, ← hi], by simp [hp], by simp⟩
    | done plan =>
      obtain ⟨⟨finished, entries⟩, e₂, hactions, h⟩ := Run.bind_eq_ok.1 h
      have hr₂ : r.SameItems e₂.registry :=
        hr₁.trans ((runActions_obeys registryLaw_admitsRuns s i 1 _).sameItems hactions)
      obtain ⟨reached, e₃, hjudge, h⟩ := Run.bind_eq_ok.1 h
      have hr₃ := hr₂.trans (judge_sameItems hjudge)
      have hturn := turn_happens hr hpropose hactions hjudge
      cases reached with
      | true =>
        cases h
        exact ⟨[_], .achieved hmax hturn rfl, makes_achieved _ rfl hi⟩
      | false =>
        have hnext : remaining + (i + 1) = c.maxIterations + 1 := by omega
        obtain ⟨turns, hcourse, hmakes⟩ := ih (p := advance p i plan.content entries)
          hnext rfl hp hr₃ h
        exact ⟨_ :: turns, .next hmax hturn rfl hcourse, hmakes.next _ rfl hi⟩

end Runs

/-! ### Outcomes -/

namespace Course

variable {c : PlanExecuteConfig} {s : Setting} {r : Registry σ} {e e' : Engine σ} {i : Nat}
  {history : List HistoryEntry} {turns : List (Turn σ)} {stop : StopReason}

/-- A course goes no further than the last iteration. -/
theorem length_le (h : Course c s r i history e turns stop e') :
    i + turns.length + unplanned stop ≤ c.maxIterations + 1 := by
  induction h with
  | exhausted hi => simp [unplanned, hi]
  | blocked hi _ _ => simpa [unplanned] using hi
  | achieved hi _ _ => simpa [unplanned] using hi
  | next _ _ _ _ ih =>
    rw [List.length_cons]
    omega

/-- Why a course stops. -/
theorem stop_eq (h : Course c s r i history e turns stop e') :
    stop = .goalAchieved ∨ (∃ reason, stop = .blocked reason) ∨
      (stop = .maxIterationsExceeded c.maxIterations ∧
        i + turns.length = c.maxIterations + 1) := by
  induction h with
  | exhausted hi => exact .inr (.inr ⟨rfl, hi⟩)
  | blocked _ _ _ => exact .inr (.inl ⟨_, rfl⟩)
  | achieved _ _ _ => exact .inl rfl
  | next _ _ _ _ ih =>
    refine ih.imp_right fun h => h.imp_right fun ⟨hstop, hi⟩ => ⟨hstop, ?_⟩
    rw [List.length_cons]
    omega

/-- The goal is reached in the last turn or in none. -/
theorem reached_iff (h : Course c s r i history e turns stop e') :
    (∀ t ∈ turns.dropLast, t.reached = false) ∧
      (stop = .goalAchieved ↔ ∃ t ∈ turns, t.reached = true) := by
  induction h with
  | exhausted _ => exact ⟨by simp, by simp⟩
  | blocked _ _ _ => exact ⟨by simp, by simp⟩
  | achieved _ _ ht => exact ⟨by simp, by simpa using ht⟩
  | @next _ _ t turns _ _ _ _ ht _ ih =>
    refine ⟨?_, by simpa [ht] using ih.2⟩
    intro u hu
    rcases turns with _ | ⟨t', turns⟩
    · simp at hu
    · rw [List.dropLast_cons_cons, List.mem_cons] at hu
      rcases hu with rfl | hu
      · exact ht
      · exact ih.1 u hu

/-- Each turn is the iteration that its place says. -/
theorem happens (h : Course c s r i history e turns stop e') {n : Nat} {t : Turn σ}
    (ht : turns[n]? = some t) :
    t.Happens c s r (i + n) (history ++ (turns.take n).flatMap (·.entries)) := by
  induction h generalizing n with
  | exhausted _ => simp at ht
  | blocked _ _ _ => simp at ht
  | achieved _ hhappens _ =>
    cases n with
    | zero =>
      obtain rfl := Option.some.inj ht
      simpa using hhappens
    | succ n => simp at ht
  | @next _ _ u turns _ _ _ hhappens _ _ ih =>
    cases n with
    | zero =>
      obtain rfl := Option.some.inj ht
      simpa using hhappens
    | succ n =>
      have := ih ht
      rwa [List.append_assoc, ← List.flatMap_cons, ← List.take_succ_cons, Nat.add_right_comm]
        at this

end Course

/-- All that is to be seen of a run that came through. -/
structure IsCourse (c : PlanExecuteConfig) (s : Setting) (e : Engine σ) (turns : List (Turn σ))
    (o : RunOutcome) (e' : Engine σ) : Prop where
  course : Course c s e.registry 1 [] { e with bindings := .empty } turns o.stop e'
  iterations_le : o.iterations ≤ c.maxIterations
  /-- Each iteration was a turn, but for one that got no plan. -/
  iterations : o.iterations = turns.length + unplanned o.stop
  stop : o.stop = .goalAchieved ∨ (∃ reason, o.stop = .blocked reason) ∨
    (o.stop = .maxIterationsExceeded c.maxIterations ∧ o.iterations = c.maxIterations)
  isComplete : o.isComplete = true ↔ o.stop = .goalAchieved
  history : o.history = turns.flatMap (·.entries)
  entries : ∀ (n : Nat) (t : Turn σ), turns[n]? = some t →
    t.Happens c s e.registry (n + 1) ((turns.take n).flatMap (·.entries)) ∧
      t.entries.map (fun x => (x.iteration, x.action)) = t.actions.map fun a => (n + 1, a)
  /-- Every turn but the last went without reaching the goal, -/
  unreached : ∀ t ∈ turns.dropLast, t.reached = false
  /-- and a turn that reaches it ends the run. -/
  achieved : o.stop = .goalAchieved ↔ ∃ t ∈ turns, t.reached = true
  finalAnswer : o.finalAnswer = (o.history.filter (·.isSuccess)).getLast?.bind (·.output)

/-- The answer is the output of the last success. -/
theorem finalAnswer_eq (history : List HistoryEntry) :
    finalAnswer history = (history.filter (·.isSuccess)).getLast?.bind (·.output) := by
  rw [finalAnswer, ← List.head?_filter, List.filter_reverse, List.head?_reverse]

/-- **A run by planning and executing.**  Whatever is registered and whatever collaborators
do, a run that comes through takes one turn for each iteration that gets a plan, and its
outcome is that of its turns. -/
theorem run_isCourse {c : PlanExecuteConfig} {s : Setting} {e e' : Engine σ} {o : RunOutcome}
    (h : run c s e = (.ok o, e')) : ∃ turns, IsCourse c s e turns o e' := by
  obtain ⟨_, e₀, hempty, h⟩ := Run.bind_eq_ok.1 h
  cases hempty
  obtain ⟨⟨stop, p⟩, e₁, hloop, h⟩ := Run.bind_eq_ok.1 h
  obtain ⟨_, _, hget, h⟩ := Run.bind_eq_ok.1 h
  cases hget
  cases h
  have hsame : e.registry.SameItems ({ e with bindings := .empty } : Engine σ).registry :=
    .refl e.registry
  obtain ⟨turns, hcourse, hmakes⟩ := exists_course rfl rfl rfl hsame hloop
  have hiterations : p.iterations = turns.length + unplanned stop := by
    rw [hmakes.iterations, Nat.zero_add]
  have hlength := hcourse.length_le
  have hstop : stop = .goalAchieved ∨ (∃ reason, stop = .blocked reason) ∨
      (stop = .maxIterationsExceeded c.maxIterations ∧ p.iterations = c.maxIterations) := by
    rcases hcourse.stop_eq with hstop | hstop | ⟨rfl, hi⟩
    · exact .inl hstop
    · exact .inr (.inl hstop)
    · have hall : unplanned (.maxIterationsExceeded c.maxIterations) = 0 := rfl
      exact .inr (.inr ⟨rfl, by omega⟩)
  have hle : p.iterations ≤ c.maxIterations := by omega
  refine ⟨turns, hcourse, hle, hiterations, hstop, hmakes.isComplete, hmakes.history, ?_,
    hcourse.reached_iff.1, hcourse.reached_iff.2, finalAnswer_eq _⟩
  intro n t ht
  have hhappens := hcourse.happens ht
  rw [Nat.add_comm 1 n, List.nil_append] at hhappens
  exact ⟨hhappens, hhappens.carried.entries⟩

open Workshop in
/-- The workshop's run comes through: what its planner has said is done in one turn. -/
theorem run_isCourse_workshop :
    ∃ o turns, (run {} setting engine).1 = .ok o ∧ o.stop = .goalAchieved ∧
      o.finalAnswer = some "hi" ∧
      IsCourse {} setting engine turns o (run {} setting engine).2 := by
  have hrun : run {} setting engine = (.ok _, (run {} setting engine).2) := Prod.ext rfl rfl
  obtain ⟨turns, hcourse⟩ := run_isCourse hrun
  exact ⟨_, turns, rfl, rfl, rfl, hcourse⟩

end PlanExecute
end Errand

/-
# What the roles are shown

SPEC_FULL.md, section 4.5, on the material that each role is given.

The strategies ask roles over and over, and show each the work done so far.  That work
grows while they run, so what a call shows depends on when it is made.

An account of a run goes through its log.  It says of every question whether a step put it
or the strategy, and of those that the strategy put which work was done by then: the
records of the iterations before, with or without that of the iteration itself
(`PlanExecute.Account`, `React.Account`).  Every run has an account
(`Strategy.run_logs`), and one that was cancelled the start of one.
-/

import Errand.Proofs.Run.Log
import Errand.Proofs.Run.PlanExecute
import Errand.Proofs.Run.React

namespace Errand

variable {σ : Type}

/-! ### Material -/

/-- The records of work done so far, as a role is shown them: an empty text for none, and
else their array as pretty JSON. -/
def shownRecords : List Json.Value → String
  | [] => ""
  | record :: records => (Json.Value.array (record :: records)).pretty

/-- What a strategy makes of its records is what roles are to be shown. -/
theorem historyText_eq (records : List Json.Value) :
    historyText records = shownRecords records := by
  cases records <;> rfl

/-! ### Calls of roles -/

/-- The log of a call that shows these sections of material: one question, if somebody is
registered for the role, and otherwise nothing. -/
inductive Consults (r : Registry σ) (role : Role) (shown : List (String × String)) :
    Log → Prop
  | missing : r.findFunction? role = none → Consults r role shown []
  | asked {i : Invocation} : (r.findFunction? role).isSome = true → i.Shows shown →
      Consults r role shown [.asked (.execute role i)]

/-- A role that is called is asked what it is to be shown, and nothing else is asked. -/
theorem callRole_consults (r : Registry σ) (role : Role) (shown : List (String × String))
    {i : Invocation} (h : i.Shows shown) :
    Run.Logs r (callRole role i) fun _ l => Consults r role shown l := by
  refine (callRole_logs r role i).mono fun _ l hl => ?_
  rw [hl, Registry.roleRequests]
  cases hfound : r.findFunction? role with
  | none => exact .missing hfound
  | some f => exact .asked (by rw [hfound]; rfl) h

namespace PlanExecute

/-- The section with the entries so far. -/
def shownHistory (history : List HistoryEntry) : String × String :=
  ("history", shownRecords (history.map HistoryEntry.written))

/-- The planner is shown the history, -/
theorem plannerInvocation_shows (goal : String) (i : Nat) (tools : String) (p : Progress) :
    (plannerInvocation goal i tools p).Shows [shownHistory p.history] := by
  simp [plannerInvocation, shownHistory, historyText_eq, Invocation.Shows]

/-- and so is the checker. -/
theorem checkerInvocation_shows (goal : String) (p : Progress) :
    (checkerInvocation goal p).Shows [shownHistory p.history] := by
  simp [checkerInvocation, shownHistory, historyText_eq, Invocation.Shows]

/-- The log of an iteration up to its plan. -/
inductive Proposed (r : Registry σ) (i : Nat) (earlier : List HistoryEntry) : Log → Prop
  | mk {planned : Log} : Consults r .planner [shownHistory earlier] planned →
      Proposed r i earlier (.told (.iterationStarted i) :: planned)

/-- The log of actions that were carried out from action `n` of iteration `i` on. -/
inductive Acted (r : Registry σ) (i : Nat) : (n : Nat) → List HistoryEntry → Log → Prop
  | nil {n : Nat} : Acted r i n [] []
  | cons {n : Nat} {a : Action} {x : StepResult} {entry : HistoryEntry} {notes log : Log}
      {entries : List HistoryEntry} : x.Reports (a.toStep n (stepDescription i n)) →
      (∀ k ∈ notes, StepNote r (a.toStep n (stepDescription i n)) k) → entry.Records i a x →
      Acted r i (n + 1) entries log →
      Acted r i n (entry :: entries)
        (.told (.actionChosen i a) :: (notes ++ .told (.stepCompleted x) :: log))

/-- **The account of a run** from iteration `i` on, up to iteration `last`, which adds the
entries `later` to those there were. -/
inductive Account (r : Registry σ) :
    (i last : Nat) → (earlier later : List HistoryEntry) → Log → Prop
  | ended {last : Nat} {earlier : List HistoryEntry} : Account r (last + 1) last earlier [] []
  /-- Without a plan the run stops. -/
  | blocked {i : Nat} {earlier : List HistoryEntry} {log : Log} : Proposed r i earlier log →
      Account r i i earlier [] log
  /-- Where the plan holds no finish, the checker is asked after the actions. -/
  | iteration {i last : Nat} {earlier entries later : List HistoryEntry}
      {proposed acted checked log : Log} : Proposed r i earlier proposed →
      Acted r i 1 entries acted →
      checked = [] ∨ Consults r .completionChecker [shownHistory (earlier ++ entries)] checked →
      Account r (i + 1) last (earlier ++ entries) later log →
      Account r i last earlier (entries ++ later) (proposed ++ (acted ++ (checked ++ log)))

variable (r : Registry σ)

/-- A proposal opens an iteration and consults the planner. -/
theorem propose_logs (s : Setting) (i : Nat) (earlier : List HistoryEntry) :
    Run.Logs r (propose s i earlier) fun _ l => Proposed r i earlier l := by
  refine (checkToken_logs r).bind fun _ l₀ h₀ => (send_logs r _).bind fun _ l₁ h₁ =>
    (catalogText_logs r).bind fun tools l₂ h₂ => ?_
  subst h₀ h₁ h₂
  exact (callRole_consults r _ _ (plannerInvocation_shows s.goal i tools _)).mono
    fun _ l hl => .mk hl

/-- Actions that are run are recorded one after another, each with what came of it. -/
theorem runActions_logs (s : Setting) (i n : Nat) (actions : List Action) :
    Run.Logs r (runActions s i n actions) fun x l => Acted r i n x.2 l := by
  induction actions generalizing n with
  | nil => exact .pure .nil
  | cons a rest ih =>
    rw [runActions, runAction_eq]
    split
    · exact .pure .nil
    · simp only [bind_assoc, pure_bind]
      refine (send_logs r _).bind fun _ l₁ h₁ => (now_logs r).bind fun started l₂ h₂ =>
        (runStep_logs r s _).bind fun x l₃ h₃ => (completion_logs r _ x).bind fun _ l₄ h₄ =>
        (now_logs r).bind fun ended l₅ h₅ => (ih (n + 1)).bind fun y l₆ h₆ => .pure ?_
      subst h₁ h₂ h₄ h₅
      simpa using Acted.cons h₃.1 h₃.2 (entryOf_records i a x (elapsedMillis started ended)) h₆

/-- Whoever judges a batch asks nobody, or the checker. -/
theorem judge_logs (c : PlanExecuteConfig) (s : Setting) (finished : Bool) (p : Progress) :
    Run.Logs r (judge c s finished p) fun _ l =>
      l = [] ∨ Consults r .completionChecker [shownHistory p.history] l := by
  unfold judge
  split
  · exact .pure (.inl rfl)
  · refine (callRole_consults r _ _ (checkerInvocation_shows s.goal p)).bind fun reply l hl => ?_
    cases reply <;> exact .pure (.inr (by rwa [List.append_nil]))

/-- **A loop has an account,** by induction on the iterations left. -/
theorem loop_logs (c : PlanExecuteConfig) (s : Setting) {remaining i : Nat} {p : Progress}
    (hi : p.iterations + 1 = i) :
    Run.Logs r (loop c s remaining i p) fun x l => ∃ later, x.2.history = p.history ++ later ∧
      Account r i x.2.iterations p.history later l := by
  induction remaining generalizing i p with
  | zero =>
    subst hi
    exact .pure ⟨[], (List.append_nil _).symm, .ended⟩
  | succ remaining ih =>
    rw [loop_succ]
    refine (propose_logs r s i p.history).bind fun reply l₁ h₁ => ?_
    cases reply with
    | missing => exact .pure ⟨[], (List.append_nil _).symm, .blocked (by rwa [List.append_nil])⟩
    | failed e => exact .pure ⟨[], (List.append_nil _).symm, .blocked (by rwa [List.append_nil])⟩
    | done o =>
      refine (runActions_logs r s i 1 _).bind fun carried l₂ h₂ => ?_
      obtain ⟨finished, entries⟩ := carried
      refine (judge_logs r c s finished _).bind fun reached l₃ h₃ => ?_
      split
      · refine .pure ⟨entries, rfl, ?_⟩
        have hlast : Account r i i p.history (entries ++ []) (l₁ ++ (l₂ ++ (l₃ ++ []))) :=
          .iteration h₁ h₂ h₃ .ended
        rwa [List.append_nil] at hlast
      · refine (ih (p := advance p i o.content entries) rfl).mono fun x l hl => ?_
        obtain ⟨later, hhistory, haccount⟩ := hl
        refine ⟨entries ++ later, ?_, .iteration h₁ h₂ h₃ haccount⟩
        rw [hhistory, ← List.append_assoc]
        rfl

end PlanExecute

namespace React

/-- The section with the cycles so far. -/
def shownCycles (cycles : List Cycle) : String × String :=
  ("history", shownRecords (cycles.map Cycle.written))

/-- The reasoner is shown the cycles, -/
theorem historyInvocation_shows (goal : String) (p : Progress) :
    (historyInvocation goal p).Shows [shownCycles p.cycles] := by
  simp [historyInvocation, cyclesText, shownCycles, historyText_eq, Invocation.Shows]

/-- and the planner the thought besides. -/
theorem plannerInvocation_shows (goal tools thought : String) (p : Progress) :
    (plannerInvocation goal tools thought p).Shows
      [shownCycles p.cycles, ("thought", thought)] := by
  simp [plannerInvocation, cyclesText, shownCycles, historyText_eq, Invocation.Shows]

/-- The parameters of the summarizer hide nothing. -/
theorem summarizerInvocation_shows (goal : String) (p : Progress) (e : LoopEnd) :
    (summarizerInvocation goal p e).Shows [shownCycles p.cycles] := by
  unfold summarizerInvocation
  cases e.answer <;> exact historyInvocation_shows goal p

/-- The log of a cycle up to its decision. -/
inductive Deliberated (r : Registry σ) (i : Nat) (earlier : List Cycle) (thought : String) :
    Log → Prop
  | mk {reasoned decided : Log} : Consults r .reasoner [shownCycles earlier] reasoned →
      Consults r .actionPlanner [shownCycles earlier, ("thought", thought)] decided →
      Deliberated r i earlier thought
        (.told (.iterationStarted i) :: (reasoned ++ .told (.thought i thought) :: decided))

/-- The log of an action that was carried out, and of what was observed of it. -/
inductive Performed (r : Registry σ) (i : Nat) (thought : String) (a : Action)
    (observed : String) : Log → Prop
  | mk {x : StepResult} {notes : Log} : x.Reports (a.toStep i thought) →
      (∀ k ∈ notes, StepNote r (a.toStep i thought) k) → x.ObservedAs observed →
      Performed r i thought a observed (.told (.actionChosen i a) ::
        (notes ++ [.told (.stepCompleted x), .told (.observation i observed)]))

/-- The log of asking whether the goal is reached, after iteration `i`. -/
def Checked (c : ReactConfig) (r : Registry σ) (i : Nat) (cycles : List Cycle) (log : Log) :
    Prop :=
  if c.goalCheckMinCycles ≤ i then Consults r .completionChecker [shownCycles cycles] log
  else log = []

/-- **The account of a run** from iteration `i` on, up to iteration `last`, which adds the
cycles `later` to those there were. -/
inductive Account (c : ReactConfig) (r : Registry σ) :
    (i last : Nat) → (earlier later : List Cycle) → StopReason → Log → Prop
  | ended {last : Nat} {earlier : List Cycle} {stop : StopReason} : stop ≠ .finished →
      Account c r (last + 1) last earlier [] stop []
  | finished {i : Nat} {earlier : List Cycle} {thought : String} {log : Log} :
      Deliberated r i earlier thought log → Account c r i i earlier [] .finished log
  | cycle {i last : Nat} {earlier later : List Cycle} {thought observed : String} {a : Action}
      {stop : StopReason} {deliberated performed checked log : Log} :
      Deliberated r i earlier thought deliberated → Performed r i thought a observed performed →
      Checked c r i (earlier ++ [⟨i, thought, a, observed⟩]) checked →
      Account c r (i + 1) last (earlier ++ [⟨i, thought, a, observed⟩]) later stop log →
      Account c r i last earlier (⟨i, thought, a, observed⟩ :: later) stop
        (deliberated ++ (performed ++ (checked ++ log)))

variable (r : Registry σ)

/-- A deliberation opens an iteration and consults the reasoner, then the planner. -/
theorem deliberate_logs (s : Setting) (i : Nat) (earlier : List Cycle) :
    Run.Logs r (deliberate s i earlier) fun x l => Deliberated r i earlier x.1 l := by
  have think_logs : Run.Logs r (think s { cycles := earlier }) fun _ l =>
      Consults r .reasoner [shownCycles earlier] l := by
    exact (callRole_consults r _ _ (historyInvocation_shows s.goal _)).bind_pure fun _ _ hl => hl
  have decide_logs (thought : String) : Run.Logs r (decide s { cycles := earlier } thought)
      fun _ l => Consults r .actionPlanner [shownCycles earlier, ("thought", thought)] l := by
    refine (catalogText_logs r).bind fun tools l₁ h₁ =>
      (callRole_consults r _ _ (plannerInvocation_shows s.goal tools thought _)).bind
        fun reply l hl => ?_
    subst h₁
    cases reply <;> exact .pure (by rwa [List.append_nil])
  refine (checkToken_logs r).bind fun _ l₀ h₀ => (send_logs r _).bind fun _ l₁ h₁ =>
    think_logs.bind fun thought l₂ h₂ => (send_logs r _).bind fun _ l₃ h₃ =>
    (decide_logs thought).bind fun decision l₄ h₄ => .pure ?_
  subst h₀ h₁ h₃
  simpa using Deliberated.mk h₂ h₄

/-- An action that is carried out is told with what is observed of it. -/
theorem carryOut_logs (s : Setting) (i : Nat) (thought : String) (a : Action) :
    Run.Logs r (carryOut s i thought a) fun observed l => Performed r i thought a observed l := by
  rw [carryOut, act_eq]
  simp only [bind_assoc, pure_bind]
  refine (send_logs r _).bind fun _ l₁ h₁ => (runStep_logs r s _).bind fun x l₂ h₂ =>
    (completion_logs r _ x).bind fun _ l₃ h₃ => (send_logs r _).bind fun _ l₄ h₄ => .pure ?_
  subst h₁ h₃ h₄
  simpa using Performed.mk h₂.1 h₂.2 (observationOf_observed x)

/-- Whoever checks a cycle consults the checker about the cycles up to it. -/
theorem check_logs (c : ReactConfig) (s : Setting) (i : Nat) (p : Progress) :
    Run.Logs r (check c s i p) fun _ l => Checked c r i p.cycles l := by
  unfold check Checked
  split
  · exact (callRole_consults r _ _ (historyInvocation_shows s.goal p)).bind_pure fun _ _ hl => hl
  · exact .pure rfl

/-- **A loop has an account,** by induction on the cycles left. -/
theorem loop_logs (c : ReactConfig) (s : Setting) {remaining i : Nat} {p : Progress}
    (hi : p.iterations + 1 = i) :
    Run.Logs r (loop c s remaining i p) fun x l => ∃ later, x.2.cycles = p.cycles ++ later ∧
      Account c r i x.2.iterations p.cycles later x.1.stop l := by
  induction remaining generalizing i p with
  | zero =>
    subst hi
    exact .pure ⟨[], (List.append_nil _).symm, .ended (by simp)⟩
  | succ remaining ih =>
    rw [loop_succ]
    refine (deliberate_logs r s i p.cycles).bind fun decided l₁ h₁ => ?_
    obtain ⟨thought, decision⟩ := decided
    cases decision with
    | finish answer explicit =>
      exact .pure ⟨[], (List.append_nil _).symm, .finished (by rwa [List.append_nil])⟩
    | act a =>
      refine (carryOut_logs r s i thought a).bind fun observed l₂ h₂ => ?_
      refine (check_logs r c s i _).bind fun reached l₃ h₃ => ?_
      split
      · refine .pure ⟨[⟨i, thought, a, observed⟩], rfl, ?_⟩
        exact .cycle h₁ h₂ h₃ (.ended (by simp))
      · let cycle : Cycle := ⟨i, thought, a, observed⟩
        refine (ih (p := addCycle { p with iterations := i } cycle) rfl).mono fun y l hl => ?_
        obtain ⟨later, hcycles, haccount⟩ := hl
        refine ⟨cycle :: later, ?_, .cycle h₁ h₂ h₃ haccount⟩
        rw [hcycles]
        simp [addCycle]

/-- Whoever summarizes consults the summarizer about all cycles. -/
theorem summarize_logs (s : Setting) (p : Progress) (e : LoopEnd) :
    Run.Logs r (summarize s p e) fun _ l =>
      Consults r .summarizer [shownCycles p.cycles] l :=
  (callRole_consults r _ _ (summarizerInvocation_shows s.goal p e)).bind_pure fun _ _ hl => hl

end React

/-! ### Runs -/

/-- The log of a whole run that came to an outcome. -/
def Strategy.Accounts (c : Config) (r : Registry σ) : Strategy → RunOutcome → Log → Prop
  | .planExecute, o, log => PlanExecute.Account r 1 o.iterations [] o.history log
  | .react, o, log => ∃ cycles summary, log = cycles ++ summary ∧
      React.Account c.react r 1 o.iterations [] o.cycles o.stop cycles ∧
      Consults r .summarizer [React.shownCycles o.cycles] summary

/-- **Every run has an account.** -/
theorem Strategy.run_logs (r : Registry σ) (c : Config) (dialect : Schema.Dialect)
    (goal : String) (wantsChunks : Bool) (strategy : Strategy) :
    Run.Logs r (strategy.run c dialect goal wantsChunks) (strategy.Accounts c r) := by
  have hempty : Run.Logs r (Run.modify fun e => { e with bindings := .empty }) fun _ l => l = [] :=
    modify_logs r (fun _ => rfl) (fun _ => rfl) fun _ => rfl
  cases strategy with
  | planExecute =>
    refine hempty.bind fun _ l₀ h₀ => (PlanExecute.loop_logs r _ _ (p := {}) rfl).bind
      fun ended l hl => ?_
    obtain ⟨stop, p⟩ := ended
    obtain ⟨later, hhistory, haccount⟩ := hl
    refine (get_logs r).bind fun _ l₁ h₁ => .pure ?_
    subst h₀ h₁
    obtain rfl : later = p.history := hhistory.symm
    simp only [List.nil_append, List.append_nil]
    exact haccount
  | react =>
    refine hempty.bind fun _ l₀ h₀ => (React.loop_logs r _ _ (p := {}) rfl).bind
      fun ended l hl => ?_
    obtain ⟨ending, p⟩ := ended
    obtain ⟨later, hcycles, haccount⟩ := hl
    refine (React.summarize_logs r _ p ending).bind fun answer l₁ h₁ =>
      (get_logs r).bind fun _ l₂ h₂ => .pure ?_
    subst h₀ h₂
    obtain rfl : later = p.cycles := hcycles.symm
    exact ⟨l, l₁, by simp, haccount, h₁⟩

namespace Workshop

/-- What the foreman wants said. -/
def say : Action := ⟨.tool, "echo", some (.string "hi"), some "said"⟩

/-- What the foreman wants squeezed. -/
def squeeze : Action := ⟨.tool, "press", none, none⟩

/-- A planner that has these actions carried out, and is done in the iteration after. -/
def foreman (actions : List Action) : ModelFunction Unit where
  role := .planner
  streams := false
  execute i := fun w =>
    let wanted := if i.parameters = [("iteration", .ofNat 1)] then actions else [.finish]
    (.answered (.structured (.array (wanted.map Action.toJson))), w)
  openStream _ := fun w => (.unanswered, w)

/-- The engine that has a foreman. -/
def busyEngine (actions : List Action) : Engine Unit where
  world := ⟨(), 0, false⟩
  registry := ((({} : Registry Unit).registerTool echo).registerTool press).registerFunction
    (foreman actions)

end Workshop

end Errand

/-
# What a run leaves is read back

SPEC_FULL.md, section 3 (StrategyOutcome).

Whichever strategy runs, whatever is registered and whatever collaborators do, the outcome of a
run that comes through is plain: its actions were read from replies, which never give null for
parameters, its iterations are no more than were allowed, and times are counted no further than
they can be written.  Each iteration preserves this of the progress (`Progress.IsPlain`), and so
by induction a whole loop does.

A plain outcome is read back from its JSON.  Whether it was a success is said three times over,
by a flag, by the reason for stopping and by the lack of an error, and the three agree
(`Strategy.run_readsBack`).
-/

import Errand.Proofs.Outcome
import Errand.Proofs.Reply.Actions
import Errand.Proofs.Run.PlanExecute
import Errand.Proofs.Run.React

namespace Errand

variable {σ : Type}

/-! ### Progress -/

/-- The outcome of such progress can be read back. -/
structure Progress.IsPlain (p : Progress) : Prop where
  iterations : p.iterations < Nat.pow 2 32
  history : ∀ entry ∈ p.history, entry.IsPlain
  cycles : ∀ cycle ∈ p.cycles, cycle.IsPlain

/-- Progress is plain at the start, -/
theorem Progress.isPlain_start : ({} : Progress).IsPlain :=
  ⟨by decide, by simp, by simp⟩

/-- and gives a plain outcome while it stays so. -/
theorem Progress.IsPlain.outcome {p : Progress} (h : p.IsPlain) {stop : StopReason}
    (hstop : stop.Fits) (finalAnswer : Option String) (b : Bindings) :
    (p.outcome stop finalAnswer b).IsPlain :=
  ⟨h.iterations, hstop, h.history, h.cycles⟩

/-- Time is counted no further than it can be written. -/
theorem elapsedMillis_lt (started ended : Instant) :
    elapsedMillis started ended < Nat.pow 2 64 := by
  have hmax : maxMilliseconds < Nat.pow 2 64 := by decide
  exact lt_of_le_of_lt (Nat.min_le_right _ _) hmax

/-! ### Planning and executing -/

namespace PlanExecute

/-- The entries of readable actions are plain. -/
theorem runActions_yields (s : Setting) {i : Nat} (hi : i < Nat.pow 2 32) {actions : List Action}
    (hactions : ∀ a ∈ actions, a.IsReadable) (n : Nat) :
    Run.Yields (runActions s i n actions : Run σ (Bool × List HistoryEntry)) fun x =>
      ∀ entry ∈ x.2, entry.IsPlain := by
  induction actions generalizing n with
  | nil => exact .pure (by simp)
  | cons a rest ih =>
    obtain ⟨ha, hrest⟩ := List.forall_mem_cons.1 hactions
    have haction : Run.Yields (runAction s i n a : Run σ HistoryEntry) HistoryEntry.IsPlain := by
      rw [runAction_eq]
      exact Run.Yields.bind fun _ => Run.Yields.bind fun started => Run.Yields.bind fun r =>
        Run.Yields.bind fun _ => Run.Yields.bind fun ended =>
        .pure ⟨hi, ha.given, elapsedMillis_lt started ended⟩
    rw [runActions]
    split
    · exact .pure (by simp)
    · refine haction.bind_of fun entry hentry => (ih hrest (n + 1)).bind_of fun x hx => .pure ?_
      exact List.forall_mem_cons.2 ⟨hentry, hx⟩

/-- **An iteration keeps the progress plain.** -/
theorem isPlain_advance {p : Progress} (hp : p.IsPlain) {i : Nat} (hi : i < Nat.pow 2 32)
    (plan : Json.Value) {entries : List HistoryEntry}
    (hentries : ∀ entry ∈ entries, entry.IsPlain) : (advance p i plan entries).IsPlain :=
  ⟨hi, List.forall_mem_append.2 ⟨hp.history, hentries⟩, hp.cycles⟩

/-- **A loop keeps the progress plain,** by induction on the iterations left. -/
theorem loop_yields {c : PlanExecuteConfig} (s : Setting) (hmax : c.maxIterations < Nat.pow 2 32)
    {remaining i : Nat} (hleft : remaining + i = c.maxIterations + 1) {p : Progress}
    (hp : p.IsPlain) :
    Run.Yields (loop c s remaining i p : Run σ (StopReason × Progress)) fun x =>
      x.1.Fits ∧ x.2.IsPlain := by
  induction remaining generalizing i p with
  | zero =>
    refine .pure ⟨?_, hp⟩
    rintro _ ⟨⟩
    exact hmax
  | succ remaining ih =>
    have hi : i < Nat.pow 2 32 := by omega
    have hblocked : ({ p with iterations := i } : Progress).IsPlain := ⟨hi, hp.history, hp.cycles⟩
    rw [loop_succ]
    refine Run.Yields.bind fun reply => ?_
    cases reply with
    | missing => exact .pure ⟨nofun, hblocked⟩
    | failed e => exact .pure ⟨nofun, hblocked⟩
    | done o =>
      refine (runActions_yields s hi (fun a ha => (Reply.Asks.listed ha).isReadable) 1).bind_of
        fun carried hcarried => Run.Yields.bind fun reached => ?_
      have hnext := isPlain_advance hp hi o.content hcarried
      split
      · exact .pure ⟨nofun, hnext.iterations, hnext.history, hnext.cycles⟩
      · exact ih (by omega) hnext

end PlanExecute

/-! ### Reasoning and acting -/

namespace React

/-- An action that is decided on is readable. -/
theorem deliberate_yields (s : Setting) (i : Nat) (cycles : List Cycle) :
    Run.Yields (deliberate s i cycles : Run σ (String × Reply.Decision)) fun x =>
      ∀ a, x.2 = .act a → a.IsReadable := by
  have hdecide (thought : String) : Run.Yields
      (decide s { cycles } thought : Run σ Reply.Decision) fun d => ∀ a, d = .act a →
        a.IsReadable := by
    refine Run.Yields.bind fun tools => Run.Yields.bind fun reply => ?_
    cases reply with
    | missing => exact .pure nofun
    | failed e => exact .pure nofun
    | done o => exact .pure fun a ha => (Reply.Asks.decided ha).isReadable
  exact Run.Yields.bind fun _ => Run.Yields.bind fun _ => Run.Yields.bind fun thought =>
    Run.Yields.bind fun _ => (hdecide thought).bind_of fun d hd => .pure hd

/-- **A cycle keeps the progress plain.** -/
theorem isPlain_addCycle {p : Progress} (hp : p.IsPlain) {cycle : Cycle} (hcycle : cycle.IsPlain) :
    (addCycle { p with iterations := cycle.iteration } cycle).IsPlain :=
  ⟨hcycle.iteration, hp.history,
    List.forall_mem_append.2 ⟨hp.cycles, List.forall_mem_singleton.2 hcycle⟩⟩

/-- **A loop keeps the progress plain,** by induction on the cycles left. -/
theorem loop_yields {c : ReactConfig} (s : Setting) (hmax : c.maxIterations < Nat.pow 2 32)
    {remaining i : Nat} (hleft : remaining + i = c.maxIterations + 1) {p : Progress}
    (hp : p.IsPlain) :
    Run.Yields (loop c s remaining i p : Run σ (LoopEnd × Progress)) fun x =>
      x.1.stop.Fits ∧ x.2.IsPlain := by
  induction remaining generalizing i p with
  | zero =>
    refine .pure ⟨?_, hp⟩
    rintro _ ⟨⟩
    exact hmax
  | succ remaining ih =>
    have hi : i < Nat.pow 2 32 := by omega
    rw [loop_succ]
    refine (deliberate_yields s i p.cycles).bind_of fun decided hdecided => ?_
    obtain ⟨thought, decision⟩ := decided
    cases decision with
    | finish answer explicit => exact .pure ⟨nofun, hi, hp.history, hp.cycles⟩
    | act a =>
      refine Run.Yields.bind fun observation => Run.Yields.bind fun reached => ?_
      have hcycle : Cycle.IsPlain ⟨i, thought, a, observation⟩ := ⟨hi, (hdecided a rfl).given⟩
      have hnext := isPlain_addCycle hp hcycle
      split
      · exact .pure ⟨nofun, hnext.iterations, hnext.history, hnext.cycles⟩
      · exact ih (by omega) hnext

end React

/-! ### Whole runs -/

/-- What an outcome says of its success, in three ways, is one thing. -/
structure RunOutcome.Agrees (o : RunOutcome) : Prop where
  stop : o.isSuccess = true ↔ o.stop = .goalAchieved ∨ o.stop = .finished
  error : o.isSuccess = true ↔ o.errorMessage = none
  /-- Where there is an error, it is that of the reason for stopping. -/
  message : o.errorMessage = o.stop.errorMessage

/-- The flags of an outcome agree with its stop. -/
theorem Progress.outcome_agrees (p : Progress) (stop : StopReason) (finalAnswer : Option String)
    (b : Bindings) : (p.outcome stop finalAnswer b).Agrees := by
  cases stop <;> constructor <;> simp [outcome, StopReason.isError, StopReason.errorMessage]

namespace Strategy

/-- How many iterations a strategy may take. -/
def maxIterations (c : Config) : Strategy → Nat
  | planExecute => c.planExecute.maxIterations
  | react => c.react.maxIterations

/-- **Every outcome of a run is plain and agrees with itself.**. -/
theorem run_yields {c : Config} {strategy : Strategy}
    (hmax : strategy.maxIterations c < Nat.pow 2 32) (dialect : Schema.Dialect) (goal : String)
    (wantsChunks : Bool) :
    Run.Yields (strategy.run c dialect goal wantsChunks : Run σ RunOutcome) fun o =>
      o.IsPlain ∧ o.Agrees := by
  cases strategy with
  | planExecute =>
    refine Run.Yields.bind fun _ =>
      (PlanExecute.loop_yields _ hmax rfl Progress.isPlain_start).bind_of fun x hx => ?_
    obtain ⟨stop, p⟩ := x
    exact Run.Yields.bind fun e => .pure ⟨hx.2.outcome hx.1 _ _, p.outcome_agrees _ _ _⟩
  | react =>
    refine Run.Yields.bind fun _ =>
      (React.loop_yields _ hmax rfl Progress.isPlain_start).bind_of fun x hx => ?_
    obtain ⟨ending, p⟩ := x
    exact Run.Yields.bind fun answer => Run.Yields.bind fun e =>
      .pure ⟨hx.2.outcome hx.1 _ _, p.outcome_agrees _ _ _⟩

/-- **What a run leaves is read back,** and agrees with itself. -/
theorem run_readsBack {c : Config} {dialect : Schema.Dialect} {goal : String}
    {wantsChunks : Bool} {strategy : Strategy} {e e' : Engine σ} {o : RunOutcome}
    (hmax : strategy.maxIterations c < Nat.pow 2 32)
    (h : strategy.run c dialect goal wantsChunks e = (.ok o, e')) :
    RunOutcome.ofJson o.toJson = .ok o ∧ o.Agrees := by
  obtain ⟨hplain, hagrees⟩ := run_yields hmax dialect goal wantsChunks e o (by rw [h])
  exact ⟨RunOutcome.ofJson_toJson hplain, hagrees⟩

open React in
/-- The hypotheses of `run_readsBack` are satisfiable: two cycles of the studio are read back,
and the error says what the reason for stopping does. -/
theorem run_readsBack_studio : ∃ o e',
    react.run { react := Studio.config } .common "g" false Studio.engine = (.ok o, e') ∧
      maxIterations { react := Studio.config } react < Nat.pow 2 32 ∧
      (o.stop, o.cycles.length, o.errorMessage) =
        (.maxIterationsExceeded 2, 2, some "maximum iterations exceeded (2)") ∧
      RunOutcome.ofJson o.toJson = .ok o ∧ o.Agrees := by
  have hmax : maxIterations { react := Studio.config } react < Nat.pow 2 32 := by decide
  have hseen :
      ((react.run { react := Studio.config } .common "g" false Studio.engine).1.toOption.map
        fun o => (o.stop, o.cycles.length, o.errorMessage)) =
        some (.maxIterationsExceeded 2, 2, some "maximum iterations exceeded (2)") := by
    decide +kernel
  rcases hrun : react.run { react := Studio.config } .common "g" false Studio.engine
    with ⟨_ | o, e'⟩ <;> rw [hrun] at hseen
  · cases hseen
  · exact ⟨o, e', rfl, hmax, Option.some.inj hseen, run_readsBack hmax hrun⟩

end Strategy
end Errand

/-
# What an observer is told

SPEC_FULL.md, section 11.4 (Run events).

The events of a run come in blocks, one for each iteration, and each says in order what
the iteration did.  `PlanExecute.Tells` and `React.Tells` are the languages of the two
strategies: a sequence of events belongs to them together with the entries or the cycles
that it tells of, so nothing is told that is not in the outcome, and nothing of the outcome
is left untold.

The events of a run are those of its log, and its account has them in this order
(`Strategy.run_tells`).
-/

import Errand.Proofs.Run.Account

namespace Errand

variable {σ : Type}

/-- The events of a call of a role: none. -/
theorem Consults.events {r : Registry σ} {role : Role} {shown : List (String × String)}
    {log : Log} (h : Consults r role shown log) : log.events = [] := by
  cases h <;> rfl

/-- Pieces of the streamed reply of a step. -/
def AreChunks (number : Nat) (events : List Event) : Prop :=
  ∀ ev ∈ events, ∃ text, ev = .chunk number text

/-- The result is that of step `n`, which carried this action out. -/
structure StepResult.Answers (x : StepResult) (n : Nat) (a : Action) : Prop where
  stepNumber : x.stepNumber = n
  targetName : x.targetName = a.name
  outputVariable : x.outputVariable = a.outputVariable

/-- The result of an action's step answers the action. -/
theorem StepResult.Reports.answers {x : StepResult} {n : Nat} {a : Action} {description : String}
    (h : x.Reports (a.toStep n description)) : x.Answers n a :=
  ⟨h.stepNumber, h.targetName, h.outputVariable⟩

/-- A step tells of its chunks and of nothing else. -/
theorem areChunks_of_stepNotes {r : Registry σ} {step : Step} {notes : Log}
    (h : ∀ n ∈ notes, StepNote r step n) : AreChunks step.stepNumber notes.events := by
  intro ev hev
  obtain ⟨n, hn, hevent⟩ := List.mem_filterMap.1 hev
  cases h n hn with
  | chunk text =>
    cases hevent
    exact ⟨text, rfl⟩
  | tool => cases hevent
  | generator => cases hevent
  | function => cases hevent

namespace PlanExecute

/-- The events of the actions of iteration `i` from action `n` on, and their entries. -/
inductive Batch (i : Nat) : (n : Nat) → List HistoryEntry → List Event → Prop
  | nil {n : Nat} : Batch i n [] []
  | action {n : Nat} {a : Action} {x : StepResult} {entry : HistoryEntry}
      {chunks events : List Event} {entries : List HistoryEntry} : x.Answers n a →
      entry.Records i a x → AreChunks n chunks → Batch i (n + 1) entries events →
      Batch i n (entry :: entries)
        (.actionChosen i a :: (chunks ++ .stepCompleted x :: events))

/-- **What a run tells** from iteration `i` on, up to iteration `last`, of the entries it
makes. -/
inductive Tells : (i last : Nat) → List HistoryEntry → List Event → Prop
  | ended {last : Nat} : Tells (last + 1) last [] []
  | blocked {i : Nat} : Tells i i [] [.iterationStarted i]
  | iteration {i last : Nat} {entries later : List HistoryEntry} {batch events : List Event} :
      Batch i 1 entries batch → Tells (i + 1) last later events →
      Tells i last (entries ++ later) (.iterationStarted i :: (batch ++ events))

variable {r : Registry σ}

/-- A proposal tells of its iteration, -/
theorem Proposed.events {i : Nat} {earlier : List HistoryEntry} {log : Log}
    (h : Proposed r i earlier log) : log.events = [.iterationStarted i] := by
  obtain ⟨hplanned⟩ := h
  rw [Log.events_cons_told, hplanned.events]

/-- and the entries of the actions that follow tell what came of each. -/
theorem Acted.batch {i n : Nat} {entries : List HistoryEntry} {log : Log}
    (h : Acted r i n entries log) : Batch i n entries log.events := by
  induction h with
  | nil => exact .nil
  | cons hx hnotes hentry _ ih =>
    rw [Log.events_cons_told, Log.events_append, Log.events_cons_told]
    exact .action hx.answers hentry (areChunks_of_stepNotes hnotes) ih

/-- **An account tells of its entries,** iteration by iteration. -/
theorem Account.tells {i last : Nat} {earlier later : List HistoryEntry} {log : Log}
    (h : Account r i last earlier later log) : Tells i last later log.events := by
  induction h with
  | ended => exact .ended
  | blocked hproposed =>
    rw [hproposed.events]
    exact .blocked
  | iteration hproposed hacted hchecked _ ih =>
    have hquiet := hchecked.elim (fun hnot => by rw [hnot, Log.events_nil]) Consults.events
    rw [Log.events_append, Log.events_append, Log.events_append, hproposed.events, hquiet,
      List.nil_append, List.singleton_append]
    exact .iteration hacted.batch ih

end PlanExecute

namespace React

/-- **What a run tells** from iteration `i` on, up to iteration `last`, of the cycles it
goes through and of why it stops. -/
inductive Tells : (i last : Nat) → List Cycle → StopReason → List Event → Prop
  | ended {last : Nat} {stop : StopReason} : stop ≠ .finished → Tells (last + 1) last [] stop []
  /-- A run that finishes does so with a thought. -/
  | finished {i : Nat} {thought : String} :
      Tells i i [] .finished [.iterationStarted i, .thought i thought]
  | cycle {i last : Nat} {thought observed : String} {a : Action} {x : StepResult}
      {chunks events : List Event} {later : List Cycle} {stop : StopReason} :
      x.Answers i a → x.ObservedAs observed → AreChunks i chunks →
      Tells (i + 1) last later stop events →
      Tells i last (⟨i, thought, a, observed⟩ :: later) stop
        ([.iterationStarted i, .thought i thought, .actionChosen i a] ++ chunks ++
          [.stepCompleted x, .observation i observed] ++ events)

variable {r : Registry σ}

/-- A deliberation tells of its iteration and the thought, -/
theorem Deliberated.events {i : Nat} {earlier : List Cycle} {thought : String} {log : Log}
    (h : Deliberated r i earlier thought log) :
    log.events = [.iterationStarted i, .thought i thought] := by
  obtain ⟨hreasoned, hdecided⟩ := h
  rw [Log.events_cons_told, Log.events_append, Log.events_cons_told, hreasoned.events,
    hdecided.events]
  rfl

/-- and what is carried out tells of the action, its result and what is observed. -/
theorem Performed.events {i : Nat} {thought observed : String} {a : Action} {log : Log}
    (h : Performed r i thought a observed log) :
    ∃ x, x.Answers i a ∧ x.ObservedAs observed ∧ ∃ chunks, AreChunks i chunks ∧
      log.events = .actionChosen i a :: (chunks ++
        [.stepCompleted x, .observation i observed]) := by
  obtain ⟨hx, hnotes, hobserved⟩ := h
  exact ⟨_, hx.answers, hobserved, _, areChunks_of_stepNotes hnotes, by simp⟩

/-- A check tells nothing. -/
theorem Checked.events {c : ReactConfig} {i : Nat} {cycles : List Cycle} {log : Log}
    (h : Checked c r i cycles log) : log.events = [] := by
  unfold Checked at h
  split at h
  · exact h.events
  · rw [h]
    rfl

/-- **An account tells of its cycles,** one after another. -/
theorem Account.tells {c : ReactConfig} {i last : Nat} {earlier later : List Cycle}
    {stop : StopReason} {log : Log} (h : Account c r i last earlier later stop log) :
    Tells i last later stop log.events := by
  induction h with
  | ended hstop => exact .ended hstop
  | finished hdeliberated =>
    rw [hdeliberated.events]
    exact .finished
  | @cycle i last _ later thought observed a stop _ _ _ _ hdeliberated hperformed hchecked _ ih =>
    obtain ⟨x, hx, hobserved, chunks, hchunks, hperformed⟩ := hperformed.events
    have htold : Tells i last (⟨i, thought, a, observed⟩ :: later) stop _ :=
      .cycle hx hobserved hchunks ih
    rw [Log.events_append, Log.events_append, Log.events_append, hdeliberated.events, hperformed,
      hchecked.events]
    simpa using htold

end React

/-- What a whole run tells of its outcome. -/
def Strategy.Tells : Strategy → RunOutcome → List Event → Prop
  | .planExecute, o, events => PlanExecute.Tells 1 o.iterations o.history events
  | .react, o, events => React.Tells 1 o.iterations o.cycles o.stop events

/-- So the account of a run tells what its outcome tells. -/
theorem Strategy.Accounts.tells {c : Config} {r : Registry σ} {strategy : Strategy}
    {o : RunOutcome} {log : Log} (h : strategy.Accounts c r o log) :
    strategy.Tells o log.events := by
  cases strategy with
  | planExecute => exact PlanExecute.Account.tells h
  | react =>
    obtain ⟨cycles, summary, rfl, haccount, hsummary⟩ := h
    have hevents : (cycles ++ summary).events = cycles.events := by
      rw [Log.events_append, hsummary.events, List.append_nil]
    rw [hevents]
    exact haccount.tells

/-- **An observer is told the outcome in order.**  From whatever engine a strategy runs, the
events it sends tell of exactly the entries or cycles of its outcome; if the run is
cancelled, they are the start of events that tell of an outcome. -/
theorem Strategy.run_tells (c : Config) (dialect : Schema.Dialect) (goal : String)
    (wantsChunks : Bool) (strategy : Strategy) (e : Engine σ) :
    ∃ sent, (strategy.run c dialect goal wantsChunks e).2.events = e.events ++ sent ∧
      match (strategy.run c dialect goal wantsChunks e).1 with
      | .ok o => strategy.Tells o sent
      | .error _ => ∃ o all, strategy.Tells o all ∧ sent <+: all := by
  obtain ⟨log, hnoted, hfits, -⟩ :=
    Strategy.run_logs e.registry c dialect goal wantsChunks strategy e (.refl e.registry)
  refine ⟨log.events, hnoted.events, ?_⟩
  rcases hx : (strategy.run c dialect goal wantsChunks e).1 with _ | o <;> rw [hx] at hfits
  · obtain ⟨o, rest, haccounts⟩ := hfits
    refine ⟨o, (log ++ rest).events, haccounts.tells, ?_⟩
    rw [Log.events_append]
    exact List.prefix_append _ _
  · exact Strategy.Accounts.tells hfits

open Workshop in
/-- The observer of the workshop is told of both actions in order, and the entries of the
outcome hold what became of them. -/
theorem Strategy.run_tells_workshop :
    ∃ o sent, (planExecute.run {} .common "g" false (busyEngine [say, squeeze])).1 = .ok o ∧
      o.history = [⟨1, say, true, some "hi", none, 0⟩,
        ⟨1, squeeze, false, none, some "tool press failed: jammed", 0⟩] ∧
      sent = [.iterationStarted 1, .actionChosen 1 say,
        .stepCompleted ⟨1, "iteration 1, action 1", "echo", true, some "hi", none, 0, some "said",
          some "hi"⟩,
        .actionChosen 1 squeeze,
        .stepCompleted ⟨2, "iteration 1, action 2", "press", false, none,
          some "tool press failed: jammed", 0, none, none⟩,
        .iterationStarted 2] ∧
      PlanExecute.Tells 1 o.iterations o.history sent := by
  have hseen : ((planExecute.run {} .common "g" false (busyEngine [say, squeeze])).1.toOption.map
      (·.history)) = some [⟨1, say, true, some "hi", none, 0⟩,
        ⟨1, squeeze, false, none, some "tool press failed: jammed", 0⟩] := by decide +kernel
  have hevents : (planExecute.run {} .common "g" false (busyEngine [say, squeeze])).2.events =
      [.iterationStarted 1, .actionChosen 1 say,
        .stepCompleted ⟨1, "iteration 1, action 1", "echo", true, some "hi", none, 0, some "said",
          some "hi"⟩,
        .actionChosen 1 squeeze,
        .stepCompleted ⟨2, "iteration 1, action 2", "press", false, none,
          some "tool press failed: jammed", 0, none, none⟩,
        .iterationStarted 2] := by decide +kernel
  have htold := run_tells {} .common "g" false planExecute (busyEngine [say, squeeze])
  generalize planExecute.run {} .common "g" false (busyEngine [say, squeeze]) = ended
    at hseen hevents htold ⊢
  obtain ⟨sent, hsent, htells⟩ := htold
  obtain ⟨_ | o, e'⟩ := ended
  · cases hseen
  · have hnothing : (busyEngine [say, squeeze]).events = [] := rfl
    rw [hnothing, List.nil_append] at hsent
    exact ⟨o, sent, rfl, Option.some.inj hseen, hsent.symm.trans hevents, htells⟩

end Errand

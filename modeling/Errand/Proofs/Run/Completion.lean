/-
# Steps and their completion

A step's result tells which step it is of (`runStep_reports`).  Whoever runs the step
completes it: an event carries the result, and if it is a success its output is bound
under the variable that the result names (`completion`).

Plan runs and goal runs consist of steps, completions, other events and calls of
roles.  `runPlan_obeys` and `Strategy.body_obeys` say so in terms of laws: a law that
allows these is kept by every whole run.
-/

import Errand.Proofs.Run.Law

namespace Errand

/-- The result carries the identity of the step. -/
structure StepResult.Reports (r : StepResult) (step : Step) : Prop where
  stepNumber : r.stepNumber = step.stepNumber
  description : r.description = step.description
  targetName : r.targetName = step.targetName
  outputVariable : r.outputVariable = step.outputVariable

section Results

variable {σ : Type} (step : Step)

/-- A failure reports the step, -/
theorem failure_reports (error : String) : (StepResult.failure step error).Reports step :=
  ⟨rfl, rfl, rfl, rfl⟩

/-- and so do the result of a tool. -/
theorem resultOfTool_reports (o : ToolOutput) : (resultOfTool step o).Reports step :=
  ⟨rfl, rfl, rfl, rfl⟩

/-- and that of a function. -/
theorem resultOfFunction_reports (o : FunctionOutput) :
    (resultOfFunction step o).Reports step := by
  unfold resultOfFunction
  dsimp only
  split <;> exact ⟨rfl, rfl, rfl, rfl⟩

/-- Whatever the target, the result reports the step, -/
theorem runTarget_reports (s : Setting) (parameters : Option String) (target : Target σ) :
    Run.Yields (runTarget s step parameters target) (·.Reports step) := by
  cases target with
  | tool t =>
    refine Run.Yields.bind fun answer => ?_
    cases answer with
    | ok o => exact .pure (resultOfTool_reports step o)
    | error f => exact .pure (failure_reports step _)
  | function f =>
    unfold runTarget runFunction
    dsimp only
    split <;> exact Run.Yields.bind fun o => .pure (resultOfFunction_reports step o)

/-- and so it does when the target had to be found first. -/
theorem runStepUntimed_reports (s : Setting) :
    Run.Yields (runStepUntimed s step : Run σ StepResult) (·.Reports step) := by
  refine Run.Yields.bind fun target? => ?_
  cases target? with
  | none => exact .pure (failure_reports step _)
  | some target =>
    refine Run.Yields.bind fun outcome => ?_
    cases outcome with
    | failed error => exact .pure (failure_reports step _)
    | bound parameters =>
      refine (runTarget_reports step s parameters target).bind_of fun r hr => ?_
      exact .pure ⟨hr.stepNumber, hr.description, hr.targetName, hr.outputVariable⟩

/-- **Every result is that of its step,** whatever failed. -/
theorem runStep_reports (s : Setting) :
    Run.Yields (runStep s step : Run σ StepResult) (·.Reports step) := by
  refine Run.Yields.bind fun started => ?_
  refine (runStepUntimed_reports step s).bind_of fun r hr => Run.Yields.bind fun ended => ?_
  exact .pure ⟨hr.stepNumber, hr.description, hr.targetName, hr.outputVariable⟩

end Results

/-! ### Whole runs -/

/-- Tell of a step's result, and bind its output under a variable if it succeeded. -/
def completion {σ : Type} (variableName : Option String) (r : StepResult) : Run σ Unit := do
  Run.send (.stepCompleted r)
  if r.isSuccess then bindOutput variableName r.output

/-- What follows a completion may be seen as following its two branches. -/
theorem completion_bind {σ β : Type} (variableName : Option String) (r : StepResult)
    (k : Unit → Run σ β) :
    completion variableName r >>= k = (do
      Run.send (.stepCompleted r)
      if r.isSuccess then bindOutput variableName r.output >>= k else k ()) := by
  unfold completion
  rw [bind_assoc]
  refine bind_congr fun _ => ?_
  split
  · rfl
  · exact pure_bind () k

/-- Whether an event tells of the completion of a step. -/
def Event.isCompletion : Event → Bool
  | .stepCompleted _ => true
  | _ => false

/-- What whole runs need a law to allow beyond what their steps need: other events,
and completions as a whole. -/
structure Law.AdmitsRuns {σ : Type} (L : Law σ) : Prop extends L.Admits fun _ => True where
  send : ∀ ev : Event, ev.isCompletion = false → Run.Obeys L (Run.send ev)
  completion : ∀ {r : StepResult} {variableName : Option String},
    r.outputVariable = variableName → Run.Obeys L (completion variableName r)

section Runs

variable {σ : Type} {L : Law σ}

/-- A step keeps to a law that admits runs, -/
theorem step_obeys (A : L.AdmitsRuns) (s : Setting) (step : Step) :
    Run.Obeys L (runStep s step) :=
  runStep_obeys A.toAdmits s step fun _ => trivial

/-- A failed step's completion is the event alone. -/
theorem completion_of_failure {variableName : Option String} {r : StepResult}
    (h : r.isSuccess = false) :
    (completion variableName r : Run σ Unit) = Run.send (.stepCompleted r) := by
  unfold completion
  simp [h]

/-- A successful step's completion is the event and the binding. -/
theorem completion_of_success {variableName : Option String} {r : StepResult}
    (h : r.isSuccess = true) :
    (completion variableName r : Run σ Unit) = (do
      Run.send (.stepCompleted r)
      bindOutput variableName r.output) := by
  unfold completion
  simp [h]

theorem runSteps_cons (s : Setting) (step : Step) (rest : List Step) :
    (runSteps s (step :: rest) : Run σ _) = (do
      Run.checkToken
      let r ← runStep s step
      completion step.outputVariable r
      if r.isSuccess then
        let (rs, error) ← runSteps s rest
        return (r :: rs, error)
      else return ([r], some (stepFailedMessage step.stepNumber r))) := by
  rw [runSteps]
  refine bind_congr fun _ => bind_congr fun r => ?_
  cases h : r.isSuccess with
  | false => simp [completion_of_failure h]
  | true => simp [completion_of_success h]

/-- and so do steps one after another, -/
theorem runSteps_obeys (A : L.AdmitsRuns) (s : Setting) :
    ∀ steps : List Step, Run.Obeys L (runSteps s steps)
  | [] => .pure _
  | step :: rest => by
    rw [runSteps_cons]
    refine A.checkToken.bind fun _ => (step_obeys A s step).bind_of (runStep_reports step s) ?_
    intro r hr
    refine (A.completion hr.outputVariable).bind fun _ => ?_
    split
    · exact (runSteps_obeys A s rest).bind fun _ => .pure _
    · exact .pure _

/-- and a plan. -/
theorem runPlan_obeys (A : L.AdmitsRuns) (s : Setting) (p : Plan) :
    Run.Obeys L (runPlan s p) := by
  unfold runPlan
  split
  · exact .pure _
  · exact Run.Obeys.now.bind fun _ => (runSteps_obeys A s _).bind fun _ =>
      Run.Obeys.now.bind fun _ => .pure _

/-- The call of a role keeps to the law, -/
theorem callRole_obeys (A : L.AdmitsRuns) (role : Role) (i : Invocation) :
    Run.Obeys L (callRole role i) := by
  refine (A.lookupFunction role).bind fun f? => ?_
  cases f? with
  | none => exact .pure _
  | some f =>
    refine (A.ask _ trivial).bind fun answer => ?_
    cases answer <;> exact .pure _

/-- and so do a look at the catalog, -/
theorem catalogText_obeys : Run.Obeys L catalogText := Run.Obeys.get.bind fun _ => .pure _

/-- The entry is that of an action of iteration `i` and of what became of its step. -/
structure HistoryEntry.Records (entry : HistoryEntry) (i : Nat) (a : Action) (x : StepResult) :
    Prop where
  iteration : entry.iteration = i
  action : entry.action = a
  isSuccess : entry.isSuccess = x.isSuccess
  output : entry.output = x.output
  errorMessage : entry.errorMessage = x.errorMessage

namespace PlanExecute

/-- An entry is made of the action and the result it is made from, however long it took. -/
theorem entryOf_records (i : Nat) (a : Action) (x : StepResult) (millis : Nat) :
    (entryOf i a x millis).Records i a x := ⟨rfl, rfl, rfl, rfl, rfl⟩

/-- An action is a step between two looks at the clock. -/
theorem runAction_eq (s : Setting) (iteration n : Nat) (a : Action) :
    (runAction s iteration n a : Run σ HistoryEntry) = (do
      Run.send (.actionChosen iteration a)
      let started ← Run.now
      let r ← runStep s (a.toStep n (stepDescription iteration n))
      completion a.outputVariable r
      let ended ← Run.now
      return entryOf iteration a r (elapsedMillis started ended)) := by
  simp only [runAction, completion_bind]

/-- an action, -/
theorem runAction_obeys (A : L.AdmitsRuns) (s : Setting) (iteration n : Nat) (a : Action) :
    Run.Obeys L (runAction s iteration n a) := by
  rw [runAction_eq]
  refine (A.send _ rfl).bind fun _ => Run.Obeys.now.bind fun _ =>
    (step_obeys A s _).bind_of (runStep_reports _ s) ?_
  exact fun r hr => (A.completion hr.outputVariable).bind fun _ =>
    Run.Obeys.now.bind fun _ => .pure _

/-- actions one after another, -/
theorem runActions_obeys (A : L.AdmitsRuns) (s : Setting) (iteration : Nat) :
    ∀ (n : Nat) (actions : List Action), Run.Obeys L (runActions s iteration n actions)
  | _, [] => .pure _
  | n, a :: rest => by
    rw [runActions]
    split
    · exact .pure _
    · exact (runAction_obeys A s iteration n a).bind fun _ =>
        (runActions_obeys A s iteration (n + 1) rest).bind fun _ => .pure _

/-- and the question whether all is done. -/
theorem isComplete_obeys (A : L.AdmitsRuns) (c : PlanExecuteConfig) (s : Setting)
    (p : Progress) : Run.Obeys L (isComplete c s p) := by
  refine (callRole_obeys A _ _).bind fun reply => ?_
  cases reply <;> exact .pure _

/-- By induction on the iterations left. -/
theorem loop_obeys (A : L.AdmitsRuns) (c : PlanExecuteConfig) (s : Setting) :
    ∀ (remaining i : Nat) (p : Progress), Run.Obeys L (loop c s remaining i p)
  | 0, _, _ => .pure _
  | remaining + 1, i, p => by
    refine A.checkToken.bind fun _ => (A.send _ rfl).bind fun _ =>
      catalogText_obeys.bind fun tools => (callRole_obeys A _ _).bind fun reply => ?_
    cases reply with
    | missing => exact .pure _
    | failed e => exact .pure _
    | done o =>
      refine (runActions_obeys A s i 1 _).bind fun done => ?_
      dsimp only
      split
      · exact .pure _
      · refine (isComplete_obeys A c s _).bind fun reached => ?_
        split
        · exact .pure _
        · exact loop_obeys A c s remaining (i + 1) _

end PlanExecute

/-- What is to be observed of a step: what it put out, or why it failed. -/
inductive StepResult.ObservedAs (x : StepResult) : String → Prop
  | output {text : String} : x.isSuccess = true → x.output = some text →
      Text.isBlankText text = false → ObservedAs x text
  /-- Where there is nothing to be seen, this is said. -/
  | quiet : x.isSuccess = true → (∀ text, x.output = some text → Text.isBlankText text = true) →
      ObservedAs x "(no output)"
  | failed {message : String} : x.isSuccess = false → x.errorMessage = some message →
      Text.isBlankText message = false → ObservedAs x ("Error: " ++ message)
  /-- So it is of a failure without a reason. -/
  | silent : x.isSuccess = false →
      (∀ message, x.errorMessage = some message → Text.isBlankText message = true) →
      ObservedAs x "Error: step reported failure"

namespace React

/-- What a run observes of a step is what there is to be observed. -/
theorem observationOf_observed (x : StepResult) : x.ObservedAs (observationOf x) := by
  unfold observationOf
  cases hx : x.isSuccess with
  | false =>
    rw [Bool.not_false, if_pos rfl, StepResult.errorText]
    cases hm : x.errorMessage with
    | none => exact .silent hx (by simp [hm])
    | some m =>
      cases hblank : Text.isBlankText m with
      | false => simpa [hblank] using StepResult.ObservedAs.failed hx hm hblank
      | true =>
        have hsilent : x.ObservedAs "Error: step reported failure" :=
          .silent hx (by simp [hm, hblank])
        simpa [hblank] using hsilent
  | true =>
    rw [Bool.not_true, if_neg Bool.false_ne_true]
    cases ho : x.output with
    | none => exact .quiet hx (by simp [ho])
    | some text =>
      cases hblank : Text.isBlankText text with
      | false => simpa [hblank] using StepResult.ObservedAs.output hx ho hblank
      | true =>
        have hquiet : x.ObservedAs "(no output)" := .quiet hx (by simp [ho, hblank])
        simpa [hblank] using hquiet

/-- A thought keeps to the law, -/
theorem think_obeys (A : L.AdmitsRuns) (s : Setting) (p : Progress) :
    Run.Obeys L (think s p) := (callRole_obeys A _ _).bind fun _ => .pure _

/-- and so do a decision, -/
theorem decide_obeys (A : L.AdmitsRuns) (s : Setting) (p : Progress) (thought : String) :
    Run.Obeys L (decide s p thought) := by
  refine catalogText_obeys.bind fun tools => (callRole_obeys A _ _).bind fun reply => ?_
  cases reply <;> exact .pure _

theorem act_eq (s : Setting) (iteration : Nat) (thought : String) (a : Action) :
    (act s iteration thought a : Run σ String) = (do
      let r ← runStep s (a.toStep iteration thought)
      completion a.outputVariable r
      return observationOf r) := by
  simp only [act, completion_bind]

/-- what is done about it, -/
theorem act_obeys (A : L.AdmitsRuns) (s : Setting) (iteration : Nat) (thought : String)
    (a : Action) : Run.Obeys L (act s iteration thought a) := by
  rw [act_eq]
  refine (step_obeys A s _).bind_of (runStep_reports _ s) fun r hr => ?_
  exact (A.completion hr.outputVariable).bind fun _ => .pure _

/-- the question whether that was all, -/
theorem isComplete_obeys (A : L.AdmitsRuns) (c : ReactConfig) (s : Setting) (p : Progress) :
    Run.Obeys L (isComplete c s p) := (callRole_obeys A _ _).bind fun _ => .pure _

/-- By induction on the cycles left. -/
theorem loop_obeys (A : L.AdmitsRuns) (c : ReactConfig) (s : Setting) :
    ∀ (remaining i : Nat) (p : Progress), Run.Obeys L (loop c s remaining i p)
  | 0, _, _ => .pure _
  | remaining + 1, i, p => by
    refine A.checkToken.bind fun _ => (A.send _ rfl).bind fun _ =>
      (think_obeys A s _).bind fun thought => (A.send _ rfl).bind fun _ =>
      (decide_obeys A s _ thought).bind fun decision => ?_
    cases decision with
    | finish answer explicit => exact .pure _
    | act action =>
      refine (A.send _ rfl).bind fun _ => (act_obeys A s i thought action).bind fun observation =>
        (A.send _ rfl).bind fun _ => ?_
      have next (p : Progress) (reached : Bool) : Run.Obeys L (if reached = true
          then pure (⟨.goalAchieved, none⟩, { p with isComplete := true })
          else loop c s remaining (i + 1) p) := by
        split
        · exact .pure _
        · exact loop_obeys A c s remaining (i + 1) p
      dsimp only
      split
      · exact (isComplete_obeys A c s _).bind fun reached => next _ reached
      · exact next _ false

/-- and the summary. -/
theorem summarize_obeys (A : L.AdmitsRuns) (s : Setting) (p : Progress) (e : LoopEnd) :
    Run.Obeys L (summarize s p e) := (callRole_obeys A _ _).bind fun _ => .pure _

end React

/-- What a goal run does once its bindings are empty. -/
def Strategy.body (c : Config) (dialect : Schema.Dialect) (goal : String)
    (wantsChunks : Bool) : Strategy → Run σ RunOutcome
  | planExecute => do
    let (stop, p) ← PlanExecute.loop c.planExecute (c.setting dialect goal wantsChunks)
      c.planExecute.maxIterations 1 {}
    return p.outcome stop (PlanExecute.finalAnswer p.history) (← Run.get).bindings
  | react => do
    let (e, p) ← React.loop c.react (c.setting dialect goal wantsChunks) c.react.maxIterations 1 {}
    let answer ← React.summarize (c.setting dialect goal wantsChunks) p e
    return p.outcome e.stop answer (← Run.get).bindings

/-- A goal run is its body, run on the engine without bindings. -/
theorem Strategy.run_eq (c : Config) (dialect : Schema.Dialect) (goal : String)
    (wantsChunks : Bool) (strategy : Strategy) (e : Engine σ) :
    strategy.run c dialect goal wantsChunks e =
      strategy.body c dialect goal wantsChunks { e with bindings := .empty } := by
  cases strategy <;> rfl

/-- **Strategies keep to every law that admits runs.**. -/
theorem Strategy.body_obeys (A : L.AdmitsRuns) (c : Config) (dialect : Schema.Dialect)
    (goal : String) (wantsChunks : Bool) (strategy : Strategy) :
    Run.Obeys L (strategy.body c dialect goal wantsChunks) := by
  cases strategy with
  | planExecute =>
    exact (PlanExecute.loop_obeys A _ _ _ _ _).bind fun _ => Run.Obeys.get.bind fun _ => .pure _
  | react =>
    exact (React.loop_obeys A _ _ _ _ _).bind fun _ => (React.summarize_obeys A _ _ _).bind
      fun _ => Run.Obeys.get.bind fun _ => .pure _

end Runs
end Errand

/-
# The course of reasoning and acting

SPEC_FULL.md, section 4.5 (ReAct).

A cycle begins with a thought and a decision (`deliberate`).  If an action was decided on,
it is carried out and observed (`carryOut`), which completes the cycle, and from some
cycle on the checker is asked whether the goal is reached.  `Lap` keeps what each of these
came to, what was asked during the step, and the engine between them.

A run that comes through is a course of laps (`Course`), after which the summarizer is
called.  Everything an outcome says, and how often checker and summarizer were called, is
read off the laps (`IsJourney`).  The registry never changes, so whether they are
registered is settled before the run.
-/

import Errand.Proofs.Run.Bindings
import Errand.Proofs.Run.RoleCalls

namespace Errand

open Json (Value Members)

namespace React

variable {σ : Type}

/-- Begin a cycle: tell of it, think, and decide. -/
def deliberate (s : Setting) (i : Nat) (cycles : List Cycle) :
    Run σ (String × Reply.Decision) := do
  Run.checkToken
  Run.send (.iterationStarted i)
  let thought ← think s { cycles }
  Run.send (.thought i thought)
  let decision ← decide s { cycles } thought
  return (thought, decision)

/-- Carry an action out, and tell of it. -/
def carryOut (s : Setting) (i : Nat) (thought : String) (a : Action) : Run σ String := do
  Run.send (.actionChosen i a)
  let observation ← act s i thought a
  Run.send (.observation i observation)
  return observation

/-- Whether the goal is reached, if it is time to ask. -/
def check (c : ReactConfig) (s : Setting) (i : Nat) (p : Progress) : Run σ Bool :=
  if c.goalCheckMinCycles ≤ i then isComplete c s p else pure false

/-- **One iteration,** and those after it. -/
theorem loop_succ (c : ReactConfig) (s : Setting) (remaining i : Nat) (p : Progress) :
    (loop c s (remaining + 1) i p : Run σ (LoopEnd × Progress)) = (do
      let (thought, decision) ← deliberate s i p.cycles
      match decision with
      | .finish answer explicit =>
        return (⟨.finished, answer⟩, { p with iterations := i, isComplete := explicit })
      | .act action =>
        let observation ← carryOut s i thought action
        let p := addCycle { p with iterations := i } ⟨i, thought, action, observation⟩
        let reached ← check c s i p
        if reached then return (⟨.goalAchieved, none⟩, { p with isComplete := true })
        else loop c s remaining (i + 1) p) := by
  rw [loop, deliberate]
  simp only [bind_assoc, pure_bind]
  refine bind_congr fun _ => bind_congr fun _ => bind_congr fun thought => bind_congr fun _ =>
    bind_congr fun decision => ?_
  cases decision with
  | finish answer explicit => rfl
  | act action =>
    simp only [carryOut, bind_assoc, pure_bind]
    refine bind_congr fun _ => bind_congr fun observation => bind_congr fun _ => ?_
    unfold check
    split
    · rfl
    · rw [pure_bind]

/-! ### What is asked -/

/-- What a cycle asks before its decision is there. -/
def deliberationRequests (s : Setting) (r : Registry σ) (cycles : List Cycle)
    (thought : String) : List Request :=
  r.roleRequests .reasoner (historyInvocation s.goal { cycles }) ++
    r.roleRequests .actionPlanner (plannerInvocation s.goal r.catalog.render thought { cycles })

/-- The action names the function of a role as its target. -/
def Names (r : Registry σ) (a : Action) (role : Role) : Prop :=
  ∃ f, (r.resolve a.name).1 = some (.function f) ∧ f.role = role

section Asked

variable {c : ReactConfig} {s : Setting} {r : Registry σ} {e e' : Engine σ} {i : Nat}
  {cycles : List Cycle}

/-- A thought asks the reasoner, -/
theorem think_asked {p : Progress} {thought : String} (hr : r.SameItems e.registry)
    (h : think s p e = (.ok thought, e')) :
    e.Asked (r.roleRequests .reasoner (historyInvocation s.goal p)) e' := by
  obtain ⟨reply, _, hcall, h⟩ := Run.bind_eq_ok.1 h
  cases h
  exact (callRole_eq_ok hr hcall).asked

/-- a decision asks the planner, -/
theorem decide_asked {p : Progress} {thought : String} {decision : Reply.Decision}
    (hr : r.SameItems e.registry) (h : decide s p thought e = (.ok decision, e')) :
    e.Asked (r.roleRequests .actionPlanner (plannerInvocation s.goal r.catalog.render thought p))
      e' := by
  obtain ⟨tools, _, htools, h⟩ := Run.bind_eq_ok.1 h
  cases htools
  obtain ⟨reply, _, hcall, h⟩ := Run.bind_eq_ok.1 h
  rw [hr.catalog] at hcall
  have hasked := (callRole_eq_ok hr hcall).asked
  cases reply <;> cases h <;> exact hasked

/-- and a deliberation asks both. -/
theorem deliberate_asked {thought : String} {decision : Reply.Decision}
    (hr : r.SameItems e.registry)
    (h : deliberate s i cycles e = (.ok (thought, decision), e')) :
    e.Asked (deliberationRequests s r cycles thought) e' := by
  unfold deliberate at h
  obtain ⟨_, e₁, htoken, h⟩ := Run.bind_eq_ok.1 h
  have hr₁ := hr.trans (registryLaw_admitsRuns.checkToken.sameItems htoken)
  obtain ⟨_, e₂, hsend, h⟩ := Run.bind_eq_ok.1 h
  have hr₂ := hr₁.trans ((registryLaw_admitsRuns.send _ rfl).sameItems hsend)
  obtain ⟨thought', e₃, hthink, h⟩ := Run.bind_eq_ok.1 h
  have hreasoner := think_asked hr₂ hthink
  have hr₃ := hr₂.trans ((think_obeys registryLaw_admitsRuns s _).sameItems hthink)
  obtain ⟨_, e₄, hsend', h⟩ := Run.bind_eq_ok.1 h
  have hr₄ := hr₃.trans ((registryLaw_admitsRuns.send _ rfl).sameItems hsend')
  obtain ⟨decision', e₅, hdecide, h⟩ := Run.bind_eq_ok.1 h
  have hplanner := decide_asked hr₄ hdecide
  cases h
  exact (checkToken_asked htoken).trans ((send_asked hsend).trans (hreasoner.trans
    ((send_asked hsend').trans hplanner)))

/-- Carrying an action out asks a function only if the action names it, or for
parameters. -/
theorem carryOut_asked {thought observation : String} {a : Action}
    (hr : r.SameItems e.registry)
    (h : carryOut s i thought a e = (.ok observation, e')) :
    ∃ stepped, e.Asked stepped e' ∧ ∀ q ∈ stepped, ∀ role, q.role? = some role →
      role = .parameterGenerator ∨ Names r a role := by
  unfold carryOut at h
  obtain ⟨_, e₁, hsend, h⟩ := Run.bind_eq_ok.1 h
  have hr₁ := hr.trans ((registryLaw_admitsRuns.send _ rfl).sameItems hsend)
  obtain ⟨observation', e₂, hact, h⟩ := Run.bind_eq_ok.1 h
  rw [act_eq] at hact
  obtain ⟨x, e₃, hstep, hact⟩ := Run.bind_eq_ok.1 hact
  obtain ⟨u, e₄, hcompletion, hact⟩ := Run.bind_eq_ok.1 hact
  cases hact
  obtain ⟨_, e₅, hsend', h⟩ := Run.bind_eq_ok.1 h
  cases h
  obtain ⟨asked, hjournal, hasks⟩ := runStep_asks s (a.toStep i thought) e₁
  rw [hstep] at hjournal
  refine ⟨asked.map (·.request), ?_, ?_⟩
  · have hstepped : e₁.Asked (asked.map (·.request)) e₃ := ⟨asked, hjournal, rfl⟩
    have hquiet := (completion_asked hcompletion).trans (send_asked hsend')
    have := (send_asked hsend).trans (hstepped.trans hquiet)
    simpa using this
  · intro q hq role hrole
    obtain ⟨y, hy, rfl⟩ := List.mem_map.1 hq
    have hy := hasks y hy
    generalize y.request = request at hy hrole
    cases hy with
    | tool _ _ => cases hrole
    | generator _ _ => exact .inl (Option.some.inj hrole).symm
    | @function f _ htarget hf =>
      rw [hf] at hrole
      exact .inr ⟨f, (hr₁.resolve_fst _).symm.trans htarget, Option.some.inj hrole⟩

end Asked

/-! ### Laps -/

/-- What a checker's reply says of the goal.  Without a readable verdict, the observation
has to mention a keyword. -/
def saysYes (c : ReactConfig) (observation : String) (reply : RoleReply) : Prop :=
  match (reply.output?.map FunctionOutput.content).bind Reply.verdict? with
  | some verdict => verdict = true
  | none => Goal.isMentioned observation c.goalKeywords = true

/-- An iteration that completed a cycle, and the engine between its parts. -/
structure Lap (σ : Type) where
  /-- The cycles before. -/
  earlier : List Cycle
  start : Engine σ
  decided : Engine σ
  cycle : Cycle
  /-- What was asked during the step. -/
  stepped : List Request
  observed : Engine σ
  /-- Whether the goal is reached. -/
  reached : Bool
  finish : Engine σ

namespace Lap

/-- The cycles up to this one. -/
def cycles (l : Lap σ) : List Cycle := l.earlier ++ [l.cycle]

/-- What is asked to learn whether the goal is reached. -/
def checkRequests (c : ReactConfig) (s : Setting) (r : Registry σ) (l : Lap σ) : List Request :=
  if c.goalCheckMinCycles ≤ l.cycle.iteration then
    r.roleRequests .completionChecker (historyInvocation s.goal { cycles := l.cycles })
  else []

/-- Everything that is asked. -/
def requests (c : ReactConfig) (s : Setting) (r : Registry σ) (l : Lap σ) : List Request :=
  deliberationRequests s r l.earlier l.cycle.thought ++ (l.stepped ++ l.checkRequests c s r)

/-- The lap is iteration `i` of a run. -/
structure Happens (c : ReactConfig) (s : Setting) (r : Registry σ) (i : Nat) (l : Lap σ) :
    Prop where
  iteration : l.cycle.iteration = i
  decided : deliberate s i l.earlier l.start =
    (.ok (l.cycle.thought, .act l.cycle.action), l.decided)
  observed : carryOut s i l.cycle.thought l.cycle.action l.decided =
    (.ok l.cycle.observation, l.observed)
  early : i < c.goalCheckMinCycles → l.reached = false ∧ l.finish = l.observed
  judged : c.goalCheckMinCycles ≤ i → ∃ reply,
    CalledRole r .completionChecker (historyInvocation s.goal { cycles := l.cycles })
      l.observed reply l.finish ∧ (l.reached = true ↔ saysYes c l.cycle.observation reply)
  asked : l.start.Asked (l.requests c s r) l.finish
  named : ∀ q ∈ l.stepped, ∀ role, q.role? = some role →
    role = .parameterGenerator ∨ Names r l.cycle.action role

end Lap

/-- **The course of a run** from iteration `i` on, up to its summary.  The flag tells
whether the run finished by an explicit decision. -/
inductive Course (c : ReactConfig) (s : Setting) (r : Registry σ) :
    (i : Nat) → List Cycle → Engine σ → List (Lap σ) → LoopEnd → (explicit : Bool) →
      Engine σ → Prop
  | exhausted {i : Nat} {cycles : List Cycle} {e : Engine σ} : i = c.maxIterations + 1 →
      Course c s r i cycles e [] ⟨.maxIterationsExceeded c.maxIterations, none⟩ false e
  | finished {i : Nat} {cycles : List Cycle} {e e' : Engine σ} {thought : String}
      {answer : Option String} {explicit : Bool} : i ≤ c.maxIterations →
      deliberate s i cycles e = (.ok (thought, .finish answer explicit), e') →
      e.Asked (deliberationRequests s r cycles thought) e' →
      Course c s r i cycles e [] ⟨.finished, answer⟩ explicit e'
  | achieved {i : Nat} {l : Lap σ} : i ≤ c.maxIterations → l.Happens c s r i →
      l.reached = true →
      Course c s r i l.earlier l.start [l] ⟨.goalAchieved, none⟩ false l.finish
  | next {i : Nat} {l : Lap σ} {laps : List (Lap σ)} {ending : LoopEnd} {explicit : Bool}
      {e' : Engine σ} : i ≤ c.maxIterations → l.Happens c s r i → l.reached = false →
      Course c s r (i + 1) l.cycles l.finish laps ending explicit e' →
      Course c s r i l.earlier l.start (l :: laps) ending explicit e'

/-! ### Runs are courses -/

/-- How many iterations of a run completed no cycle. -/
def incomplete : StopReason → Nat
  | .finished => 1
  | _ => 0

/-- What is shared of a run is its last cycle. -/
structure Shares (shared : Members) (cycles : List Cycle) : Prop where
  lastRecord : shared.find? "last_record" = cycles.getLast?.map Cycle.toJson
  lastObservation : shared.find? "last_observation" =
    cycles.getLast?.map fun cycle => .string cycle.observation

/-- What the laps of a course make of the progress. -/
structure Makes (p : Progress) (laps : List (Lap σ)) (stop : StopReason) (explicit : Bool)
    (p' : Progress) : Prop where
  iterations : p'.iterations = p.iterations + laps.length + incomplete stop
  isComplete : p'.isComplete = true ↔ stop = .goalAchieved ∨ (stop = .finished ∧ explicit = true)
  cycles : p'.cycles = p.cycles ++ laps.map (·.cycle)
  shared : Shares p'.shared p'.cycles

section Runs

variable {c : ReactConfig} {s : Setting} {r : Registry σ} {e e' : Engine σ} {i : Nat}

/-- A cycle that is added is shared. -/
theorem shares_addCycle (p : Progress) (cycle : Cycle) :
    Shares (addCycle p cycle).shared (addCycle p cycle).cycles := by
  have hlast : (addCycle p cycle).cycles.getLast? = some cycle := List.getLast?_concat
  have hne : "last_observation" ≠ "last_record" := by decide
  constructor
  · rw [hlast]
    exact Members.find?_insert_self _ _ _
  · rw [hlast]
    exact (Members.find?_insert_of_ne hne _ _).trans (Members.find?_insert_self _ _ _)

/-- A deliberation leaves the registry its items, -/
theorem deliberate_sameItems {cycles : List Cycle} {x : Except Cancelled (String × Reply.Decision)}
    (h : deliberate s i cycles e = (x, e')) : e.registry.SameItems e'.registry := by
  refine Run.Obeys.sameItems ?_ h
  unfold deliberate
  exact registryLaw_admitsRuns.checkToken.bind fun _ =>
    (registryLaw_admitsRuns.send _ rfl).bind fun _ =>
    (think_obeys registryLaw_admitsRuns s _).bind fun _ =>
    (registryLaw_admitsRuns.send _ rfl).bind fun _ =>
    (decide_obeys registryLaw_admitsRuns s _ _).bind fun _ => .pure _

/-- so does what is carried out, -/
theorem carryOut_sameItems {thought : String} {a : Action} {x : Except Cancelled String}
    (h : carryOut s i thought a e = (x, e')) : e.registry.SameItems e'.registry := by
  refine Run.Obeys.sameItems ?_ h
  unfold carryOut
  exact (registryLaw_admitsRuns.send _ rfl).bind fun _ =>
    (act_obeys registryLaw_admitsRuns s i thought a).bind fun _ =>
    (registryLaw_admitsRuns.send _ rfl).bind fun _ => .pure _

/-- and so does a check. -/
theorem check_sameItems {p : Progress} {x : Except Cancelled Bool}
    (h : check c s i p e = (x, e')) : e.registry.SameItems e'.registry := by
  refine Run.Obeys.sameItems ?_ h
  unfold check
  split
  · exact isComplete_obeys registryLaw_admitsRuns c s p
  · exact .pure _

/-- What the checker is asked, and what is made of its reply. -/
theorem isComplete_eq_ok {p : Progress} {cycle : Cycle} {yes : Bool}
    (hr : r.SameItems e.registry) (h : isComplete c s (addCycle p cycle) e = (.ok yes, e')) :
    ∃ reply, CalledRole r .completionChecker
        (historyInvocation s.goal { cycles := p.cycles ++ [cycle] }) e reply e' ∧
      (yes = true ↔ saysYes c cycle.observation reply) := by
  obtain ⟨reply, _, hcall, h⟩ := Run.bind_eq_ok.1 h
  have hcalled := callRole_eq_ok hr hcall
  have hmentions : mentionsGoal c (addCycle p cycle) =
      Goal.isMentioned cycle.observation c.goalKeywords := by
    have hlast : (addCycle p cycle).cycles.getLast? = some cycle := List.getLast?_concat
    rw [mentionsGoal, hlast]
    rfl
  cases h
  refine ⟨reply, hcalled, ?_⟩
  rw [saysYes, hmentions]
  cases (reply.output?.map FunctionOutput.content).bind Reply.verdict? <;> rfl

/-- **A completed cycle is a lap.** -/
theorem exists_lap {p : Progress} {thought observation : String} {a : Action} {reached : Bool}
    {e₁ e₂ e₃ : Engine σ} (hr : r.SameItems e.registry)
    (hdecided : deliberate s i p.cycles e = (.ok (thought, .act a), e₁))
    (hobserved : carryOut s i thought a e₁ = (.ok observation, e₂))
    (hchecked : check c s i (addCycle { p with iterations := i } ⟨i, thought, a, observation⟩) e₂ =
      (.ok reached, e₃)) :
    ∃ stepped, Lap.Happens c s r i
      ⟨p.cycles, e, e₁, ⟨i, thought, a, observation⟩, stepped, e₂, reached, e₃⟩ := by
  have hr₁ := hr.trans (deliberate_sameItems hdecided)
  have hr₂ := hr₁.trans (carryOut_sameItems hobserved)
  obtain ⟨stepped, hstepped, hnamed⟩ := carryOut_asked hr₁ hobserved
  have hdeliberation := deliberate_asked hr hdecided
  unfold check at hchecked
  by_cases hi : c.goalCheckMinCycles ≤ i
  · rw [if_pos hi] at hchecked
    obtain ⟨reply, hcalled, hyes⟩ := isComplete_eq_ok hr₂ hchecked
    refine ⟨stepped, rfl, hdecided, hobserved, fun hearly => absurd hi (Nat.not_le.2 hearly),
      fun _ => ⟨reply, hcalled, hyes⟩, ?_, hnamed⟩
    rw [Lap.requests, Lap.checkRequests, if_pos hi]
    exact hdeliberation.trans (hstepped.trans hcalled.asked)
  · rw [if_neg hi] at hchecked
    cases hchecked
    refine ⟨stepped, rfl, hdecided, hobserved, fun _ => ⟨rfl, rfl⟩, fun hlate => absurd hlate hi,
      ?_, hnamed⟩
    rw [Lap.requests, Lap.checkRequests, if_neg hi]
    exact hdeliberation.trans (hstepped.trans (.nil rfl))

/-- One more lap is made of progress that has been given its cycle. -/
theorem Makes.next {p p' : Progress} {laps : List (Lap σ)} {stop : StopReason} {explicit : Bool}
    {l : Lap σ}
    (h : Makes (addCycle { p with iterations := i } l.cycle) laps stop explicit p')
    (hi : p.iterations + 1 = i) : Makes p (l :: laps) stop explicit p' := by
  refine ⟨?_, h.isComplete, ?_, h.shared⟩
  · have hiterations : p'.iterations = i + laps.length + incomplete stop := h.iterations
    rw [hiterations, List.length_cons]
    omega
  · have hcycles : p'.cycles = p.cycles ++ [l.cycle] ++ laps.map (·.cycle) := h.cycles
    rw [hcycles, List.map_cons, List.append_assoc, List.singleton_append]

/-- **A loop that comes through is a course,** by induction on the iterations left. -/
theorem exists_course {remaining : Nat} {p p' : Progress} {ending : LoopEnd}
    (hleft : remaining + i = c.maxIterations + 1) (hi : p.iterations + 1 = i)
    (hp : p.isComplete = false) (hshared : Shares p.shared p.cycles)
    (hr : r.SameItems e.registry)
    (h : loop c s remaining i p e = (.ok (ending, p'), e')) :
    ∃ laps explicit, Course c s r i p.cycles e laps ending explicit e' ∧
      Makes p laps ending.stop explicit p' ∧ r.SameItems e'.registry := by
  induction remaining generalizing i p e with
  | zero =>
    cases h
    have hmax : i = c.maxIterations + 1 := by omega
    exact ⟨[], false, .exhausted hmax, ⟨rfl, by simp [hp], by simp, hshared⟩, hr⟩
  | succ remaining ih =>
    have hmax : i ≤ c.maxIterations := by omega
    rw [loop_succ] at h
    obtain ⟨⟨thought, decision⟩, e₁, hdecided, h⟩ := Run.bind_eq_ok.1 h
    have hr₁ := hr.trans (deliberate_sameItems hdecided)
    cases decision with
    | finish answer explicit =>
      cases h
      refine ⟨[], explicit, .finished hmax hdecided (deliberate_asked hr hdecided), ?_, hr₁⟩
      exact ⟨by simp [incomplete, hi], by simp, by simp, hshared⟩
    | act a =>
      obtain ⟨observation, e₂, hobserved, h⟩ := Run.bind_eq_ok.1 h
      have hr₂ := hr₁.trans (carryOut_sameItems hobserved)
      obtain ⟨reached, e₃, hchecked, h⟩ := Run.bind_eq_ok.1 h
      have hr₃ := hr₂.trans (check_sameItems hchecked)
      obtain ⟨stepped, hlap⟩ := exists_lap hr hdecided hobserved hchecked
      have hshared' := shares_addCycle { p with iterations := i } ⟨i, thought, a, observation⟩
      cases reached with
      | true =>
        cases h
        exact ⟨[_], false, .achieved hmax hlap rfl, ⟨by simp [incomplete, hi, addCycle], by simp,
          by simp [addCycle], hshared'⟩, hr₃⟩
      | false =>
        have hnext : remaining + (i + 1) = c.maxIterations + 1 := by omega
        obtain ⟨laps, explicit, hcourse, hmakes, hr'⟩ := ih
          (p := addCycle { p with iterations := i } ⟨i, thought, a, observation⟩)
          hnext rfl hp hshared' hr₃ h
        exact ⟨_ :: laps, explicit, .next hmax hlap rfl hcourse,
          hmakes.next (l := ⟨_, _, _, _, _, _, _, _⟩) hi, hr'⟩

end Runs

namespace Course

variable {c : ReactConfig} {s : Setting} {r : Registry σ} {e e' : Engine σ} {i : Nat}
  {cycles : List Cycle} {laps : List (Lap σ)} {ending : LoopEnd} {explicit : Bool}

/-- A course goes no further than the last iteration. -/
theorem length_le (h : Course c s r i cycles e laps ending explicit e') :
    i + laps.length + incomplete ending.stop ≤ c.maxIterations + 1 := by
  induction h with
  | exhausted hi => simp [incomplete, hi]
  | finished hi _ _ => simpa [incomplete] using hi
  | achieved hi _ _ => simpa [incomplete] using hi
  | next _ _ _ _ ih =>
    rw [List.length_cons]
    omega

/-- Why a course stops. -/
theorem stop_eq (h : Course c s r i cycles e laps ending explicit e') :
    ending.stop = .goalAchieved ∨ ending.stop = .finished ∨
      (ending.stop = .maxIterationsExceeded c.maxIterations ∧
        i + laps.length = c.maxIterations + 1) := by
  induction h with
  | exhausted hi => exact .inr (.inr ⟨rfl, hi⟩)
  | finished _ _ _ => exact .inr (.inl rfl)
  | achieved _ _ _ => exact .inl rfl
  | next _ _ _ _ ih =>
    refine ih.imp_right fun h => h.imp_right fun ⟨hstop, hi⟩ => ⟨hstop, ?_⟩
    rw [List.length_cons]
    omega

/-- Each lap is the iteration that its place says. -/
theorem happens (h : Course c s r i cycles e laps ending explicit e') {n : Nat} {l : Lap σ}
    (hl : laps[n]? = some l) : l.Happens c s r (i + n) := by
  induction h generalizing n with
  | exhausted _ => simp at hl
  | finished _ _ _ => simp at hl
  | achieved _ hhappens _ =>
    cases n with
    | zero =>
      obtain rfl := Option.some.inj hl
      exact hhappens
    | succ n => simp at hl
  | next _ hhappens _ _ ih =>
    cases n with
    | zero =>
      obtain rfl := Option.some.inj hl
      exact hhappens
    | succ n =>
      have := ih hl
      rwa [Nat.add_right_comm] at this

/-- The laps of a course are those of some iteration. -/
theorem happens_of_mem (h : Course c s r i cycles e laps ending explicit e') {l : Lap σ}
    (hl : l ∈ laps) : ∃ n, l.Happens c s r n := by
  obtain ⟨n, hn⟩ := List.mem_iff_getElem?.1 hl
  exact ⟨_, h.happens hn⟩

/-- A lap reaches the goal only when it is time to ask, and by a yes. -/
theorem judged (h : Course c s r i cycles e laps ending explicit e') {l : Lap σ} (hl : l ∈ laps)
    (hreached : l.reached = true) : c.goalCheckMinCycles ≤ l.cycle.iteration ∧
      ∃ reply, CalledRole r .completionChecker (historyInvocation s.goal { cycles := l.cycles })
        l.observed reply l.finish ∧ saysYes c l.cycle.observation reply := by
  obtain ⟨n, hhappens⟩ := h.happens_of_mem hl
  have hlate : c.goalCheckMinCycles ≤ n := by
    rcases Nat.lt_or_ge n c.goalCheckMinCycles with hearly | hlate
    · have hnot := (hhappens.early hearly).1
      rw [hreached] at hnot
      cases hnot
    · exact hlate
  obtain ⟨reply, hcalled, hyes⟩ := hhappens.judged hlate
  exact ⟨hhappens.iteration ▸ hlate, reply, hcalled, hyes.1 hreached⟩

/-- Cycles are numbered from the first iteration on. -/
theorem numbered (h : Course c s r i cycles e laps ending explicit e') :
    laps.map (·.cycle.iteration) = List.range' i laps.length := by
  induction h with
  | exhausted _ => rfl
  | finished _ _ _ => rfl
  | achieved _ hhappens _ => simp [hhappens.iteration]
  | next _ hhappens _ _ ih => simp [hhappens.iteration, ih, List.range'_succ]

/-- The goal is reached in the last lap or in none. -/
theorem reached_iff (h : Course c s r i cycles e laps ending explicit e') :
    (∀ l ∈ laps.dropLast, l.reached = false) ∧
      (ending.stop = .goalAchieved ↔ ∃ l, laps.getLast? = some l ∧ l.reached = true) := by
  induction h with
  | exhausted _ => exact ⟨by simp, by simp⟩
  | finished _ _ _ => exact ⟨by simp, by simp⟩
  | achieved _ _ hreached => exact ⟨by simp, by simpa using hreached⟩
  | @next _ l laps _ _ _ _ _ hreached _ ih =>
    rcases laps with _ | ⟨l', laps⟩
    · exact ⟨by simp, by simpa [hreached] using ih.2⟩
    · refine ⟨?_, by simpa using ih.2⟩
      rw [List.dropLast_cons_cons]
      exact List.forall_mem_cons.2 ⟨hreached, ih.1⟩

/-- What a course asks: what its laps ask, and what a last decision to finish does. -/
theorem asked (h : Course c s r i cycles e laps ending explicit e') :
    ∃ cycles thought, e.Asked (laps.flatMap (·.requests c s r) ++
      if ending.stop = .finished then deliberationRequests s r cycles thought else []) e' := by
  induction h with
  | exhausted _ => exact ⟨[], "", .nil rfl⟩
  | finished _ _ hasked => exact ⟨_, _, hasked⟩
  | achieved _ hhappens _ =>
    refine ⟨[], "", ?_⟩
    simpa using hhappens.asked
  | next _ hhappens _ _ ih =>
    obtain ⟨cycles, thought, hrest⟩ := ih
    refine ⟨cycles, thought, ?_⟩
    rw [List.flatMap_cons, List.append_assoc]
    exact hhappens.asked.trans hrest

end Course

/-! ### How often checker and summarizer are asked -/

section Counts

variable (c : ReactConfig) (s : Setting) (r : Registry σ)

end Counts

namespace Studio

open Workshop (echo)

/-- An action planner that always has the same said. -/
def actionPlanner : ModelFunction Unit where
  role := .actionPlanner
  streams := false
  execute _ := fun w =>
    (.answered (.structured (.object [("name", .string "echo"), ("input", .string "hi")])), w)
  openStream _ := fun w => (.unanswered, w)

/-- A summarizer that has heard enough. -/
def summarizer : ModelFunction Unit where
  role := .summarizer
  streams := false
  execute _ := fun w =>
    (.answered (.structured (.object [("summary", .string "it was said")])), w)
  openStream _ := fun w => (.unanswered, w)

/-- The engine that has them. -/
def engine : Engine Unit where
  world := ⟨(), 0, false⟩
  registry := ((({} : Registry Unit).registerTool echo).registerFunction
    actionPlanner).registerFunction summarizer

/-- Two cycles, and nobody looks for keywords. -/
def config : ReactConfig := { maxIterations := 2, goalKeywords := [] }

end Studio

end React
end Errand

/-
# Whose breaker a position has

SPEC_FULL.md, section 4.6, on the breaker of each backend.

A group asks its members by their positions, but keeps their breakers by their names.  So
a position has a breaker of its own exactly as far as no other position has its name.

To say so, the use of a group is told by positions: an `Operation` is one thing that is
done with it, and a `Course` is where any sequence of operations has led to, with the
position of which every report was made.  Told by names instead, a course is a situation
of the group (`course_used`), so its breakers are those that its history leads to.

Breakers are kept `Apart` if whether a position may be asked hangs on the reports of that
position alone, and enough failures in a row turn it away for the timeout, whatever was
reported of others meanwhile.  Groups with members of given names always keep them apart
exactly if no name is given twice (`apart_iff_nodup`).
-/

import Errand.Proofs.Backend.History
import Mathlib.Data.List.FinRange

namespace Errand

open Json (Value)
namespace Failover

variable {σ α : Type} {g : Failover σ}

/-! ### Positions -/

/-- A place in the order of the members. -/
abbrev Position (g : Failover σ) := Fin g.members.length

/-- The member at a position. -/
def memberAt (g : Failover σ) (i : g.Position) : Backend σ := g.members.get i

/-- The positions of the members that may be asked for a model now, in their order. -/
def openPositions (g : Failover σ) (model : Option String) (w : World (State σ)) :
    List g.Position :=
  (List.finRange g.members.length).filter fun i =>
    model.all (g.memberAt i).supports &&
      (w.state.breakers (g.memberAt i).name).isAvailable g.policy w.now

/-- The members at open positions are those that may be asked. -/
theorem map_memberAt_openPositions (g : Failover σ) (model : Option String)
    (w : World (State σ)) : (g.openPositions model w).map g.memberAt = g.eligible model w := by
  have hmembers : (List.finRange g.members.length).map g.memberAt = g.members :=
    List.map_get_finRange g.members
  rw [eligible_eq]
  conv_rhs => rw [← hmembers]
  rw [List.filter_map]
  rfl

/-- A position is open if its member supports the model and its breaker lets calls through. -/
theorem mem_openPositions {model : Option String} {w : World (State σ)} {i : g.Position} :
    i ∈ g.openPositions model w ↔ model.all (g.memberAt i).supports = true ∧
      (w.state.breakers (g.memberAt i).name).isAvailable g.policy w.now = true := by
  rw [openPositions, List.mem_filter, Bool.and_eq_true]
  exact ⟨fun h => h.2, fun h => ⟨List.mem_finRange i, h⟩⟩

/-- Something about a position, told by the name of the member there. -/
def named (g : Failover σ) (x : g.Position × α) : String × α := ((g.memberAt x.1).name, x.2)

/-- The visits that an operation makes, with their positions. -/
def visitsAt (g : Failover σ) (call : Backend σ → Call σ α) (model : Option String)
    (w : World (State σ)) : List (g.Position × Visit σ α) :=
  (g.openPositions model w).zip (visits call (g.eligible model w) (sharedWorld w)).1

/-- The visits are made, each at the position of the member that it is a visit of. -/
theorem visitsAt_spec (g : Failover σ) (call : Backend σ → Call σ α) (model : Option String)
    (w : World (State σ)) :
    (g.visitsAt call model w).map Prod.snd =
        (visits call (g.eligible model w) (sharedWorld w)).1 ∧
      ∀ x ∈ g.visitsAt call model w, x.2.member = g.memberAt x.1 := by
  obtain ⟨left, -, -, hmembers, -⟩ :=
    walk_visits g call (g.eligible model w) w.state.breakers (sharedWorld w)
  rw [visitsAt]
  generalize (visits call (g.eligible model w) (sharedWorld w)).1 = vs at hmembers ⊢
  rw [← map_memberAt_openPositions] at hmembers
  generalize g.openPositions model w = is at hmembers ⊢
  induction vs generalizing is with
  | nil => simp
  | cons v vs ih =>
    cases is with
    | nil => simp at hmembers
    | cons i is =>
      rw [List.map_cons, List.map_cons, List.cons_append, List.cons.injEq] at hmembers
      obtain ⟨hseconds, hvisits⟩ := ih is hmembers.2
      rw [List.zip_cons_cons, List.map_cons, hseconds]
      exact ⟨rfl, List.forall_mem_cons.2 ⟨hmembers.1.symm, hvisits⟩⟩

/-- What an operation reports, with the positions that it reports of. -/
def reportedAt (g : Failover σ) (call : Backend σ → Call σ α) (model : Option String)
    (w : World (State σ)) : List (g.Position × Report) :=
  (g.visitsAt call model w).filterMap fun x => x.2.report?.map fun r => (x.1, r.2)

/-- The streams that an operation opens, with the positions that they are read from. -/
def openedAt (g : Failover σ) (r : GenerationRequest) (w : World (State σ)) :
    List (g.Position × TextFeed σ) :=
  (g.visitsAt (openFirst r) r.model w).filterMap fun x =>
    x.2.answer.toOption.map fun o => (x.1, o.2)

/-- A visit reports against the name of its member. -/
theorem report?_fst {v : Visit σ α} {r : String × Report} (h : v.report? = some r) :
    r.1 = v.member.name := by
  unfold Visit.report? at h
  split at h
  · cases h
    rfl
  · split at h <;> cases h
    rfl

/-- By position the reports are those by name, each under the name at its position. -/
theorem named_reportedAt (g : Failover σ) (call : Backend σ → Call σ α) (model : Option String)
    (w : World (State σ)) :
    (g.reportedAt call model w).map g.named = g.reported call model w := by
  obtain ⟨hvisits, hmember⟩ := visitsAt_spec g call model w
  rw [reported, reports, ← hvisits, List.filterMap_map, reportedAt, List.map_filterMap]
  refine List.filterMap_congr fun x hx => ?_
  rw [Option.map_map, Function.comp_apply]
  cases hr : x.2.report? with
  | none => rfl
  | some r =>
    have hname := report?_fst hr
    rw [hmember x hx] at hname
    exact congrArg some (Prod.ext hname.symm rfl)

/-- A visit is answered as the member that is visited answers. -/
theorem answer_of_calls {call : Backend σ → Call σ α} {v v' : World σ} {vs : List (Visit σ α)}
    (h : Calls call v vs v') : ∀ x ∈ vs, ∃ w, x.answer = (call x.member w).1 := by
  induction h with
  | nil => simp
  | @cons v v₁ _ b x _ hcall _ ih =>
    exact List.forall_mem_cons.2 ⟨⟨v, (congrArg Prod.fst hcall).symm⟩, ih⟩

/-- A stream that a member opens comes with the member's name. -/
theorem openFirst_fst {r : GenerationRequest} {b : Backend σ} {w : World σ}
    {o : String × TextFeed σ} (h : (openFirst r b w).1 = .ok o) : o.1 = b.name := by
  unfold openFirst at h
  split at h
  · cases h
  · cases h
    rfl
  · split at h <;> cases h
    rfl

/-- So are the reports of opening a stream. -/
theorem named_openedAt (g : Failover σ) (r : GenerationRequest) (w : World (State σ)) :
    (g.openedAt r w).map g.named = g.opened r w := by
  obtain ⟨hvisits, hmember⟩ := visitsAt_spec g (openFirst r) r.model w
  obtain ⟨-, -, -, -, hcalls, -⟩ :=
    walk_visits g (openFirst r) (g.eligible r.model w) w.state.breakers (sharedWorld w)
  have hanswer := answer_of_calls hcalls
  rw [← hvisits] at hanswer
  rw [opened, ← hvisits, List.filterMap_map, openedAt, List.map_filterMap]
  refine List.filterMap_congr fun x hx => ?_
  rw [Option.map_map, Function.comp_apply]
  obtain ⟨v, hv⟩ := hanswer x.2 (List.mem_map_of_mem hx)
  cases ho : x.2.answer with
  | error f => rfl
  | ok o =>
    rw [ho, hmember x hx] at hv
    have hname := openFirst_fst hv.symm
    exact congrArg some (Prod.ext hname.symm rfl)

/-! ### Courses -/

/-- One thing that is done with a group. -/
inductive Operation (σ : Type) where
  /-- Time passes, and anything else outside the group's breakers may change. -/
  | meanwhile (change : World σ → World σ)
  | generate (r : GenerationRequest)
  | structured (r : GenerationRequest) (schema : Value)
  | openStream (r : GenerationRequest)
  /-- Read the next piece of one of the open streams. -/
  | read (stream : Nat)
  | countTokens (text : String)
  | isAvailable

/-- Where the use of a group has got to. -/
structure Course (g : Failover σ) where
  world : World (State σ)
  /-- The streams that are open: what is left of each, and where it is read from. -/
  streams : List (g.Position × TextFeed σ) := []
  /-- Everything that was reported, and of which position, the oldest first. -/
  history : List (g.Position × Report) := []

namespace Course

/-- Read the next piece of a stream, if it is open and has one. -/
def read (c : g.Course) (stream : Nat) : g.Course :=
  match c.streams[stream]? with
  | none => c
  | some (i, feed) =>
    match feed.next? (sharedWorld c.world) with
    | (none, _) => c
    | (some (piece, rest), v) =>
      { world := ((g.track (g.memberAt i).name feed).next? c.world).2
        streams := c.streams.set stream (i, rest)
        history := c.history ++ (pieceReport "" v.now piece).map fun r => (i, r.2) }

/-- Do one more thing. -/
def perform (c : g.Course) : Operation σ → g.Course
  | .meanwhile change =>
    { c with world := withBreakers c.world.state.breakers (change (sharedWorld c.world)) }
  | .generate r => { c with
      world := (g.backend.generate r c.world).2
      history := c.history ++ g.reportedAt (fun b => b.generate r) r.model c.world }
  | .structured r schema => { c with
      world := (g.backend.structured r schema c.world).2
      history := c.history ++ g.reportedAt (fun b => b.structured r schema) r.model c.world }
  | .openStream r =>
    { world := (g.backend.openStream r c.world).2
      streams := c.streams ++ g.openedAt r c.world
      history := c.history ++ g.reportedAt (openFirst r) r.model c.world }
  | .read stream => c.read stream
  | .countTokens text => { c with
      world := (g.backend.countTokens text c.world).2
      history := c.history ++ g.reportedAt (fun b => b.countTokens text) none c.world }
  | .isAvailable => { c with world := (g.backend.isAvailable c.world).2 }

/-- A course, told by names. -/
def situation (c : g.Course) : Situation σ where
  world := c.world
  streams := c.streams.map g.named
  history := c.history.map g.named

/-- What was reported of a position. -/
def reportsAt (c : g.Course) (i : g.Position) : List Report :=
  c.history.filterMap fun r => if r.1 = i then some r.2 else none

end Course

/-- Where operations lead that are done with a new group in a world. -/
def course (g : Failover σ) (v : World σ) (ops : List (Operation σ)) : g.Course :=
  ops.foldl Course.perform { world := withBreakers .fresh v }

open Relation in
/-- Reading a stream takes the situation on to one that can happen. -/
theorem Course.read_happens (c : g.Course) (stream : Nat) :
    ReflTransGen (Happens g) c.situation (c.read stream).situation := by
  unfold Course.read
  split
  · exact .refl
  · next i feed hstream =>
    split
    · exact .refl
    · next piece rest v hnext =>
      obtain ⟨hlt, hget⟩ := List.getElem?_eq_some_iff.1 hstream
      have hsplit : c.streams =
          c.streams.take stream ++ (i, feed) :: c.streams.drop (stream + 1) := by
        rw [← hget, List.getElem_cons_drop, List.take_append_drop]
      have hstreams : c.situation.streams = (c.streams.take stream).map g.named ++
          ((g.memberAt i).name, feed) :: (c.streams.drop (stream + 1)).map g.named := by
        rw [situation]
        conv_lhs => rw [hsplit]
        rw [List.map_append, List.map_cons]
        rfl
      have hafter : (c.streams.set stream (i, rest)).map g.named =
          (c.streams.take stream).map g.named ++
            ((g.memberAt i).name, rest) :: (c.streams.drop (stream + 1)).map g.named := by
        rw [List.set_eq_take_append_cons_drop, if_pos hlt, List.map_append, List.map_cons]
        rfl
      have hreport : ((pieceReport "" v.now piece).map fun r => (i, r.2)).map g.named =
          pieceReport (g.memberAt i).name v.now piece := by
        unfold pieceReport
        split
        · rfl
        · split <;> rfl
      have hstep := Happens.read (g := g) c.situation hstreams hnext
      rw [← hafter, ← hreport, situation, ← List.map_append] at hstep
      exact .single hstep

open Relation in
/-- **What is done with a group happens to it,** told by names. -/
theorem Course.perform_happens (c : g.Course) (op : Operation σ) :
    ReflTransGen (Happens g) c.situation (c.perform op).situation := by
  cases op with
  | meanwhile change => exact .single (.meanwhile c.situation _)
  | generate r =>
    have h := Happens.generate (g := g) c.situation r
    rw [situation, ← named_reportedAt, ← List.map_append] at h
    exact .single h
  | structured r schema =>
    have h := Happens.structured (g := g) c.situation r schema
    rw [situation, ← named_reportedAt, ← List.map_append] at h
    exact .single h
  | openStream r =>
    have h := Happens.openStream (g := g) c.situation r
    rw [situation, ← named_reportedAt, ← named_openedAt, ← List.map_append,
      ← List.map_append] at h
    exact .single h
  | read stream => exact c.read_happens stream
  | countTokens text =>
    have h := Happens.countTokens (g := g) c.situation text
    rw [situation, ← named_reportedAt, ← List.map_append] at h
    exact .single h
  | isAvailable => exact .single (.isAvailable c.situation)

/-- One operation more goes on from where the others led. -/
theorem course_concat (g : Failover σ) (v : World σ) (ops : List (Operation σ))
    (op : Operation σ) : g.course v (ops ++ [op]) = (g.course v ops).perform op := by
  rw [course, List.foldl_append]
  rfl

/-- **Operations lead to a situation that the use of the group may get to,** by induction on
them. -/
theorem course_used (g : Failover σ) (v : World σ) (ops : List (Operation σ)) :
    g.Used (g.course v ops).situation := by
  refine ⟨v, ?_⟩
  induction ops using List.reverseRecOn with
  | nil => exact .refl
  | append_singleton ops op ih =>
    rw [course_concat]
    exact ih.trans ((g.course v ops).perform_happens op)

/-- The breaker of a name, by the reports about the name. -/
theorem course_breaker (g : Failover σ) (v : World σ) (ops : List (Operation σ)) (name : String) :
    (g.course v ops).world.state.breakers name =
      Breaker.afterAll g.policy {} (reportsOf name ((g.course v ops).history.map g.named)) := by
  have h := congrFun (course_used g v ops).breakers name
  rwa [Breakers.afterAll_apply] at h

/-! ### Positions apart -/

/-- Each position of a group has a breaker of its own. -/
structure Apart (g : Failover σ) : Prop where
  /-- A position may be asked when a breaker lets it that was fed the reports of that
  position and no others. -/
  own : ∀ (v : World σ) (ops : List (Operation σ)) (i : g.Position) (model : Option String),
    i ∈ g.openPositions model (g.course v ops).world ↔
      model.all (g.memberAt i).supports = true ∧
        (Breaker.afterAll g.policy {} ((g.course v ops).reportsAt i)).isAvailable g.policy
          (g.course v ops).world.now = true
  /-- Whatever else was done with the group, and however it turned out, a position of which
  the same was reported may be asked at the same times. -/
  independent : ∀ (v v' : World σ) (ops ops' : List (Operation σ)) (i : g.Position)
    (model : Option String),
    (g.course v ops).reportsAt i = (g.course v' ops').reportsAt i →
      (g.course v ops).world.now = (g.course v' ops').world.now →
        (i ∈ g.openPositions model (g.course v ops).world ↔
          i ∈ g.openPositions model (g.course v' ops').world)
  /-- A position that has just failed as many times in a row as the threshold says is turned
  away until the timeout has passed. -/
  excluded : ∀ (v : World σ) (ops : List (Operation σ)) (i : g.Position)
    (model : Option String) (t : Nat),
    0 < Report.failures ((g.course v ops).reportsAt i) →
      g.policy.failureThreshold ≤ Report.failures ((g.course v ops).reportsAt i) →
        Report.lastFailure? ((g.course v ops).reportsAt i) = some t →
          (i ∈ g.openPositions model (g.course v ops).world ↔
            model.all (g.memberAt i).supports = true ∧
              g.policy.openTimeout < (g.course v ops).world.now - t)

/-- Where no name is given twice, the reports about a name are those of its position. -/
theorem reportsOf_named (h : (g.members.map (·.name)).Nodup) (i : g.Position)
    (history : List (g.Position × Report)) :
    reportsOf (g.memberAt i).name (history.map g.named) =
      history.filterMap fun r => if r.1 = i then some r.2 else none := by
  have hname : ∀ j : g.Position, (g.memberAt j).name = (g.memberAt i).name ↔ j = i := by
    intro j
    have hinj := @List.Nodup.getElem_inj_iff _ _ h j (by simp) i (by simp)
    rw [List.getElem_map, List.getElem_map] at hinj
    exact hinj.trans Fin.ext_iff.symm
  rw [reportsOf, List.filterMap_map]
  refine List.filterMap_congr fun r _ => ?_
  simp only [Function.comp_apply, named, hname]

/-- The breaker of a position is fed the reports of that position alone, where no name is
given twice. -/
theorem course_breaker_memberAt (h : (g.members.map (·.name)).Nodup) (v : World σ)
    (ops : List (Operation σ)) (i : g.Position) :
    (g.course v ops).world.state.breakers (g.memberAt i).name =
      Breaker.afterAll g.policy {} ((g.course v ops).reportsAt i) := by
  rw [course_breaker, reportsOf_named h]
  rfl

/-- **Names that are given once keep positions apart.** -/
theorem apart_of_nodup (hmax : g.policy.failureThreshold ≤ Breaker.maxCount)
    (h : (g.members.map (·.name)).Nodup) : Apart g where
  own v ops i model := by rw [mem_openPositions, course_breaker_memberAt h]
  independent v v' ops ops' i model hreports hnow := by
    rw [mem_openPositions, mem_openPositions, course_breaker_memberAt h,
      course_breaker_memberAt h, hreports, hnow]
  excluded v ops i model t hone hle ht := by
    rw [mem_openPositions, course_breaker_memberAt h,
      Breaker.isAvailable_afterAll hmax hone hle ht]

/-! ### A name that is given twice -/

namespace Namesakes

/-- A member that is down.  It supports the models whose names are as long as its number, so
that it can be asked alone. -/
def member (number : Nat) (name : String) : Backend Unit :=
  { Backend.ofGenerate name fun _ w => (.error (.message "down"), w) with
    supports := fun model => model.length == number }

/-- A group of such members with given names. -/
def group (policy : BreakerPolicy) (names : List String) : Failover Unit :=
  ⟨policy, names.mapIdx member⟩

/-- The request that the member of a number is asked for alone. -/
def request (number : Nat) : GenerationRequest where
  model := some (.ofList (List.replicate number 'm'))
  prompt := ""

/-- The world, at rest. -/
def rest : World Unit := ⟨(), 0, false⟩

variable {policy : BreakerPolicy} {names : List String}

theorem map_name_members (policy : BreakerPolicy) (names : List String) :
    (group policy names).members.map (·.name) = names := by
  refine List.ext_getElem (by simp [group]) fun i _ _ => ?_
  simp [group, member, Backend.ofGenerate]

/-- The member at a position has the name of that place. -/
theorem memberAt_eq (i : (group policy names).Position) :
    (group policy names).memberAt i = member i (names.get ⟨i, by simpa [group] using i.isLt⟩) :=
  List.getElem_mapIdx ..

/-- A member that may be asked is asked alone, and fails. -/
theorem perform_request (c : (group policy names).Course) (i : (group policy names).Position)
    (h : (c.world.state.breakers ((group policy names).memberAt i).name).isAvailable policy
      c.world.now = true) :
    (c.perform (.generate (request i))).history = c.history ++ [(i, ⟨false, c.world.now⟩)] ∧
      (c.perform (.generate (request i))).world.now = c.world.now := by
  have hopen : (group policy names).openPositions (request i).model c.world = [i] := by
    have hsupports (j : (group policy names).Position) :
        (request i).model.all ((group policy names).memberAt j).supports = decide (j = i) := by
      rw [memberAt_eq]
      show ((String.ofList (List.replicate i.val 'm')).length == j.val) = decide (j = i)
      rw [String.length_ofList, List.length_replicate, Bool.eq_iff_iff, beq_iff_eq,
        decide_eq_true_iff, Fin.ext_iff]
      exact eq_comm
    have hfilter : (group policy names).openPositions (request i).model c.world =
        (List.finRange _).filter fun j => decide (j = i) := by
      refine List.filter_congr fun j _ => ?_
      rw [hsupports]
      by_cases hj : j = i
      · rw [hj, decide_eq_true rfl]
        exact h
      · rw [decide_eq_false hj]
        rfl
    have hcount : (List.finRange (group policy names).members.length).count i = 1 :=
      List.count_eq_one_of_mem (List.nodup_finRange _) (List.mem_finRange i)
    rw [hfilter, List.filter_eq, hcount]
    rfl
  have hasked : (group policy names).eligible (request i).model c.world =
      [(group policy names).memberAt i] := by
    rw [← map_memberAt_openPositions, hopen]
    rfl
  have hvisits : visits (fun b => b.generate (request i)) [(group policy names).memberAt i]
      (sharedWorld c.world) = ([⟨(group policy names).memberAt i, .error (.message "down"),
        c.world.now⟩], sharedWorld c.world) := by
    rw [memberAt_eq]
    rfl
  constructor
  · show c.history ++ (group policy names).reportedAt _ (request i).model c.world = _
    rw [reportedAt, visitsAt, hasked, hvisits, hopen]
    rfl
  · show ((group policy names).attempt "generate" _ _ _).2.now = _
    rw [attempt, hasked, memberAt_eq]
    rfl

/-- **A member fails in a row.**  Asked alone again and again, it fails every time until
its breaker opens. -/
theorem course_requests (hmax : policy.failureThreshold ≤ Breaker.maxCount)
    (i : (group policy names).Position) {n : Nat} (hn : n ≤ max policy.failureThreshold 1) :
    ((group policy names).course rest (List.replicate n (.generate (request i)))).history =
        List.replicate n (i, ⟨false, 0⟩) ∧
      ((group policy names).course rest
        (List.replicate n (.generate (request i)))).world.now = 0 := by
  induction n with
  | zero => exact ⟨rfl, rfl⟩
  | succ n ih =>
    obtain ⟨hhistory, hnow⟩ := ih (by omega)
    have hreports : reportsOf ((group policy names).memberAt i).name
        ((List.replicate n (i, ⟨false, 0⟩)).map (group policy names).named) =
          List.replicate n ⟨false, 0⟩ := by
      simp [reportsOf, named]
    have hclosed : (Breaker.afterAll policy {} (List.replicate n ⟨false, 0⟩)).isOpen = false := by
      by_cases hzero : n = 0
      · rw [hzero]
        rfl
      · have hpos : 0 < policy.failureThreshold := by omega
        have hkeeps := Breaker.keeps_afterAll hpos (List.replicate n ⟨false, 0⟩)
        rw [Bool.eq_false_iff, Ne, hkeeps.isOpen_iff hmax]
        simp [Report.failures]
        omega
    have hmay := course_breaker (group policy names) rest
      (List.replicate n (.generate (request i))) ((group policy names).memberAt i).name
    rw [hhistory, hreports] at hmay
    have hnext := perform_request _ i (by
      rw [hmay]
      show Breaker.isAvailable policy _ (Breaker.afterAll policy _ _) = true
      rw [Breaker.isAvailable, hclosed]
      rfl)
    rw [List.replicate_succ', course_concat, hnext.1, hnext.2, hhistory, hnow,
      List.replicate_succ']
    exact ⟨rfl, rfl⟩

end Namesakes

open Namesakes in
/-- **Namesakes share a breaker:** one of them is turned away for the failures of another,
without ever having been asked. -/
theorem not_apart_of_namesakes {policy : BreakerPolicy}
    (hmax : policy.failureThreshold ≤ Breaker.maxCount) {names : List String}
    {i j : (group policy names).Position} (hne : i ≠ j)
    (hname : ((group policy names).memberAt i).name = ((group policy names).memberAt j).name) :
    ¬Apart (group policy names) := by
  intro h
  generalize hn : max policy.failureThreshold 1 = n
  obtain ⟨hhistory, hnow⟩ := course_requests hmax i (Nat.le_of_eq hn.symm)
  have hnone : ((group policy names).course rest
      (List.replicate n (.generate (request i)))).reportsAt j = [] := by
    rw [Course.reportsAt, hhistory]
    simp [hne]
  have hbreaker := course_breaker (group policy names) rest
    (List.replicate n (.generate (request i))) ((group policy names).memberAt j).name
  have hreports : reportsOf ((group policy names).memberAt j).name
      ((List.replicate n (i, ⟨false, 0⟩)).map (group policy names).named) =
        List.replicate n ⟨false, 0⟩ := by
    simp [reportsOf, named, hname]
  rw [hhistory, hreports] at hbreaker
  -- Before anything was reported the position may be asked.
  have hfirst : j ∈ (group policy names).openPositions none
      ((group policy names).course rest []).world :=
    mem_openPositions.2 ⟨rfl, rfl⟩
  have hfailures : Report.failures (List.replicate n ⟨false, 0⟩) = n := by
    simp [Report.failures]
  have hlast : Report.lastFailure? (List.replicate n ⟨false, 0⟩) = some 0 := by
    have hpos : n ≠ 0 := by omega
    simp [Report.lastFailure?, List.getLast?_replicate, hpos]
  have havailable := Breaker.isAvailable_afterAll hmax (by omega) (by omega) hlast 0
  have hlater := (h.independent rest rest _ [] j none hnone hnow).2 hfirst
  have hmay := (mem_openPositions.1 hlater).2
  rw [hbreaker, hnow] at hmay
  exact absurd (havailable.1 hmay) (by omega)

/-- **Which groups keep their positions apart.**  Groups with members of given names always
do exactly if no name is given twice. -/
theorem apart_iff_nodup {policy : BreakerPolicy}
    (hmax : policy.failureThreshold ≤ Breaker.maxCount) (names : List String) :
    (∀ (σ : Type) (members : List (Backend σ)), members.map (·.name) = names →
      Apart ⟨policy, members⟩) ↔ names.Nodup := by
  constructor
  · intro h
    refine List.pairwise_iff_getElem.2 fun i j hi hj hlt heq => ?_
    have hlength : (Namesakes.group policy names).members.length = names.length := by
      simp [Namesakes.group]
    have happart : Apart (Namesakes.group policy names) :=
      h Unit _ (Namesakes.map_name_members policy names)
    refine not_apart_of_namesakes hmax (i := ⟨i, hlength ▸ hi⟩) (j := ⟨j, hlength ▸ hj⟩) ?_ ?_
      happart
    · exact fun h => absurd (Fin.mk.inj h) (Nat.ne_of_lt hlt)
    · rw [Namesakes.memberAt_eq, Namesakes.memberAt_eq]
      exact heq
  · rintro h σ members rfl
    exact apart_of_nodup (g := ⟨policy, members⟩) hmax h

open Workshop in
/-- The hypothesis of `apart_iff_nodup` is satisfiable: the members of the workshop's group
have names of their own. -/
theorem apart_iff_nodup_workshop :
    group.policy.failureThreshold ≤ Breaker.maxCount ∧
      group.members.map (·.name) = ["down", "up"] ∧ Apart group := by
  have hmax : group.policy.failureThreshold ≤ Breaker.maxCount := by decide
  have hnodup : ["down", "up"].Nodup := by decide
  exact ⟨hmax, rfl, (apart_iff_nodup hmax ["down", "up"]).2 hnodup Unit group.members rfl⟩

namespace Twins

/-- A member that is down and one that answers, under the same name. -/
def group : Failover Unit where
  policy := { failureThreshold := 2 }
  members := [{ Workshop.down with name := "b" }, { Workshop.up with name := "b" }]

/-- Two requests. -/
def requests : List (Operation Unit) := List.replicate 2 (.generate { prompt := "" })

/-- The group after them. -/
def asked : group.Course := group.course Namesakes.rest requests

/-- The position of the member that is down. -/
def first : group.Position := ⟨0, by decide⟩

end Twins

open Twins in
/-- **A position that is not turned away.**  It has just failed as often in a row as the
threshold says, but its namesake answered in between. -/
theorem not_apart_twins :
    asked.reportsAt first = [⟨false, 0⟩, ⟨false, 0⟩] ∧ group.policy.failureThreshold = 2 ∧
      asked.world.now ≤ group.policy.openTimeout ∧ first ∈ group.openPositions none asked.world ∧
        ¬Apart group := by
  have hopen : first ∈ group.openPositions none asked.world := mem_openPositions.2 ⟨rfl, rfl⟩
  refine ⟨rfl, rfl, by decide, hopen, fun h => ?_⟩
  have hexcluded := h.excluded Namesakes.rest requests first none 0 (by decide) (by decide) rfl
  exact absurd (hexcluded.1 hopen).2 (by decide)

end Failover
end Errand

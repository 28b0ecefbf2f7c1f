/-
# What an operation of a group comes to

SPEC_FULL.md, section 4.6, steps (a) to (d).

An operation of a group asks members one after another.  What is to be seen of it are
its visits: which member was asked, what it answered, and when.  `visits` lists them.
They are calls that start each where the one before left the world that the members
share (`Calls`), all of them but the last failed (`Ends`), and whoever is not visited
is left over at the end.

Members never see the breakers, so a walk is its visits and, apart from them, a change
of the breakers by what the visits report (`walk_visits`).  From this follow the result
of an operation and the breakers after it together (`IsAttempt`), which is the main
result for the two operations that give one whole reply (`generate_isAttempt`).
-/

import Errand.Backend.Failover
import Errand.Proofs.Breaker

namespace Errand

/-- The breakers after reports about names, the oldest first. -/
def Breakers.afterAll (policy : BreakerPolicy) (bs : Breakers) (rs : List (String × Report)) :
    Breakers :=
  rs.foldl (fun bs r => bs.update r.1 fun b => b.record policy r.2) bs

/-- A member that was asked, what it answered, and when that was over. -/
structure Visit (σ α : Type) where
  member : Backend σ
  answer : Except Fault α
  time : Nat

namespace Visit

variable {σ α : Type}

/-- The member failed, and not because it was cancelled. -/
def Failed (v : Visit σ α) : Prop := ∃ f, v.answer = .error f ∧ f.isCancellation = false

/-- What is reported of the member: nothing if it was cancelled. -/
def report? (v : Visit σ α) : Option (String × Report) :=
  match v.answer with
  | .ok _ => some (v.member.name, ⟨true, v.time⟩)
  | .error f => if f.isCancellation then none else some (v.member.name, ⟨false, v.time⟩)

/-- A visit that was answered did not fail. -/
theorem not_failed_of_ok {v : Visit σ α} {a : α} (h : v.answer = .ok a) : ¬v.Failed := by
  rintro ⟨f, hf, -⟩
  rw [h] at hf
  cases hf

/-- Neither did one that was cancelled. -/
theorem not_failed_of_cancelled {v : Visit σ α} {f : Fault} (h : v.answer = .error f)
    (hf : f.isCancellation = true) : ¬v.Failed := by
  rintro ⟨g, hg, hc⟩
  rw [h] at hg
  cases hg
  rw [hf] at hc
  cases hc

end Visit

namespace Failover

variable {σ α : Type}

/-! ### The world of the members -/

/-- The world of a group as its members see it. -/
def sharedWorld (w : World (State σ)) : World σ :=
  { state := w.state.shared, now := w.now, cancelled := w.cancelled }

/-- The world of a group with given breakers, its members' world being given. -/
def withBreakers (bs : Breakers) (v : World σ) : World (State σ) :=
  { state := { breakers := bs, shared := v.state }, now := v.now, cancelled := v.cancelled }

/-- Taking the breakers off a world and putting them back changes nothing. -/
theorem withBreakers_sharedWorld (w : World (State σ)) :
    withBreakers w.state.breakers (sharedWorld w) = w := rfl

/-- What a member does leaves the breakers alone. -/
theorem zoom_withBreakers (step : World σ → α × World σ) (bs : Breakers) (v : World σ) :
    State.focus.zoom step (withBreakers bs v) = ((step v).1, withBreakers bs (step v).2) := rfl

/-! ### Visits -/

/-- The visits that asking members one after another comes to, and how they leave the
members' world. -/
def visits (call : Backend σ → Call σ α) : List (Backend σ) → World σ → List (Visit σ α) × World σ
  | [], v => ([], v)
  | b :: rest, v =>
    match call b v with
    | (.ok a, v) => ([⟨b, .ok a, v.now⟩], v)
    | (.error f, v) =>
      if f.isCancellation then ([⟨b, .error f, v.now⟩], v)
      else
        let (vs, w) := visits call rest v
        (⟨b, .error f, v.now⟩ :: vs, w)

/-- What visits report, in order. -/
def reports (vs : List (Visit σ α)) : List (String × Report) := vs.filterMap Visit.report?

/-- The visits are calls of their members, each starting where the one before left the
members' world. -/
inductive Calls (call : Backend σ → Call σ α) : World σ → List (Visit σ α) → World σ → Prop
  | nil (v : World σ) : Calls call v [] v
  | cons {v v₁ v₂ : World σ} {b : Backend σ} {x : Except Fault α} {vs : List (Visit σ α)} :
      call b v = (x, v₁) → Calls call v₁ vs v₂ → Calls call v (⟨b, x, v₁.now⟩ :: vs) v₂

/-- How visits end: with an answer, with a cancellation, or with every member having
failed and none left over. -/
inductive Ends : List (Visit σ α) → (left : List (Backend σ)) → Walk α → Prop
  | answered {vs : List (Visit σ α)} {v : Visit σ α} {left : List (Backend σ)} {a : α} :
      (∀ x ∈ vs, x.Failed) → v.answer = .ok a → Ends (vs ++ [v]) left (.answered a)
  | cancelled {vs : List (Visit σ α)} {v : Visit σ α} {left : List (Backend σ)} {f : Fault} :
      (∀ x ∈ vs, x.Failed) → v.answer = .error f → f.isCancellation = true →
        Ends (vs ++ [v]) left (.cancelled f)
  | failed {vs : List (Visit σ α)} {fs : List (String × Fault)} :
      (∀ x ∈ vs, x.Failed) →
        vs.map (fun x => (x.member.name, x.answer)) = fs.map (fun p => (p.1, .error p.2)) →
          Ends vs [] (.failed fs)

/-- A failed visit before others. -/
theorem Ends.cons {v : Visit σ α} {vs : List (Visit σ α)} {left : List (Backend σ)}
    {end_ : Walk α} {f : Fault} (hv : v.answer = .error f) (hf : f.isCancellation = false)
    (h : Ends vs left end_) : Ends (v :: vs) left (end_.afterFailure v.member.name f) := by
  have hfailed : v.Failed := ⟨f, hv, hf⟩
  cases h with
  | answered h ha => exact .answered (List.forall_mem_cons.2 ⟨hfailed, h⟩) ha
  | cancelled h ha hc => exact .cancelled (List.forall_mem_cons.2 ⟨hfailed, h⟩) ha hc
  | failed h hfs =>
    refine .failed (List.forall_mem_cons.2 ⟨hfailed, h⟩) ?_
    rw [List.map_cons, List.map_cons, hfs, hv]

/-- The first visit, unless the member failed, is the only one. -/
theorem visits_cons_of_not_failed {call : Backend σ → Call σ α} {b : Backend σ}
    {rest : List (Backend σ)} {v v₁ : World σ} {x : Except Fault α} (h : call b v = (x, v₁))
    (hx : ∀ f, x = .error f → f.isCancellation = true) :
    visits call (b :: rest) v = ([⟨b, x, v₁.now⟩], v₁) := by
  rw [visits, h]
  cases x with
  | ok a => rfl
  | error f => simp [hx f rfl]

/-- After a member that failed the others are visited. -/
theorem visits_cons_of_failed {call : Backend σ → Call σ α} {b : Backend σ}
    {rest : List (Backend σ)} {v v₁ : World σ} {f : Fault} (h : call b v = (.error f, v₁))
    (hf : f.isCancellation = false) :
    visits call (b :: rest) v =
      (⟨b, .error f, v₁.now⟩ :: (visits call rest v₁).1, (visits call rest v₁).2) := by
  rw [visits, h]
  simp [hf]

/-- **What asking members one after another comes to,** by induction on the members. -/
theorem walk_visits (g : Failover σ) (call : Backend σ → Call σ α) (members : List (Backend σ))
    (bs : Breakers) (v : World σ) :
    ∃ left ending,
      g.walk call members (withBreakers bs v) =
        (ending, withBreakers (bs.afterAll g.policy (reports (visits call members v).1))
          (visits call members v).2) ∧
      members = (visits call members v).1.map (·.member) ++ left ∧
      Calls call v (visits call members v).1 (visits call members v).2 ∧
      Ends (visits call members v).1 left ending := by
  induction members generalizing bs v with
  | nil => exact ⟨[], .failed [], rfl, rfl, .nil v, .failed (by simp [visits]) rfl⟩
  | cons b rest ih =>
    rw [walk, zoom_withBreakers]
    rcases hcall : call b v with ⟨f | a, v₁⟩
    · by_cases hc : f.isCancellation = true
      · have hvisits : visits call (b :: rest) v = ([⟨b, .error f, v₁.now⟩], v₁) :=
          visits_cons_of_not_failed hcall fun _ h => by cases h; exact hc
        rw [hvisits]
        refine ⟨rest, .cancelled f, ?_, rfl, .cons hcall (.nil v₁), ?_⟩
        · simp [hc, reports, Visit.report?, Breakers.afterAll]
        · exact @Ends.cancelled _ _ [] _ _ _ (by simp) rfl hc
      · have hf : f.isCancellation = false := by simpa using hc
        have hrecord : g.recordFailure b.name (withBreakers bs v₁) =
            withBreakers (bs.update b.name (Breaker.recordFailure g.policy v₁.now)) v₁ := rfl
        obtain ⟨left, ending, hwalk, hmembers, hcalls, hends⟩ :=
          ih (bs.update b.name (Breaker.recordFailure g.policy v₁.now)) v₁
        rw [visits_cons_of_failed hcall hf]
        refine ⟨left, ending.afterFailure b.name f, ?_, ?_, .cons hcall hcalls,
          hends.cons rfl hf⟩
        · dsimp only
          rw [if_neg hc, hrecord, hwalk]
          simp [reports, Visit.report?, hf, Breakers.afterAll, Breaker.record]
        · rw [List.map_cons, List.cons_append, ← hmembers]
    · rw [visits_cons_of_not_failed hcall fun _ h => by cases h]
      refine ⟨rest, .answered a, ?_, rfl, .cons hcall (.nil v₁), ?_⟩
      · simp [recordSuccess, record, withBreakers, reports, Visit.report?, Breakers.afterAll,
          Breaker.record]
      · exact @Ends.answered _ _ [] _ _ _ (by simp) rfl

namespace Ends

variable {vs : List (Visit σ α)} {left : List (Backend σ)} {ending : Walk α}

/-- All visits but the last are failures. -/
theorem failed_of_mem_dropLast (h : Ends vs left ending) : ∀ v ∈ vs.dropLast, v.Failed := by
  cases h with
  | answered h _ => simpa using h
  | cancelled h _ _ => simpa using h
  | failed h _ => exact fun v hv => h v (List.dropLast_subset _ hv)

/-- Members are left over only after a visit that did not fail. -/
theorem stopped (h : Ends vs left ending) (hleft : left ≠ []) :
    ∃ v, vs.getLast? = some v ∧ ¬v.Failed := by
  cases h with
  | answered _ ha => exact ⟨_, by simp, Visit.not_failed_of_ok ha⟩
  | cancelled _ ha hc => exact ⟨_, by simp, Visit.not_failed_of_cancelled ha hc⟩
  | failed _ _ => exact absurd rfl hleft

/-- A visit that did not fail is the last. -/
theorem eq_last_of_not_failed {us : List (Visit σ α)} {u v : Visit σ α}
    (h : ∀ x ∈ us, x.Failed) (hv : v ∈ us ++ [u]) (hfail : ¬v.Failed) : v = u := by
  rcases List.mem_append.1 hv with hv | hv
  · exact absurd (h v hv) hfail
  · exact List.mem_singleton.1 hv

/-- A visit that was answered ends the walk with its answer, -/
theorem eq_answered (h : Ends vs left ending) {v : Visit σ α} (hv : v ∈ vs) {a : α}
    (ha : v.answer = .ok a) : ending = .answered a := by
  have hfail := Visit.not_failed_of_ok ha
  cases h with
  | answered h hu =>
    obtain rfl := eq_last_of_not_failed h hv hfail
    cases hu.symm.trans ha
    rfl
  | cancelled h hu _ =>
    obtain rfl := eq_last_of_not_failed h hv hfail
    cases hu.symm.trans ha
  | failed h _ => exact absurd (h v hv) hfail

/-- and one that was cancelled with its fault. -/
theorem eq_cancelled (h : Ends vs left ending) {v : Visit σ α} (hv : v ∈ vs) {f : Fault}
    (ha : v.answer = .error f) (hf : f.isCancellation = true) : ending = .cancelled f := by
  have hfail := Visit.not_failed_of_cancelled ha hf
  cases h with
  | answered h hu =>
    obtain rfl := eq_last_of_not_failed h hv hfail
    cases hu.symm.trans ha
  | cancelled h hu _ =>
    obtain rfl := eq_last_of_not_failed h hv hfail
    cases hu.symm.trans ha
    rfl
  | failed h _ => exact absurd (h v hv) hfail

/-- Where every member that was asked failed, none is left over, and the failures are
those of the visits. -/
theorem eq_failed (h : Ends vs left ending) (hall : ∀ v ∈ vs, v.Failed) :
    left = [] ∧ ∃ fs : List (String × Fault), ending = .failed fs ∧
      vs.map (fun x => (x.member.name, x.answer)) = fs.map (fun p => (p.1, .error p.2)) := by
  cases h with
  | answered _ ha => exact absurd (hall _ (by simp)) (Visit.not_failed_of_ok ha)
  | cancelled _ ha hc => exact absurd (hall _ (by simp)) (Visit.not_failed_of_cancelled ha hc)
  | failed _ hfs => exact ⟨rfl, _, rfl, hfs⟩

end Ends

/-! ### Attempts -/

/-- All that is to be seen of an operation that asks for one result: it made the visits
`vs`, did not come to the members `left`, gave `result`, and left the world as `w'`. -/
structure IsAttempt (g : Failover σ) (operation : String) (model : Option String)
    (call : Backend σ → Call σ α) (w : World (State σ)) (result : Except Fault α)
    (w' : World (State σ)) (vs : List (Visit σ α)) (left : List (Backend σ)) : Prop where
  /-- The members asked, and after them those not reached, are in their order the members
  that support the model and whose breakers let them be called at the start. -/
  asked : g.members.filter (fun b =>
      model.all b.supports && (w.state.breakers b.name).isAvailable g.policy w.now) =
    vs.map (·.member) ++ left
  calls : Calls call (sharedWorld w) vs (sharedWorld w')
  failed : ∀ v ∈ vs.dropLast, v.Failed
  stopped : left ≠ [] → ∃ v, vs.getLast? = some v ∧ ¬v.Failed
  answered : ∀ v ∈ vs, ∀ a, v.answer = .ok a → result = .ok a
  cancelled : ∀ v ∈ vs, ∀ f, v.answer = .error f → f.isCancellation = true → result = .error f
  exhausted : (∀ v ∈ vs, v.Failed) → ∀ v f, vs.getLast? = some v → v.answer = .error f →
    left = [] ∧ result = .error (.exhausted operation (vs.map (·.member.name)) f)
  noneAvailable : (∃ op names, result = .error (.noneAvailable op names)) ↔ vs = [] ∧ left = []
  refused : vs = [] → w' = w ∧ result = .error (.noneAvailable operation
    ((g.members.filter fun b => model.all b.supports).map (·.name)))
  breakers : w'.state.breakers = w.state.breakers.afterAll g.policy (reports vs)

/-- Whoever supports the model and has an available breaker may be asked. -/
theorem eligible_eq (g : Failover σ) (model : Option String) (w : World (State σ)) :
    g.eligible model w = g.members.filter fun b =>
      model.all b.supports && (w.state.breakers b.name).isAvailable g.policy w.now := by
  rw [eligible, candidates, List.filter_filter]
  exact List.filter_congr fun b _ => Bool.and_comm ..

section Conclude

variable {vs : List (Visit σ α)} {left : List (Backend σ)} {ending : Walk α}

/-- An operation is exhausted where all members failed, the last one of them last. -/
theorem Ends.conclude_exhausted (h : Ends vs left ending) (g : Failover σ) (operation : String)
    (model : Option String) (hall : ∀ v ∈ vs, v.Failed) {v : Visit σ α} {f : Fault}
    (hv : vs.getLast? = some v) (hf : v.answer = .error f) :
    g.conclude operation model ending =
      .error (.exhausted operation (vs.map (·.member.name)) f) := by
  obtain ⟨-, fs, rfl, hfs⟩ := h.eq_failed hall
  have hnames : vs.map (·.member.name) = fs.map (·.1) := by
    have := congrArg (List.map Prod.fst) hfs
    rwa [List.map_map, List.map_map] at this
  have hlast : some (v.member.name, v.answer) = fs.getLast?.map fun p => (p.1, .error p.2) := by
    have := congrArg List.getLast? hfs
    rwa [List.getLast?_map, List.getLast?_map, hv] at this
  cases hp : fs.getLast? with
  | none => simp [hp] at hlast
  | some p =>
    rw [hp, hf] at hlast
    obtain ⟨-, hfault⟩ := Prod.mk.inj (Option.some.inj hlast)
    simp [conclude, hp, hnames, Except.error.inj hfault]

/-- An operation could ask nobody exactly when there was nobody to ask. -/
theorem Ends.conclude_noneAvailable_iff (h : Ends vs left ending) (g : Failover σ)
    (operation : String) (model : Option String) :
    (∃ op names, g.conclude operation model ending = .error (.noneAvailable op names)) ↔
      vs = [] ∧ left = [] := by
  constructor
  · rintro ⟨op, names, heq⟩
    cases h with
    | answered _ _ => cases heq
    | cancelled _ _ hc =>
      cases heq
      cases hc
    | @failed _ fs _ hfs =>
      have hempty : fs = [] := by
        rw [conclude] at heq
        split at heq
        · cases heq
        · next hlast => exact List.getLast?_eq_none_iff.1 hlast
      rw [hempty] at hfs
      exact ⟨List.map_eq_nil_iff.1 hfs, rfl⟩
  · rintro ⟨rfl, rfl⟩
    obtain ⟨-, fs, rfl, hfs⟩ := h.eq_failed (by simp)
    obtain rfl : fs = [] := List.map_eq_nil_iff.1 hfs.symm
    exact ⟨_, _, rfl⟩

end Conclude

/-- **An operation that asks for one result.** -/
theorem attempt_isAttempt (g : Failover σ) (operation : String) (model : Option String)
    (call : Backend σ → Call σ α) (w : World (State σ)) :
    ∃ left, IsAttempt g operation model call w (g.attempt operation model call w).1
      (g.attempt operation model call w).2
      (visits call (g.eligible model w) (sharedWorld w)).1 left := by
  obtain ⟨left, ending, hwalk, hmembers, hcalls, hends⟩ :=
    walk_visits g call (g.eligible model w) w.state.breakers (sharedWorld w)
  generalize hvs : visits call (g.eligible model w) (sharedWorld w) = seen at *
  obtain ⟨vs, v⟩ := seen
  have hattempt : g.attempt operation model call w = (g.conclude operation model ending,
      withBreakers (w.state.breakers.afterAll g.policy (reports vs)) v) := by
    rw [withBreakers_sharedWorld] at hwalk
    rw [attempt, hwalk]
  rw [hattempt]
  refine ⟨left, ?_, hcalls, hends.failed_of_mem_dropLast, hends.stopped, ?_, ?_, ?_,
    hends.conclude_noneAvailable_iff g operation model, ?_, rfl⟩
  · rw [← eligible_eq, hmembers]
  · intro v hv a ha
    rw [hends.eq_answered hv ha]
    rfl
  · intro v hv f ha hf
    rw [hends.eq_cancelled hv ha hf]
    rfl
  · intro hall v f hv hf
    exact ⟨(hends.eq_failed hall).1, hends.conclude_exhausted g operation model hall hv hf⟩
  · rintro rfl
    cases hcalls
    obtain ⟨-, fs, rfl, hfs⟩ := hends.eq_failed (by simp)
    obtain rfl : fs = [] := List.map_eq_nil_iff.1 hfs.symm
    exact ⟨rfl, rfl⟩

/-- **One whole reply from a group.**  Plain and structured generation ask, in the order of
the members, those that may be asked at the start, up to the first that answers or is
cancelled, and each starts where the one before left off.  The result is what that member
gave, or, where all failed, tells of all of them and of the last failure, and there is
nobody to ask exactly if no member could be asked.  The breakers change by what the
visits report and in no other way. -/
theorem generate_isAttempt (g : Failover σ) (r : GenerationRequest) (w : World (State σ)) :
    (∃ vs left, IsAttempt g "generate" r.model (fun b => b.generate r) w
      (g.backend.generate r w).1 (g.backend.generate r w).2 vs left) ∧
    ∀ schema, ∃ vs left,
      IsAttempt g "generate_structured" r.model (fun b => b.structured r schema) w
        (g.backend.structured r schema w).1 (g.backend.structured r schema w).2 vs left :=
  ⟨⟨_, attempt_isAttempt g "generate" r.model _ w⟩,
    fun _ => ⟨_, attempt_isAttempt g "generate_structured" r.model _ w⟩⟩

end Failover
end Errand

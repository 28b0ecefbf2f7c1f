/-
# Streams of a group

SPEC_FULL.md, section 4.6, on streaming.

A group that is asked for a stream asks its members in order.  To learn whether a member
serves, it reads the first item of the member's stream and then puts it back in front.  So
two things are to be told apart: what opening does, and what reading does long after.

Opening passes over members whose start failed, and then comes to one that serves, to one
that is cancelled, or to none (`IsOpening`).  Those passed over are recorded as failures and
the one that serves as a success.

Reading is told in readings, between which anything may happen to the world
(`Feed.Reads`).  Reading the stream of a group is reading that of the member, from its first
item on, and records its errors alone (`Mirrors`, by induction on the readings).
-/

import Errand.Proofs.Backend.History
import Mathlib.Data.List.Basic

namespace Errand

/-- The reading of one item. -/
structure Reading (σ ρ : Type) where
  before : World σ
  item : ρ
  after : World σ

/-- Items can be read from a feed one after another, and some feed is left.  What happens to
the world between two readings is left open. -/
inductive Feed.Reads {σ ρ : Type} : Feed σ ρ → List (Reading σ ρ) → Feed σ ρ → Prop
  | nil (f : Feed σ ρ) : Reads f [] f
  | cons {f f' rest : Feed σ ρ} {x : Reading σ ρ} {xs : List (Reading σ ρ)} :
      f.next? x.before = (some (x.item, f'), x.after) → Reads f' xs rest → Reads f (x :: xs) rest

namespace Failover

variable {σ : Type}

/-! ### Reading -/

/-- A reading as the members see it. -/
def sharedReading {ρ : Type} (x : Reading (State σ) ρ) : Reading σ ρ :=
  ⟨sharedWorld x.before, x.item, sharedWorld x.after⟩

/-- **Reading a feed of the group is reading a feed of a member.**  The same items come, in
the same worlds, and the one is at its end when the other is.  Breakers change by what an
item reports of the member. -/
def Mirrors (g : Failover σ) (name : String) (inner : TextFeed σ) (feed : TextFeed (State σ)) :
    Prop :=
  ∀ xs rest, feed.Reads xs rest → ∃ left, inner.Reads (xs.map sharedReading) left ∧
    (rest = .done ↔ left = .done) ∧
    ∀ x ∈ xs, x.after.state.breakers =
      x.before.state.breakers.afterAll g.policy (pieceReport name x.after.now x.item)

/-- Nothing is read from a stream that has ended. -/
theorem track_done_next? (g : Failover σ) (name : String) (w : World (State σ)) :
    (g.track name .done).next? w = (none, w) := rfl

/-- A member's stream has ended when the member's own has. -/
theorem track_eq_done_iff (g : Failover σ) (name : String) (feed : TextFeed σ) :
    g.track name feed = .done ↔ feed = .done := by
  cases feed with
  | done => exact iff_of_true rfl rfl
  | item read rest => exact iff_of_false (fun h => by cases h) (fun h => by cases h)

/-- A member's stream is the member's own, by induction on the readings. -/
theorem track_mirrors (g : Failover σ) (name : String) (inner : TextFeed σ) :
    g.Mirrors name inner (g.track name inner) := by
  intro xs rest hreads
  generalize hfeed : g.track name inner = feed at hreads
  induction hreads generalizing inner with
  | nil f =>
    subst hfeed
    exact ⟨inner, .nil inner, track_eq_done_iff g name inner, by simp⟩
  | @cons f f' rest x xs hnext _ ih =>
    subst hfeed
    rcases hinner : inner.next? (sharedWorld x.before) with ⟨_ | ⟨piece, inner'⟩, v⟩
    · cases inner with
      | done =>
        rw [track_done_next?] at hnext
        cases hnext
      | item read rest' => cases hinner
    · rw [track_next? g name hinner] at hnext
      obtain ⟨hpiece, hafter⟩ := Prod.mk.inj hnext
      obtain ⟨hitem, hrest⟩ := Prod.mk.inj (Option.some.inj hpiece)
      obtain ⟨left, hreads, hdone, hbreakers⟩ := ih inner' hrest
      refine ⟨left, .cons ?_ hreads, hdone, List.forall_mem_cons.2 ⟨?_, hbreakers⟩⟩
      · rw [sharedReading, ← hafter, ← hitem]
        exact hinner
      · rw [← hafter, ← hitem]
        rfl

/-- A feed of the group serves the stream of a member, of which the first item was read
already, from the world `v` to the world `v'`. -/
inductive Serves (g : Failover σ) (name : String) (v v' : World σ) :
    TextFeed σ → TextFeed (State σ) → Prop
  /-- The stream is empty, and so is the feed. -/
  | empty : v' = v → Serves g name v v' .done .done
  /-- The first item is text.  The feed hands it out as it is, and then mirrors the rest. -/
  | pieces {inner rest : TextFeed σ} {feed feed' : TextFeed (State σ)} {piece : String} :
      inner.next? v = (some (.ok piece, rest), v') →
      (∀ w, feed.next? w = (some (.ok piece, feed'), w)) → g.Mirrors name rest feed' →
      Serves g name v v' inner feed

/-! ### Opening -/

/-- The start of a member's stream fails: it is not opened, or its first item is an error. -/
inductive StartFails (r : GenerationRequest) (b : Backend σ) (v : World σ) (f : Fault)
    (v' : World σ) : Prop
  | unopened : b.openStream r v = (.error f, v') → StartFails r b v f v'
  | first {inner rest : TextFeed σ} {v₁ : World σ} : b.openStream r v = (.ok inner, v₁) →
      inner.next? v₁ = (some (.error f, rest), v') → StartFails r b v f v'

/-- Members are passed over one after another, each at a time: their starts fail, and not
because they are cancelled. -/
inductive PassedOver (r : GenerationRequest) :
    World σ → List (Backend σ × Nat) → World σ → Prop
  | nil (v : World σ) : PassedOver r v [] v
  | cons {b : Backend σ} {f : Fault} {v v₁ v₂ : World σ} {passed : List (Backend σ × Nat)} :
      StartFails r b v f v₁ → Fault.cancelled ∉ f.causes → PassedOver r v₁ passed v₂ →
      PassedOver r v ((b, v₁.now) :: passed) v₂

/-- What is recorded of members that are passed over: one failure of each. -/
def failuresOf (passed : List (Backend σ × Nat)) : List (String × Report) :=
  passed.map fun p => (p.1.name, ⟨false, p.2⟩)

/-- **How a stream of a group is opened.**  The members that may be asked are in order those
passed over, the one at which the opening ends, and those left. -/
inductive IsOpening (g : Failover σ) (r : GenerationRequest) (w : World (State σ)) :
    Except Fault (TextFeed (State σ)) → World (State σ) → Prop
  /-- A member serves.  It is recorded as a success. -/
  | served {passed : List (Backend σ × Nat)} {b : Backend σ} {left : List (Backend σ)}
      {v v₁ : World σ} {inner : TextFeed σ} {feed : TextFeed (State σ)} {w' : World (State σ)} :
      (g.members.filter fun b => r.model.all b.supports &&
        (w.state.breakers b.name).isAvailable g.policy w.now) = passed.map (·.1) ++ b :: left →
      PassedOver r (sharedWorld w) passed v → b.openStream r v = (.ok inner, v₁) →
      Serves g b.name v₁ (sharedWorld w') inner feed →
      w'.state.breakers = w.state.breakers.afterAll g.policy
        (failuresOf passed ++ [(b.name, ⟨true, w'.now⟩)]) →
      IsOpening g r w (.ok feed) w'
  /-- A member is cancelled.  Nothing is recorded of it. -/
  | cancelled {passed : List (Backend σ × Nat)} {b : Backend σ} {left : List (Backend σ)}
      {v : World σ} {f : Fault} {w' : World (State σ)} :
      (g.members.filter fun b => r.model.all b.supports &&
        (w.state.breakers b.name).isAvailable g.policy w.now) = passed.map (·.1) ++ b :: left →
      PassedOver r (sharedWorld w) passed v → StartFails r b v f (sharedWorld w') →
      Fault.cancelled ∈ f.causes →
      w'.state.breakers = w.state.breakers.afterAll g.policy (failuresOf passed) →
      IsOpening g r w (.error f) w'
  /-- All are passed over. -/
  | failed {passed : List (Backend σ × Nat)} {f : Fault} {w' : World (State σ)} :
      (g.members.filter fun b => r.model.all b.supports &&
        (w.state.breakers b.name).isAvailable g.policy w.now) = passed.map (·.1) →
      PassedOver r (sharedWorld w) passed (sharedWorld w') →
      w'.state.breakers = w.state.breakers.afterAll g.policy (failuresOf passed) →
      IsOpening g r w (.error f) w'

/-- Calls up to the last are calls, and the last starts where they left off. -/
theorem Calls.of_concat {α : Type} {call : Backend σ → Call σ α} {v v' : World σ}
    {vs : List (Visit σ α)} {u : Visit σ α} (h : Calls call v (vs ++ [u]) v') :
    ∃ v₁, Calls call v vs v₁ ∧ call u.member v₁ = (u.answer, v') ∧ u.time = v'.now := by
  induction vs generalizing v with
  | nil =>
    cases h with
    | cons hcall hrest =>
      cases hrest
      exact ⟨v, .nil v, hcall, rfl⟩
  | cons x vs ih =>
    cases h with
    | cons hcall hrest =>
      obtain ⟨v₁, hcalls, hlast⟩ := ih hrest
      exact ⟨v₁, .cons hcall hcalls, hlast⟩

/-- Where the first item is asked for in vain, the start fails. -/
theorem startFails_of_openFirst {r : GenerationRequest} {b : Backend σ} {v v' : World σ}
    {f : Fault} (h : openFirst r b v = (.error f, v')) : StartFails r b v f v' := by
  rw [openFirst] at h
  rcases hopen : b.openStream r v with ⟨f' | _ | ⟨read, rest⟩, v₁⟩ <;> rw [hopen] at h
  · cases h
    exact .unopened hopen
  · cases h
  · dsimp only at h
    rcases hread : read v₁ with ⟨f' | piece, v₂⟩ <;> rw [hread] at h
    · cases h
      have hnext : (Feed.item read rest).next? v₁ = (some (.error f, rest (.error f)), v') := by
        rw [Feed.next?, hread]
      exact .first hopen hnext
    · cases h

/-- Where the first item is asked for with success, it is put back in front, or there is
none. -/
theorem openFirst_eq_ok {r : GenerationRequest} {b : Backend σ} {v v' : World σ} {name : String}
    {feed : TextFeed σ} (h : openFirst r b v = (.ok (name, feed), v')) :
    name = b.name ∧ ∃ inner v₁, b.openStream r v = (.ok inner, v₁) ∧
      (inner = .done ∧ feed = .done ∧ v' = v₁ ∨ ∃ piece rest,
        inner.next? v₁ = (some (.ok piece, rest), v') ∧ feed = .cons (.ok piece) rest) := by
  rw [openFirst] at h
  rcases hopen : b.openStream r v with ⟨f' | _ | ⟨read, rest⟩, v₁⟩ <;> rw [hopen] at h
  · cases h
  · cases h
    exact ⟨rfl, .done, v', rfl, .inl ⟨rfl, rfl, rfl⟩⟩
  · dsimp only at h
    rcases hread : read v₁ with ⟨f' | piece, v₂⟩ <;> rw [hread] at h
    · cases h
    · cases h
      have hnext : (Feed.item read rest).next? v₁ = (some (.ok piece, rest (.ok piece)), v') := by
        rw [Feed.next?, hread]
      exact ⟨rfl, _, v₁, rfl, .inr ⟨piece, _, hnext, rfl⟩⟩

/-- So the member serves. -/
theorem serves_of_openFirst (g : Failover σ) {r : GenerationRequest} {b : Backend σ}
    {v v' : World σ} {o : String × TextFeed σ} (h : openFirst r b v = (.ok o, v')) :
    ∃ inner v₁, b.openStream r v = (.ok inner, v₁) ∧
      Serves g b.name v₁ v' inner (g.track o.1 o.2) := by
  obtain ⟨name, feed⟩ := o
  obtain ⟨rfl, inner, v₁, hopen, ⟨rfl, rfl, rfl⟩ | ⟨piece, rest, hnext, rfl⟩⟩ := openFirst_eq_ok h
  · exact ⟨.done, _, hopen, .empty rfl⟩
  · exact ⟨inner, v₁, hopen, .pieces hnext (fun _ => rfl) (track_mirrors g b.name rest)⟩

/-- The member of a visit and the time at which the visit was over. -/
def passedBy {α : Type} (vs : List (Visit σ α)) : List (Backend σ × Nat) :=
  vs.map fun x => (x.member, x.time)

/-- Those passed by are those visited. -/
theorem map_fst_passedBy {α : Type} (vs : List (Visit σ α)) :
    (passedBy vs).map (·.1) = vs.map (·.member) := by
  rw [passedBy, List.map_map]
  rfl

/-- The members that were visited, the last one apart. -/
theorem map_member_concat {α : Type} (vs : List (Visit σ α)) (u : Visit σ α)
    (left : List (Backend σ)) :
    (vs ++ [u]).map (·.member) ++ left = (passedBy vs).map (·.1) ++ u.member :: left := by
  rw [map_fst_passedBy, List.map_append, List.append_assoc]
  rfl

/-- Failed visits pass their members over. -/
theorem passedOver_of_calls {r : GenerationRequest} {v v' : World σ}
    {vs : List (Visit σ (String × TextFeed σ))} (h : Calls (openFirst r) v vs v')
    (hfailed : ∀ x ∈ vs, x.Failed) : PassedOver r v (passedBy vs) v' := by
  induction h with
  | nil v => exact .nil v
  | cons hcall _ ih =>
    obtain ⟨⟨f, hanswer, hf⟩, hrest⟩ := List.forall_mem_cons.1 hfailed
    obtain rfl := hanswer
    have hcause : Fault.cancelled ∉ f.causes := by
      rw [← f.isCancellation_iff, hf]
      exact Bool.false_ne_true
    exact .cons (startFails_of_openFirst hcall) hcause (ih hrest)

/-- Failed visits report one failure each. -/
theorem reports_of_failed {α : Type} {vs : List (Visit σ α)} (hfailed : ∀ x ∈ vs, x.Failed) :
    reports vs = failuresOf (passedBy vs) := by
  have hreport : ∀ x ∈ vs, x.report? = some (x.member.name, ⟨false, x.time⟩) := by
    intro x hx
    obtain ⟨f, hanswer, hf⟩ := hfailed x hx
    simp [Visit.report?, hanswer, hf]
  rw [reports, failuresOf, passedBy, List.map_map, ← List.filterMap_eq_map]
  exact List.filterMap_congr hreport

/-- A member that answers after them reports a success. -/
theorem reports_answered {α : Type} {vs : List (Visit σ α)} {u : Visit σ α} {a : α}
    (hfailed : ∀ x ∈ vs, x.Failed) (hanswer : u.answer = .ok a) :
    reports (vs ++ [u]) = failuresOf (passedBy vs) ++ [(u.member.name, ⟨true, u.time⟩)] := by
  have hreport : u.report? = some (u.member.name, ⟨true, u.time⟩) := by
    rw [Visit.report?, hanswer]
  rw [← reports_of_failed hfailed, reports, List.filterMap_append,
    List.filterMap_cons_some hreport]
  rfl

/-- A member that is cancelled after them reports nothing. -/
theorem reports_cancelled {α : Type} {vs : List (Visit σ α)} {u : Visit σ α} {f : Fault}
    (hfailed : ∀ x ∈ vs, x.Failed) (hanswer : u.answer = .error f)
    (hf : f.isCancellation = true) : reports (vs ++ [u]) = failuresOf (passedBy vs) := by
  have hreport : u.report? = none := by
    rw [Visit.report?, hanswer]
    exact if_pos hf
  rw [← reports_of_failed hfailed, reports, List.filterMap_append,
    List.filterMap_cons_none hreport]
  exact List.append_nil _

/-- How a walk for a first item ended tells how the opening did, by what its visits were. -/
theorem Ends.isOpening {vs : List (Visit σ (String × TextFeed σ))} {left : List (Backend σ)}
    {ending : Walk (String × TextFeed σ)} (h : Ends vs left ending) {g : Failover σ}
    {r : GenerationRequest} {w : World (State σ)} {v' : World σ}
    (hwalk : g.walk (openFirst r) (g.eligible r.model w) w =
      (ending, withBreakers (w.state.breakers.afterAll g.policy (reports vs)) v'))
    (hmembers : g.eligible r.model w = vs.map (·.member) ++ left)
    (hcalls : Calls (openFirst r) (sharedWorld w) vs v') :
    IsOpening g r w (g.openStream r w).1 (g.openStream r w).2 := by
  rw [eligible_eq] at hmembers
  cases h with
  | @answered us u _ o hfailed hanswer =>
    obtain ⟨v, hpassed, hcall, htime⟩ := hcalls.of_concat
    rw [hanswer] at hcall
    obtain ⟨inner, v₁, hopen, hserves⟩ := serves_of_openFirst g hcall
    rw [openStream, attempt, hwalk, reports_answered hfailed hanswer, htime]
    exact .served (hmembers.trans (map_member_concat us u left))
      (passedOver_of_calls hpassed hfailed) hopen hserves rfl
  | @cancelled us u _ f hfailed hanswer hf =>
    obtain ⟨v, hpassed, hcall, -⟩ := hcalls.of_concat
    rw [hanswer] at hcall
    rw [openStream, attempt, hwalk, reports_cancelled hfailed hanswer hf]
    exact .cancelled (hmembers.trans (map_member_concat us u left))
      (passedOver_of_calls hpassed hfailed) (startFails_of_openFirst hcall)
      (f.isCancellation_iff.1 hf) rfl
  | @failed _ fs hfailed hfs =>
    obtain ⟨f, hconclude⟩ : ∃ f, g.conclude "generate_stream" r.model
        (.failed fs : Walk (String × TextFeed σ)) = .error f := by
      rw [conclude]
      split <;> exact ⟨_, rfl⟩
    rw [openStream, attempt, hwalk, reports_of_failed hfailed]
    dsimp only
    rw [hconclude]
    refine .failed (hmembers.trans ?_) (passedOver_of_calls hcalls hfailed) rfl
    rw [map_fst_passedBy, List.append_nil]

/-- **A stream of a group.**  It comes from the first member, in the order of those that may be
asked, whose stream opens with no error in front.  Those before are recorded as failures and
it as a success.  The feed hands out what its stream would, from the first item on, and its
errors alone are recorded while the feed is read. -/
theorem openStream_isOpening (g : Failover σ) (r : GenerationRequest) (w : World (State σ)) :
    IsOpening g r w (g.backend.openStream r w).1 (g.backend.openStream r w).2 := by
  obtain ⟨left, ending, hwalk, hmembers, hcalls, hends⟩ :=
    walk_visits g (openFirst r) (g.eligible r.model w) w.state.breakers (sharedWorld w)
  rw [withBreakers_sharedWorld] at hwalk
  exact hends.isOpening hwalk hmembers hcalls

end Failover
end Errand

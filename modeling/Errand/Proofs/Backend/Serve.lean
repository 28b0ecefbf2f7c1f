/-
# One reply from a tree of backends

SPEC_FULL.md, section 4.6, steps (a) to (d).

Asked for one whole reply, a group asks its members, and a member that is a group asks its
own.  `Asked` is one such question to what stands at a seat, with what came of it.  From the
questions, in the order in which they were over, everything else is read off: which leaves
were called (`called`), and what the groups recorded (`recordAll`).

`Served` relates the questions to the world before and after.  It is kept when what one
member came to is put before what the later ones come to (`Served.append`) and when a group
records what a member that is a group came to (`Served.own`), so it holds of every tree, by
induction on the tree and on the members (`ask_served`, `walk_served`).  A cancellation is
passed up as it is and no group on its way records it, so however deep it happens it is told
from a failure at the root (`Served.isReply`).
-/

import Errand.Proofs.Backend.Tree
import Errand.Proofs.Backend.Walk
import Mathlib.Data.List.Basic

namespace Errand

open Json (Value)

/-- What one whole reply can be asked as. -/
inductive WholeReply : Type → Type where
  | text : WholeReply String
  | structured (schema : Value) : WholeReply Value

namespace WholeReply

variable {σ τ α : Type}

/-- The operation that asks for it. -/
def call : WholeReply α → GenerationRequest → Backend σ → Call σ α
  | .text, r, b => b.generate r
  | .structured schema, r, b => b.structured r schema

/-- What a group calls the operation. -/
def name : WholeReply α → String
  | .text => "generate"
  | .structured _ => "generate_structured"

/-- A call of a backend on a part of the state leaves the rest alone. -/
theorem call_within (k : WholeReply α) (r : GenerationRequest) (f : Focus τ σ) (b : Backend σ) :
    k.call r (b.within f) = f.zoom (k.call r b) := by
  cases k <;> rfl

/-- A call of a group is an attempt. -/
theorem call_group (k : WholeReply α) (r : GenerationRequest) (g : Failover σ) :
    k.call r g.backend = g.attempt k.name r.model (k.call r) := by
  cases k <;> rfl

end WholeReply

/-- What settles an operation: an answer or a cancellation, but no failure. -/
def settled? {α : Type} (x : Except Fault α) : Option (Except Fault α) :=
  match x with
  | .ok a => some (.ok a)
  | .error f => if f.isCancellation then some (.error f) else none

/-- What settled a walk. -/
def Walk.settled? {α : Type} : Walk α → Option (Except Fault α)
  | .answered a => some (.ok a)
  | .cancelled f => some (.error f)
  | .failed _ => none

/-- A failure before a walk does not change what the walk settles. -/
theorem Walk.settled?_afterFailure {α : Type} (name : String) (f : Fault) (r : Walk α) :
    (r.afterFailure name f).settled? = r.settled? := by
  cases r <;> rfl

/-- Calls go on where others left off. -/
theorem Failover.Calls.append {σ α : Type} {call : Backend σ → Call σ α} {v v₁ v₂ : World σ}
    {vs us : List (Visit σ α)} (h : Calls call v vs v₁) (h' : Calls call v₁ us v₂) :
    Calls call v (vs ++ us) v₂ := by
  induction h with
  | nil _ => exact h'
  | cons hcall _ ih => exact .cons hcall (ih h')

namespace BackendTree

open Failover (withBreakers sharedWorld)

variable {σ α : Type}

/-- What stands at a seat was asked, gave an answer, and it was over at a time. -/
structure Asked (σ α : Type) where
  seat : Seat σ
  answer : Except Fault α
  time : Nat

namespace Asked

/-- What the group of the seat records: nothing for a cancellation. -/
def report? (a : Asked σ α) : Option (String × Report) :=
  Visit.report? ⟨a.seat.member, a.answer, a.time⟩

/-- The leaf that was called. -/
def leaf? (a : Asked σ α) : Option (List Nat × Visit σ α) :=
  match a.seat.tree with
  | .leaf b => some (a.seat.position, ⟨b, a.answer, a.time⟩)
  | .group _ _ => none

end Asked

/-- The leaves that were called, with their positions. -/
def called (as : List (Asked σ α)) : List (List Nat × Visit σ α) := as.filterMap Asked.leaf?

/-- The breakers after the group of a seat recorded what came of asking there. -/
def record (bs : List Nat → Breakers) (a : Asked σ α) : List Nat → Breakers :=
  Function.update bs a.seat.group
    ((bs a.seat.group).afterAll a.seat.policy a.report?.toList)

/-- The breakers after all groups recorded what came of their questions. -/
def recordAll (bs : List Nat → Breakers) (as : List (Asked σ α)) : List Nat → Breakers :=
  as.foldl record bs

/-- The world as leaves see it. -/
def leafWorld (w : World (State σ)) : World σ :=
  { state := w.state.leaves, now := w.now, cancelled := w.cancelled }

/-- The world of a tree when the group at `p` has the given breakers. -/
def outside (p : List Nat) (bs : Breakers) (w : World (State σ)) : World (State σ) :=
  { w with state := { w.state with breakers := Function.update w.state.breakers p bs } }

/-- The world after the group of a seat recorded what came of asking there. -/
def recordIn (a : Asked σ α) (w : World (State σ)) : World (State σ) :=
  { w with state := { w.state with breakers := record w.state.breakers a } }

/-- How an operation is settled by the leaves it called: by the first that did not fail,
which is the last. -/
inductive Settles : List (List Nat × Visit σ α) → Option (Except Fault α) → Prop
  | settled {vs : List (List Nat × Visit σ α)} {v : List Nat × Visit σ α} {x : Except Fault α} :
      (∀ u ∈ vs, u.2.Failed) → v.2.answer = x → settled? x = some x →
        Settles (vs ++ [v]) (some x)
  | unsettled {vs : List (List Nat × Visit σ α)} : (∀ u ∈ vs, u.2.Failed) → Settles vs none

/-- Questions were put at some of the given seats and left the world `w` as `w'`. -/
structure Served (k : WholeReply α) (r : GenerationRequest) (seats : List (Seat σ))
    (w : World (State σ)) (as : List (Asked σ α)) (s : Option (Except Fault α))
    (w' : World (State σ)) : Prop where
  seats : (as.map (·.seat)).Sublist seats
  calls : Failover.Calls (k.call r) (leafWorld w) ((called as).map (·.2)) (leafWorld w')
  supported : ∀ v ∈ called as, r.model.all v.2.member.supports = true
  settles : Settles (called as) s
  breakers : w'.state.breakers = recordAll w.state.breakers as
  spared : ∀ f, s = some (.error f) → ∀ v, (called as).getLast? = some v →
    ∀ a ∈ as, a.seat.position <+: v.1 → a.report? = none

/-! ### Questions one after another -/

section Served

variable {k : WholeReply α} {r : GenerationRequest} {seats seats' : List (Seat σ)}
  {w w₁ w' : World (State σ)} {as as' : List (Asked σ α)} {s : Option (Except Fault α)}

theorem called_append (as as' : List (Asked σ α)) : called (as ++ as') = called as ++ called as' :=
  List.filterMap_append

/-- Answers may be recorded in two lots. -/
theorem recordAll_append (bs : List Nat → Breakers) (as as' : List (Asked σ α)) :
    recordAll bs (as ++ as') = recordAll (recordAll bs as) as' :=
  List.foldl_append

/-- What groups record elsewhere leaves the breakers of the group at `p` alone. -/
theorem recordAll_update {p : List Nat} (h : ∀ a ∈ as, a.seat.group ≠ p)
    (bs : List Nat → Breakers) (b : Breakers) :
    recordAll (Function.update bs p b) as = Function.update (recordAll bs as) p b := by
  induction as generalizing bs with
  | nil => rfl
  | cons a as ih =>
    obtain ⟨ha, has⟩ := List.forall_mem_cons.1 h
    have hrecord : record (Function.update bs p b) a = Function.update (record bs a) p b := by
      rw [record, record, Function.update_of_ne ha, Function.update_comm ha]
    rw [recordAll, List.foldl_cons, hrecord]
    exact ih has _

/-- An answer that ends everything is reported against nobody. -/
theorem report?_of_settled_error {a : Asked σ α} {f : Fault}
    (h : settled? a.answer = some (.error f)) : a.report? = none := by
  rw [Asked.report?, Visit.report?]
  revert h
  cases a.answer with
  | ok x =>
    intro h
    cases h
  | error g =>
    rw [settled?]
    split
    · next hg => exact fun _ => if_pos hg
    · intro h
      cases h

/-- Where nothing is settled, every visit failed. -/
theorem Settles.failed {vs : List (List Nat × Visit σ α)} (h : Settles vs none) :
    ∀ v ∈ vs, v.2.Failed := by
  cases h with
  | unsettled h => exact h

/-- Where something is settled, somebody was visited. -/
theorem Settles.ne_nil {vs : List (List Nat × Visit σ α)} {x : Except Fault α}
    (h : Settles vs (some x)) : vs ≠ [] := by
  cases h with
  | settled _ _ _ => simp

/-- Leaves that failed settle nothing. -/
theorem Settles.append {vs us : List (List Nat × Visit σ α)} (hvs : ∀ v ∈ vs, v.2.Failed)
    (h : Settles us s) : Settles (vs ++ us) s := by
  cases h with
  | settled hus hv hx =>
    rw [← List.append_assoc]
    exact .settled (List.forall_mem_append.2 ⟨hvs, hus⟩) hv hx
  | unsettled hus => exact .unsettled (List.forall_mem_append.2 ⟨hvs, hus⟩)

/-- A single leaf settles what it settles. -/
theorem settles_singleton (q : List Nat) (v : Visit σ α) :
    Settles [(q, v)] (settled? v.answer) := by
  rcases hv : v.answer with f | a
  · by_cases hf : f.isCancellation = true
    · have hsettled : settled? (.error f : Except Fault α) = some (.error f) := if_pos hf
      rw [hsettled]
      exact @Settles.settled _ _ [] _ _ (by simp) hv hsettled
    · have hsettled : settled? (.error f : Except Fault α) = none := if_neg hf
      rw [hsettled]
      exact .unsettled (List.forall_mem_singleton.2 ⟨f, hv, by simpa using hf⟩)
  · exact @Settles.settled _ _ [] _ _ (by simp) hv rfl

/-- The position of a leaf that was called is that of a seat. -/
theorem position_of_mem_called {v : List Nat × Visit σ α} (h : v ∈ called as) :
    ∃ a ∈ as, a.seat.position = v.1 := by
  obtain ⟨a, ha, hv⟩ := List.mem_filterMap.1 h
  refine ⟨a, ha, ?_⟩
  rw [Asked.leaf?] at hv
  split at hv
  · obtain rfl := Option.some.inj hv
    rfl
  · cases hv

namespace Served

/-- Where nothing is asked, nothing happens. -/
theorem nil (w : World (State σ)) : Served k r seats w [] none w where
  seats := List.nil_sublist _
  calls := .nil _
  supported := by simp [called]
  settles := .unsettled (by simp [called])
  breakers := rfl
  spared := by simp

/-- There may be more seats than were asked at. -/
theorem mono (h : Served k r seats w as s w') (hsub : seats.Sublist seats') :
    Served k r seats' w as s w' :=
  { h with seats := h.seats.trans hsub }

/-- Only seats that there are were asked. -/
theorem seat_mem (h : Served k r seats w as s w') {a : Asked σ α} (ha : a ∈ as) :
    a.seat ∈ seats :=
  h.seats.subset (List.mem_map_of_mem ha)

/-- Where some questions settled nothing, others may follow at seats not below theirs. -/
theorem append (h : Served k r seats w as none w₁) (h' : Served k r seats' w₁ as' s w')
    (hapart : ∀ x ∈ seats, ∀ y ∈ seats', ¬x.position <+: y.position) :
    Served k r (seats ++ seats') w (as ++ as') s w' where
  seats := by
    rw [List.map_append]
    exact h.seats.append h'.seats
  calls := by
    rw [called_append, List.map_append]
    exact h.calls.append h'.calls
  supported := by
    rw [called_append]
    exact List.forall_mem_append.2 ⟨h.supported, h'.supported⟩
  settles := by
    rw [called_append]
    exact h'.settles.append h.settles.failed
  breakers := by rw [h'.breakers, h.breakers, recordAll_append]
  spared := by
    intro f hs v hv a ha hprefix
    have hne : called as' ≠ [] := (hs ▸ h'.settles).ne_nil
    rw [called_append, List.getLast?_append_of_ne_nil _ hne] at hv
    rcases List.mem_append.1 ha with ha | ha
    · obtain ⟨b, hb, hposition⟩ := position_of_mem_called (List.mem_of_getLast? hv)
      rw [← hposition] at hprefix
      exact absurd hprefix (hapart _ (h.seat_mem ha) _ (h'.seat_mem hb))
    · exact h'.spared f hs v hv a ha hprefix

/-- What is asked within a member leaves the breakers of the member's group alone. -/
theorem outside {p : List Nat} (h : Served k r seats w as s w')
    (hne : ∀ x ∈ seats, x.group ≠ p) (bs : Breakers) :
    Served k r seats (outside p bs w) as s (outside p bs w') :=
  { h with
    breakers := by
      have hgroups : ∀ a ∈ as, a.seat.group ≠ p := fun a ha => hne _ (h.seat_mem ha)
      have hframe := recordAll_update hgroups w.state.breakers bs
      rw [← h.breakers] at hframe
      exact hframe.symm }

/-- A group records what a member that is itself a group came to. -/
theorem own (h : Served k r seats w as s w') (a : Asked σ α) (ha : a.leaf? = none)
    (hs : settled? a.answer = s) :
    Served k r (seats ++ [a.seat]) w (as ++ [a]) s (recordIn a w') := by
  have hcalled : called (as ++ [a]) = called as := by
    have hnone : called [a] = [] := List.filterMap_cons_none ha
    rw [called_append, hnone, List.append_nil]
  refine ⟨?_, ?_, ?_, ?_, ?_, ?_⟩
  · rw [List.map_append]
    exact h.seats.append (List.Sublist.refl _)
  · rw [hcalled]
    exact h.calls
  · rw [hcalled]
    exact h.supported
  · rw [hcalled]
    exact h.settles
  · rw [recordAll_append, ← h.breakers]
    rfl
  · rw [hcalled]
    intro f hf v hv b hb hprefix
    rcases List.mem_append.1 hb with hb | hb
    · exact h.spared f hf v hv b hb hprefix
    · obtain rfl := List.mem_singleton.1 hb
      exact report?_of_settled_error (hs.trans hf)

/-- A leaf is called, and its group records what it came to. -/
theorem leaf (x : Seat σ) (w : World (State σ)) {b : Backend σ} (hx : x.tree = .leaf b)
    (hsupports : r.model.all b.supports = true) {y : Except Fault α} {v : World σ}
    (hcall : k.call r b (leafWorld w) = (y, v)) :
    Served k r [x] w [⟨x, y, v.now⟩] (settled? y)
      (recordIn ⟨x, y, v.now⟩
        { state := { w.state with leaves := v.state }
          now := v.now
          cancelled := v.cancelled }) := by
  have hleaf : Asked.leaf? ⟨x, y, v.now⟩ = some (x.position, ⟨b, y, v.now⟩) := by
    rw [Asked.leaf?]
    simp only [hx]
  have hcalled : called [⟨x, y, v.now⟩] = [(x.position, ⟨b, y, v.now⟩)] :=
    List.filterMap_cons_some hleaf
  refine ⟨List.Sublist.refl _, ?_, ?_, ?_, rfl, ?_⟩
  · rw [hcalled]
    exact .cons hcall (.nil _)
  · rw [hcalled]
    exact List.forall_mem_singleton.2 hsupports
  · rw [hcalled]
    exact settles_singleton _ _
  · intro f hf _ _ a ha _
    obtain rfl := List.mem_singleton.1 ha
    exact report?_of_settled_error hf

end Served
end Served

/-! ### Trees -/

section Tree

variable (k : WholeReply α) (r : GenerationRequest)

/-- What a leaf does is done with the state of the leaves. -/
theorem zoom_focus (step : World σ → α × World σ) (w : World (State σ)) :
    State.focus.zoom step w = ((step (leafWorld w)).1,
      { state := { w.state with leaves := (step (leafWorld w)).2.state },
        now := (step (leafWorld w)).2.now, cancelled := (step (leafWorld w)).2.cancelled }) :=
  rfl

/-- What a group does is done with its own breakers and put back. -/
theorem zoom_groupAt (p : List Nat)
    (step : World (Failover.State (State σ)) → α × World (Failover.State (State σ)))
    (w : World (State σ)) :
    (State.groupAt p).zoom step w =
      ((step (withBreakers (w.state.breakers p) w)).1,
        outside p (step (withBreakers (w.state.breakers p) w)).2.state.breakers
          (sharedWorld (step (withBreakers (w.state.breakers p) w)).2)) :=
  rfl

/-- Putting the breakers of a group where they are changes nothing. -/
theorem outside_self (p : List Nat) (w : World (State σ)) :
    outside p (w.state.breakers p) w = w := by
  rw [outside, Function.update_eq_self]

/-- What the group at `p` records of a member changes its own breakers. -/
theorem recordIn_outside {p : List Nat} {a : Asked σ α} (ha : a.seat.group = p) (bs : Breakers)
    (w : World (State σ)) :
    recordIn a (outside p bs w) = outside p (bs.afterAll a.seat.policy a.report?.toList) w := by
  subst ha
  simp only [recordIn, outside, record, Function.update_self, Function.update_idem]

/-- A group passes on what settled its walk, and nothing else settles its operation. -/
theorem settled?_conclude (g : Failover σ) (operation : String) (model : Option String)
    (call : Backend σ → Call σ α) (bs : List (Backend σ)) (w : World (Failover.State σ)) :
    settled? (g.conclude operation model (g.walk call bs w).1) = (g.walk call bs w).1.settled? := by
  obtain ⟨left, ending, hwalk, -, -, hends⟩ :=
    Failover.walk_visits g call bs w.state.breakers (sharedWorld w)
  rw [Failover.withBreakers_sharedWorld] at hwalk
  rw [hwalk]
  generalize (Failover.visits call bs (sharedWorld w)).1 = visits at hends
  cases hends with
  | answered _ _ => rfl
  | cancelled _ _ hf => exact if_pos hf
  | @failed _ fs hfailed hfs =>
    rw [Failover.conclude]
    cases hlast : fs.getLast? with
    | none => rfl
    | some last =>
      have hmem := List.mem_of_getLast? hlast
      have hvisit : (last.1, Except.error last.2) ∈
          visits.map fun x => (x.member.name, x.answer) := by
        rw [hfs]
        exact List.mem_map_of_mem hmem
      obtain ⟨v, hv, heq⟩ := List.mem_map.1 hvisit
      obtain ⟨f, hanswer, hf⟩ := hfailed v hv
      have hlastFault : last.2 = f := by
        have := (Prod.mk.inj heq).2
        rw [hanswer] at this
        exact (Except.error.inj this).symm
      have hnot : (Fault.exhausted operation (fs.map (·.1)) last.2).isCancellation = false := by
        rw [Fault.isCancellation, hlastFault, hf]
      exact if_neg (by simp [hnot])

/-- **One reply from a group,** if what walks among its members come to is known. -/
theorem group_served (p : List Nat) (policy : BreakerPolicy) (members : List (BackendTree σ))
    (w : World (State σ))
    (hwalk : ∀ keep : Backend (State σ) → Bool,
      (∀ b, keep b = true → r.model.all b.supports = true) →
      ∃ as, Served k r (seatsOf p policy 0 members) (outside p (w.state.breakers p) w) as
        (Failover.walk ⟨policy, backends p 0 members⟩ (k.call r)
          ((backends p 0 members).filter keep) (withBreakers (w.state.breakers p) w)).1.settled?
        (outside p (Failover.walk ⟨policy, backends p 0 members⟩ (k.call r)
          ((backends p 0 members).filter keep)
            (withBreakers (w.state.breakers p) w)).2.state.breakers
          (sharedWorld (Failover.walk ⟨policy, backends p 0 members⟩ (k.call r)
            ((backends p 0 members).filter keep) (withBreakers (w.state.breakers p) w)).2))) :
    ∃ as, Served k r (seatsOf p policy 0 members) w as
      (settled? (k.call r ((group policy members).backend p) w).1)
      (k.call r ((group policy members).backend p) w).2 := by
  obtain ⟨as, hserved⟩ := hwalk
    (fun b => r.model.all b.supports &&
      (w.state.breakers p b.name).isAvailable policy w.now)
    fun b hb => (Bool.and_eq_true_iff.1 hb).1
  rw [outside_self] at hserved
  refine ⟨as, ?_⟩
  rw [backend, WholeReply.call_within, WholeReply.call_group, zoom_groupAt]
  dsimp only [Failover.attempt]
  rw [settled?_conclude, Failover.eligible_eq]
  exact hserved

mutual

/-- **What a group's question to one of its members comes to,** once the group has recorded
it. -/
theorem ask_served (p : List Nat) (policy : BreakerPolicy) (n : Nat) (bs : Breakers) :
    ∀ (t : BackendTree σ) (w : World (State σ)) (x : Except Fault α) (w₁ : World (State σ)),
      r.model.all (t.backend (p ++ [n])).supports = true →
      k.call r (t.backend (p ++ [n])) w = (x, w₁) →
      ∃ as, Served k r (seatsAt ⟨p, policy, n, t⟩) (outside p bs w) as (settled? x)
        (recordIn ⟨⟨p, policy, n, t⟩, x, w₁.now⟩ (outside p bs w₁))
  | .leaf b, w, x, w₁, hsupports, hcall => by
    rcases hleaf : k.call r b (leafWorld w) with ⟨y, v⟩
    rw [backend, WholeReply.call_within, zoom_focus, hleaf] at hcall
    obtain ⟨rfl, rfl⟩ := Prod.mk.inj hcall
    exact ⟨_, Served.leaf ⟨p, policy, n, .leaf b⟩ (outside p bs w) rfl hsupports hleaf⟩
  | .group policy' members, w, x, w₁, _, hcall => by
    obtain ⟨as, hserved⟩ := group_served k r (p ++ [n]) policy' members w fun _ hkeep =>
      walk_served (p ++ [n]) ⟨policy', backends (p ++ [n]) 0 members⟩ hkeep members 0 _ w
    rw [hcall] at hserved
    have hbelow : ∀ s ∈ seatsOf (p ++ [n]) policy' 0 members, s.group ≠ p := fun s hs =>
      group_ne_of_mem_seats (t := .group policy' members) hs
    exact ⟨_, (hserved.outside hbelow bs).own ⟨⟨p, policy, n, .group policy' members⟩, x, w₁.now⟩
      rfl rfl⟩

/-- **What asking members one after another comes to.** -/
theorem walk_served (p : List Nat) (g : Failover (State σ)) {keep : Backend (State σ) → Bool}
    (hkeep : ∀ b, keep b = true → r.model.all b.supports = true) :
    ∀ (ts : List (BackendTree σ)) (n : Nat) (bs : Breakers) (w : World (State σ)),
      ∃ as, Served k r (seatsOf p g.policy n ts) (outside p bs w) as
        (g.walk (k.call r) ((backends p n ts).filter keep) (withBreakers bs w)).1.settled?
        (outside p
          (g.walk (k.call r) ((backends p n ts).filter keep) (withBreakers bs w)).2.state.breakers
          (sharedWorld
            (g.walk (k.call r) ((backends p n ts).filter keep) (withBreakers bs w)).2))
  | [], n, bs, w => ⟨[], Served.nil _⟩
  | t :: ts, n, bs, w => by
    rw [backends, seatsOf_cons]
    by_cases hb : keep (t.backend (p ++ [n])) = true
    · rw [List.filter_cons_of_pos hb, Failover.walk, Failover.zoom_withBreakers]
      rcases hcall : k.call r (t.backend (p ++ [n])) w with ⟨x, w₁⟩
      obtain ⟨as, hask⟩ := ask_served p g.policy n bs t w x w₁ (hkeep _ hb) hcall
      rw [recordIn_outside rfl] at hask
      rcases x with f | a
      · by_cases hf : f.isCancellation = true
        · have hsettled : settled? (.error f : Except Fault α) = some (.error f) := if_pos hf
          have hreport : (⟨⟨p, g.policy, n, t⟩, .error f, w₁.now⟩ : Asked σ α).report? = none :=
            report?_of_settled_error hsettled
          rw [hsettled, hreport] at hask
          dsimp only
          rw [if_pos hf]
          exact ⟨as, hask.mono (List.sublist_append_left _ _)⟩
        · have hsettled : settled? (.error f : Except Fault α) = none := if_neg hf
          have hreport : (⟨⟨p, g.policy, n, t⟩, .error f, w₁.now⟩ : Asked σ α).report? =
              some ((t.backend (p ++ [n])).name, ⟨false, w₁.now⟩) := if_neg hf
          rw [hsettled, hreport] at hask
          obtain ⟨as', hrest⟩ := walk_served p g hkeep ts (n + 1) _ w₁
          dsimp only
          rw [if_neg hf, Walk.settled?_afterFailure]
          refine ⟨as ++ as', hask.append hrest ?_⟩
          intro s hs s' hs'
          obtain ⟨-, m, hm, hposition⟩ := position_of_mem_seatsOf hs'
          exact not_prefix_of_ne (Nat.ne_of_lt hm) (position_of_mem_seatsAt hs) hposition
      · exact ⟨as, hask.mono (List.sublist_append_left _ _)⟩
    · rw [List.filter_cons_of_neg hb]
      obtain ⟨as, hserved⟩ := walk_served p g hkeep ts (n + 1) bs w
      exact ⟨as, hserved.mono (List.sublist_append_right _ _)⟩

end

end Tree

/-- All that is to be seen of one whole reply from a tree: the questions `as` were put at
its seats, it gave `result`, and it left the world `w` as `w'`. -/
structure IsReply (k : WholeReply α) (r : GenerationRequest) (t : BackendTree σ)
    (w : World (State σ)) (result : Except Fault α) (w' : World (State σ))
    (as : List (Asked σ α)) : Prop where
  /-- The leaves that were called are leaves of the tree, from left to right, -/
  leaves : ((called as).map fun v => (v.1, v.2.member)).Sublist (t.leaves [])
  /-- and none of them was called twice. -/
  once : ((called as).map (·.1)).Pairwise (· < ·)
  supported : ∀ v ∈ called as, r.model.all v.2.member.supports = true
  /-- Each was called in the world that the one before left. -/
  calls : Failover.Calls (k.call r) (leafWorld w) ((called as).map (·.2)) (leafWorld w')
  failed : ∀ v ∈ (called as).dropLast, v.2.Failed
  answered : ∀ a, result = .ok a ↔ ∃ v, (called as).getLast? = some v ∧ v.2.answer = .ok a
  cancelled : ∀ f, f.isCancellation = true →
    (result = .error f ↔ ∃ v, (called as).getLast? = some v ∧ v.2.answer = .error f)
  seats : (as.map (·.seat)).Sublist (t.seats [])
  /-- Groups record what came of their questions and nothing else, -/
  breakers : w'.state.breakers = recordAll w.state.breakers as
  /-- and of what carried a cancellation up to the root they record nothing. -/
  spared : ∀ v f, (called as).getLast? = some v → v.2.answer = .error f →
    f.isCancellation = true → ∀ a ∈ as, a.seat.position <+: v.1 → a.report? = none

/-- Leaves are called in the order of their seats, each once at most. -/
theorem Served.called_sublist {k : WholeReply α} {r : GenerationRequest} {seats : List (Seat σ)}
    {w w' : World (State σ)} {as : List (Asked σ α)} {s : Option (Except Fault α)}
    (h : Served k r seats w as s w') :
    ((called as).map fun v => (v.1, v.2.member)).Sublist (seats.filterMap Seat.leaf?) := by
  have hleaf : ((called as).map fun v => (v.1, v.2.member)) =
      (as.map (·.seat)).filterMap Seat.leaf? := by
    rw [called, List.map_filterMap, List.filterMap_map]
    refine List.filterMap_congr fun a _ => ?_
    rw [Asked.leaf?, Function.comp, Seat.leaf?]
    cases a.seat.tree <;> rfl
  rw [hleaf]
  exact h.seats.filterMap _

/-- A result that a group gave is the answer that settled it. -/
theorem eq_of_settled? {result x : Except Fault α} (h : settled? result = some x) :
    result = x := by
  rcases result with f | a
  · rw [settled?] at h
    split at h
    · exact Option.some.inj h
    · cases h
  · exact Option.some.inj h

/-- What settles leaves and what was called last. -/
theorem Settles.eq_some_iff {vs : List (List Nat × Visit σ α)} {s : Option (Except Fault α)}
    (h : Settles vs s) {x : Except Fault α} (hx : settled? x = some x) :
    s = some x ↔ ∃ v, vs.getLast? = some v ∧ v.2.answer = x := by
  cases h with
  | @settled us u y hus hu hy =>
    constructor
    · intro hyx
      exact ⟨u, List.getLast?_concat, hu.trans (Option.some.inj hyx)⟩
    · rintro ⟨v, hv, hanswer⟩
      obtain rfl := Option.some.inj (List.getLast?_concat.symm.trans hv)
      rw [← hu, hanswer]
  | unsettled hvs =>
    constructor
    · exact fun hnone => nomatch hnone
    · rintro ⟨v, hv, hanswer⟩
      obtain ⟨f, hf, hfailed⟩ := hvs v (List.mem_of_getLast? hv)
      have hnone : settled? x = none := by
        rw [← hanswer, hf, settled?, if_neg (by simp [hfailed])]
      rw [hnone] at hx
      cases hx

/-- Every visit before the last failed. -/
theorem Settles.failed_of_mem_dropLast {vs : List (List Nat × Visit σ α)}
    {s : Option (Except Fault α)} (h : Settles vs s) : ∀ v ∈ vs.dropLast, v.2.Failed := by
  cases h with
  | settled hvs _ _ =>
    rw [List.dropLast_concat]
    exact hvs
  | unsettled hvs => exact fun v hv => hvs v (List.dropLast_subset _ hv)

/-- A reply from a group is what its members were served. -/
theorem Served.isReply {k : WholeReply α} {r : GenerationRequest} {t : BackendTree σ}
    {w w' : World (State σ)} {as : List (Asked σ α)} {result : Except Fault α}
    (h : Served k r (t.seats []) w as (settled? result) w')
    (hleaves : (t.seats []).filterMap Seat.leaf? = t.leaves []) :
    IsReply k r t w result w' as := by
  have hsublist := h.called_sublist
  rw [hleaves] at hsublist
  have honce : ((called as).map (·.1)).Pairwise (· < ·) := by
    have hpairwise := (leaves_pairwise [] t).sublist hsublist
    rw [List.pairwise_map] at hpairwise ⊢
    exact hpairwise
  have hlast : ∀ x : Except Fault α, settled? x = some x →
      (result = x ↔ ∃ v, (called as).getLast? = some v ∧ v.2.answer = x) := by
    intro x hx
    rw [← h.settles.eq_some_iff hx]
    exact ⟨fun hresult => hresult ▸ hx, eq_of_settled?⟩
  refine ⟨hsublist, honce, h.supported, h.calls, h.settles.failed_of_mem_dropLast,
    fun a => hlast (.ok a) rfl, fun f hf => hlast (.error f) (if_pos hf), h.seats, h.breakers, ?_⟩
  intro v f hv hanswer hf
  have hx : settled? (.error f : Except Fault α) = some (.error f) := if_pos hf
  have hsettled : settled? result = some (.error f) :=
    (h.settles.eq_some_iff hx).2 ⟨v, hv, hanswer⟩
  exact h.spared f hsettled v hv

/-- A group of trees gives a reply of its tree. -/
theorem group_reply (k : WholeReply α) (r : GenerationRequest) (policy : BreakerPolicy)
    (members : List (BackendTree σ)) (w : World (State σ)) :
    ∃ as, IsReply k r (group policy members) w
      (k.call r ((group policy members).backend []) w).1
      (k.call r ((group policy members).backend []) w).2 as := by
  obtain ⟨as, hserved⟩ := group_served k r [] policy members w fun _ hkeep =>
    walk_served k r [] ⟨policy, backends [] 0 members⟩ hkeep members 0 _ w
  exact ⟨as, Served.isReply hserved (filterMap_leaf?_seatsOf [] policy 0 members)⟩

/-- **One whole reply from groups within groups.**  However deep they are nested, plain and
structured generation call leaves from left to right, each at most once and only if it
supports the model, up to the first that answers or is cancelled.  The result is an answer
exactly if the last leaf answered, and then its answer, and a cancellation exactly if the
last leaf was cancelled.  Every question put to a member is recorded by its group, but none
that carried the cancellation. -/
theorem group_isReply (policy : BreakerPolicy) (members : List (BackendTree σ))
    (r : GenerationRequest) (w : World (State σ)) :
    (∃ as, IsReply .text r (group policy members) w
      (((group policy members).backend []).generate r w).1
      (((group policy members).backend []).generate r w).2 as) ∧
    ∀ schema, ∃ as, IsReply (.structured schema) r (group policy members) w
      (((group policy members).backend []).structured r schema w).1
      (((group policy members).backend []).structured r schema w).2 as :=
  ⟨group_reply .text r policy members w,
    fun schema => group_reply (.structured schema) r policy members w⟩

/-- A cancellation two groups down is not taken for a failure, and the member after it is not
called. -/
example : ((backend [] (.group {} [.group {} [.leaf (.ofGenerate "stopped" fun _ w =>
      (.error (.context "reading" .cancelled), w))], .leaf (.ofGenerate "up" fun _ w =>
      (.ok "hi", w))])).generate { prompt := "p" } ⟨⟨(), fun _ => .fresh⟩, 0, false⟩).1 =
    .error (.context "reading" .cancelled) := rfl

end BackendTree
end Errand

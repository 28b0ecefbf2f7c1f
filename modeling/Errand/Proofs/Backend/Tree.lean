/-
# Trees of backends

The members of a group may be groups themselves, to any depth.  `BackendTree` is such a
nest with any backends at its leaves, and `BackendTree.backend` is the backend that its root
is.  A position is the list of the numbers of the members that lead to it from the root.

What a tree acts on is what its leaves act on and the breakers of each group.  Leaves do not
see breakers, and the breakers of a group are seen by that group alone.

A group asks what stands at its seats.  The seats of a tree are listed as they would be
asked if all failed: those below a member before the member, a member before the next
one.  Leaves among them come in the order of their positions (`leaves_pairwise`).
-/

import Errand.Backend.Failover
import Mathlib.Logic.Function.Basic

namespace Errand

/-- Backends in groups, and groups in groups. -/
inductive BackendTree (σ : Type) where
  | leaf (backend : Backend σ)
  | group (policy : BreakerPolicy) (members : List (BackendTree σ))

namespace BackendTree

variable {σ : Type}

/-- What a tree acts on: the state that its leaves share, and the breakers of the group at
each position. -/
structure State (σ : Type) where
  leaves : σ
  breakers : List Nat → Breakers

namespace State

/-- The part that leaves act on. -/
def focus : Focus (State σ) σ where
  get s := s.leaves
  set a s := { s with leaves := a }

/-- What the group at a position acts on: its breakers, and everything else. -/
def groupAt (p : List Nat) : Focus (State σ) (Failover.State (State σ)) where
  get s := { breakers := s.breakers p, shared := s }
  set g _ := { g.shared with breakers := Function.update g.shared.breakers p g.breakers }

end State

mutual

/-- The backend that a tree is, its root standing at the position `p`. -/
def backend (p : List Nat) : BackendTree σ → Backend (State σ)
  | .leaf b => b.within State.focus
  | .group policy members =>
    (Failover.backend { policy, members := backends p 0 members }).within (State.groupAt p)

/-- The members of the group at `p`, numbered from `n` on. -/
def backends (p : List Nat) (n : Nat) : List (BackendTree σ) → List (Backend (State σ))
  | [] => []
  | t :: ts => backend (p ++ [n]) t :: backends p (n + 1) ts

end

mutual

/-- The leaves from left to right, with their positions. -/
def leaves (p : List Nat) : BackendTree σ → List (List Nat × Backend σ)
  | .leaf b => [(p, b)]
  | .group _ members => leavesOf p 0 members

/-- The leaves of the members of the group at `p`, numbered from `n` on. -/
def leavesOf (p : List Nat) (n : Nat) : List (BackendTree σ) → List (List Nat × Backend σ)
  | [] => []
  | t :: ts => leaves (p ++ [n]) t ++ leavesOf p (n + 1) ts

end

/-- A place in a group, and the tree that stands there. -/
structure Seat (σ : Type) where
  /-- The position of the group. -/
  group : List Nat
  policy : BreakerPolicy
  /-- The number of the member. -/
  index : Nat
  tree : BackendTree σ

namespace Seat

/-- The position of what stands there. -/
def position (s : Seat σ) : List Nat := s.group ++ [s.index]

/-- What stands there as a member of the group. -/
def member (s : Seat σ) : Backend (State σ) := s.tree.backend s.position

/-- The leaf that stands there. -/
def leaf? (s : Seat σ) : Option (List Nat × Backend σ) :=
  match s.tree with
  | .leaf b => some (s.position, b)
  | .group _ _ => none

end Seat

mutual

/-- The seats below the position `p` at which a tree stands. -/
def seats (p : List Nat) : BackendTree σ → List (Seat σ)
  | .leaf _ => []
  | .group policy members => seatsOf p policy 0 members

/-- The seats of the members of the group at `p`, numbered from `n` on, and those below
them. -/
def seatsOf (p : List Nat) (policy : BreakerPolicy) (n : Nat) :
    List (BackendTree σ) → List (Seat σ)
  | [] => []
  | t :: ts => seats (p ++ [n]) t ++ ⟨p, policy, n, t⟩ :: seatsOf p policy (n + 1) ts

end

/-! ### Where seats are -/

mutual

/-- The group of a seat lies below the root it is counted from. -/
theorem group_of_mem_seats {s : Seat σ} {p : List Nat} :
    ∀ {t : BackendTree σ}, s ∈ seats p t → p <+: s.group
  | .leaf _, h => nomatch h
  | .group policy members, h => by
    have hmember : s ∈ seatsOf p policy 0 members := h
    exact (position_of_mem_seatsOf hmember).1

/-- A seat of a group's members, or below them, stands below the number of one of them. -/
theorem position_of_mem_seatsOf {s : Seat σ} {p : List Nat} {policy : BreakerPolicy} {n : Nat} :
    ∀ {ts : List (BackendTree σ)}, s ∈ seatsOf p policy n ts →
      p <+: s.group ∧ ∃ m, n ≤ m ∧ p ++ [m] <+: s.position
  | [], h => nomatch h
  | t :: ts, h => by
    rw [seatsOf, List.mem_append, List.mem_cons] at h
    rcases h with hbelow | rfl | hrest
    · have hgroup := group_of_mem_seats hbelow
      exact ⟨(List.prefix_append p [n]).trans hgroup, n, Nat.le_refl _,
        hgroup.trans (List.prefix_append _ _)⟩
    · exact ⟨List.prefix_rfl, n, Nat.le_refl _, List.prefix_rfl⟩
    · obtain ⟨hgroup, m, hm, hposition⟩ := position_of_mem_seatsOf hrest
      exact ⟨hgroup, m, Nat.le_of_succ_le hm, hposition⟩

end

/-- No seat below a member is a seat of the member's group. -/
theorem group_ne_of_mem_seats {s : Seat σ} {p : List Nat} {n : Nat} {t : BackendTree σ}
    (h : s ∈ seats (p ++ [n]) t) : s.group ≠ p := by
  rintro rfl
  have hlength := (group_of_mem_seats h).length_le
  rw [List.length_append, List.length_singleton] at hlength
  omega

/-- The seats of one member and below it. -/
def seatsAt (s : Seat σ) : List (Seat σ) := seats s.position s.tree ++ [s]

/-- Seats at a seat lie below it. -/
theorem position_of_mem_seatsAt {s s' : Seat σ} (h : s' ∈ seatsAt s) :
    s.position <+: s'.position := by
  rcases List.mem_append.1 h with hbelow | hself
  · exact (group_of_mem_seats hbelow).trans (List.prefix_append _ _)
  · obtain rfl := List.mem_singleton.1 hself
    exact List.prefix_rfl

/-- The seats of the first member come first. -/
theorem seatsOf_cons (p : List Nat) (policy : BreakerPolicy) (n : Nat) (t : BackendTree σ)
    (ts : List (BackendTree σ)) :
    seatsOf p policy n (t :: ts) = seatsAt ⟨p, policy, n, t⟩ ++ seatsOf p policy (n + 1) ts := by
  rw [seatsOf, seatsAt, List.append_assoc, List.singleton_append]
  rfl

/-- What stands at or below a member of a group is not above anything at or below another
one. -/
theorem not_prefix_of_ne {p a b : List Nat} {n m : Nat} (hne : n ≠ m) (ha : p ++ [n] <+: a)
    (hb : p ++ [m] <+: b) : ¬a <+: b := by
  intro hab
  have hsame : p ++ [n] <+: p ++ [m] :=
    List.prefix_of_prefix_length_le (ha.trans hab) hb (by simp)
  rw [List.prefix_append_right_inj, List.cons_prefix_cons] at hsame
  exact hne hsame.1

/-- What stands at or below a member of a group comes before what stands at or below a
later one. -/
theorem lt_of_lt {p a b : List Nat} {n m : Nat} (hlt : n < m) (ha : p ++ [n] <+: a)
    (hb : p ++ [m] <+: b) : a < b := by
  obtain ⟨x, rfl⟩ := ha
  obtain ⟨y, rfl⟩ := hb
  rw [List.append_assoc, List.append_assoc]
  exact List.append_left_lt (List.cons_lt_cons_iff.2 (Or.inl hlt))

/-! ### The order of leaves -/

mutual

/-- The leaves at a seat are the leaves of its tree. -/
theorem filterMap_leaf?_seatsAt (p : List Nat) (policy : BreakerPolicy) (n : Nat) :
    ∀ t : BackendTree σ, (seatsAt ⟨p, policy, n, t⟩).filterMap Seat.leaf? = leaves (p ++ [n]) t
  | .leaf _ => rfl
  | .group policy' members => by
    rw [seatsAt, List.filterMap_append, leaves]
    exact (List.append_nil _).trans (filterMap_leaf?_seatsOf (p ++ [n]) policy' 0 members)

/-- The leaves are what stands at the seats that are no group's. -/
theorem filterMap_leaf?_seatsOf (p : List Nat) (policy : BreakerPolicy) (n : Nat) :
    ∀ ts : List (BackendTree σ), (seatsOf p policy n ts).filterMap Seat.leaf? = leavesOf p n ts
  | [] => rfl
  | t :: ts => by
    rw [seatsOf_cons, List.filterMap_append, leavesOf, filterMap_leaf?_seatsAt p policy n t,
      filterMap_leaf?_seatsOf p policy (n + 1) ts]

end

/-- A leaf of a member lies below the member's place. -/
theorem position_of_mem_leaves {p : List Nat} {l : List Nat × Backend σ} {t : BackendTree σ}
    {n : Nat} (h : l ∈ leaves (p ++ [n]) t) : p ++ [n] <+: l.1 := by
  rw [← filterMap_leaf?_seatsAt p {} n t] at h
  obtain ⟨s, hs, hl⟩ := List.mem_filterMap.1 h
  have hposition := position_of_mem_seatsAt hs
  rw [Seat.leaf?] at hl
  split at hl
  · obtain rfl := Option.some.inj hl
    exact hposition
  · cases hl

/-- A leaf of some members lies below the place of one of them. -/
theorem position_of_mem_leavesOf {p : List Nat} {l : List Nat × Backend σ} {n : Nat}
    {ts : List (BackendTree σ)} (h : l ∈ leavesOf p n ts) : ∃ m, n ≤ m ∧ p ++ [m] <+: l.1 := by
  induction ts generalizing n with
  | nil => nomatch h
  | cons t ts ih =>
    rcases List.mem_append.1 h with hfirst | hrest
    · exact ⟨n, Nat.le_refl _, position_of_mem_leaves hfirst⟩
    · obtain ⟨m, hm, hposition⟩ := ih hrest
      exact ⟨m, Nat.le_of_succ_le hm, hposition⟩

mutual

/-- **Leaves stand from left to right in the order of their positions,** so no position
comes twice. -/
theorem leaves_pairwise (p : List Nat) :
    ∀ t : BackendTree σ, (leaves p t).Pairwise fun l l' => l.1 < l'.1
  | .leaf _ => List.pairwise_singleton _ _
  | .group _ members => leavesOf_pairwise p 0 members

/-- Leaves are listed in the order of their places. -/
theorem leavesOf_pairwise (p : List Nat) (n : Nat) :
    ∀ ts : List (BackendTree σ), (leavesOf p n ts).Pairwise fun l l' => l.1 < l'.1
  | [] => List.Pairwise.nil
  | t :: ts => by
    refine List.pairwise_append.2
      ⟨leaves_pairwise (p ++ [n]) t, leavesOf_pairwise p (n + 1) ts, ?_⟩
    intro l hl l' hl'
    obtain ⟨m, hm, hposition⟩ := position_of_mem_leavesOf hl'
    exact lt_of_lt hm (position_of_mem_leaves hl) hposition

end

end BackendTree
end Errand

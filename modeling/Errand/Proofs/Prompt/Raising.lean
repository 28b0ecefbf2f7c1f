/-
# What a larger budget keeps

SPEC_FULL.md, section 11.1, on the byte budget of a prompt.

A section is known by its place among the sections that were given, as two of them may be
alike.  So the sections that fitting leaves are listed with their places (`fitPlaced`), and
without the places they are what fitting gives (`fitPlaced_isPlacing`).

Dropping under a smaller budget goes through the lists that dropping under a larger one goes
through, and perhaps further: the larger budget either is met on the way or leaves the same
sections (`dropPlaced_raise`).  In the first case nothing is cut under the larger budget.  In
the second the same section is cut under both, and the start that is kept of it grows with the
room.  A mark is put only where there is more room than it takes, so it never costs more than
it leaves (`size_truncated_mono`).

`fit_raises` puts these together: a larger budget keeps whatever a smaller one keeps, leaves
alone whatever the smaller one leaves alone, and gives a text that is no shorter.
-/

import Errand.Proofs.Prompt.Fitting

namespace Errand
namespace Prompt

/-! ### Sections with their places -/

/-- Drop the first droppable section with a key, if the sections exceed the budget; each keeps
its place. -/
def dropPlaced (budget : Nat) (ts : List (Section × Nat)) (key : String) : List (Section × Nat) :=
  if joinedSize (ts.map (·.1)) ≤ budget then ts
  else ts.eraseP fun t => t.1.key == key && !t.1.isRequired

/-- The sections that are left when none is dropped any more, with their places. -/
def keptPlaced (budget : Nat) (ss : List Section) : List (Section × Nat) :=
  dropOrder.foldl (dropPlaced budget) ss.zipIdx

/-- The sections made to fit a budget, with their places. -/
def fitPlaced (budget : Nat) (ss : List Section) : List (Section × Nat) :=
  (truncateLast budget ((keptPlaced budget ss).map (·.1))).zip ((keptPlaced budget ss).map (·.2))

/-- The list `placed` has the sections of `result` in their order, each with the place among
`ss` of the section it was made of. -/
structure IsPlacing (ss result : List Section) (placed : List (Section × Nat)) : Prop where
  sections : placed.map (·.1) = result
  ascending : (placed.map (·.2)).Pairwise (· < ·)
  /-- Nothing but the content of a section is ever changed. -/
  origin : ∀ s i, (s, i) ∈ placed → ∃ t, ss[i]? = some t ∧ s = { t with content := s.content }

/-- Cutting the last section drops none. -/
theorem length_truncateLast (budget : Nat) (ss : List Section) :
    (truncateLast budget ss).length = ss.length := by
  rcases List.eq_nil_or_concat ss with rfl | ⟨before, last, rfl⟩
  · rw [truncateLast_of_le (Nat.zero_le budget)]
  · rw [List.concat_eq_append]
    by_cases hover : budget < joinedSize (before ++ [last])
    · rw [truncateLast_concat hover, List.length_append, List.length_append]
      rfl
    · rw [truncateLast_of_le (Nat.le_of_not_lt hover)]

/-- Sections with their places are dropped as they are without, -/
theorem map_dropPlaced (budget : Nat) (ts : List (Section × Nat)) (key : String) :
    (dropPlaced budget ts key).map (·.1) = dropSection budget (ts.map (·.1)) key := by
  unfold dropPlaced dropSection
  split
  · rfl
  · rw [List.eraseP_map]
    rfl

/-- one key after another. -/
theorem map_foldl_dropPlaced (budget : Nat) (keys : List String) (ts : List (Section × Nat)) :
    (keys.foldl (dropPlaced budget) ts).map (·.1) =
      keys.foldl (dropSection budget) (ts.map (·.1)) := by
  induction keys generalizing ts with
  | nil => rfl
  | cons key keys ih => rw [List.foldl_cons, List.foldl_cons, ih, map_dropPlaced]

/-- What is kept keeps its place, -/
theorem dropPlaced_sublist (budget : Nat) (ts : List (Section × Nat)) (key : String) :
    (dropPlaced budget ts key).Sublist ts := by
  unfold dropPlaced
  split
  · exact .refl ts
  · exact List.eraseP_sublist

/-- whichever keys are dropped. -/
theorem foldl_dropPlaced_sublist (budget : Nat) (keys : List String)
    (ts : List (Section × Nat)) : (keys.foldl (dropPlaced budget) ts).Sublist ts := by
  induction keys generalizing ts with
  | nil => exact .refl ts
  | cons key keys ih => exact (ih _).trans (dropPlaced_sublist budget ts key)

/-- Nothing is dropped of what fits. -/
theorem foldl_dropPlaced_of_le {budget : Nat} {ts : List (Section × Nat)}
    (h : joinedSize (ts.map (·.1)) ≤ budget) (keys : List String) :
    keys.foldl (dropPlaced budget) ts = ts := by
  induction keys with
  | nil => rfl
  | cons key keys ih => rw [List.foldl_cons, dropPlaced, if_pos h, ih]

section Placed

variable (budget : Nat) (ss : List Section)

theorem map_keptPlaced :
    (keptPlaced budget ss).map (·.1) = dropOrder.foldl (dropSection budget) ss := by
  rw [keptPlaced, map_foldl_dropPlaced, List.zipIdx_map_fst]

/-- To fit sections is to drop some and to cut the last of the others. -/
theorem fit_eq : fit budget ss = truncateLast budget ((keptPlaced budget ss).map (·.1)) := by
  rw [map_keptPlaced]
  rfl

/-- A section that is left stands unchanged in its place. -/
theorem getElem?_of_mem_keptPlaced {budget : Nat} {ss : List Section} {s : Section} {i : Nat}
    (h : (s, i) ∈ keptPlaced budget ss) : ss[i]? = some s :=
  List.mem_zipIdx_iff_getElem?.1 ((foldl_dropPlaced_sublist budget dropOrder _).subset h)

/-- The places that fitting leaves are those that dropping leaves. -/
theorem map_fitPlaced_snd : (fitPlaced budget ss).map (·.2) = (keptPlaced budget ss).map (·.2) :=
  List.map_snd_zip (by simp [length_truncateLast])

/-- The placed sections that fit are those that fit. -/
theorem map_fitPlaced_fst : (fitPlaced budget ss).map (·.1) = fit budget ss := by
  rw [fit_eq]
  exact List.map_fst_zip (by simp [length_truncateLast])

end Placed

section Cases

variable {budget : Nat} {ss : List Section}

/-- What fits once sections are dropped is left as it is. -/
theorem fitPlaced_of_le (h : joinedSize ((keptPlaced budget ss).map (·.1)) ≤ budget) :
    fitPlaced budget ss = keptPlaced budget ss := by
  rw [fitPlaced, truncateLast_of_le h]
  exact (List.zip_of_prod rfl rfl).symm

/-- Of what does not fit, the last section is cut where it stands. -/
theorem fitPlaced_concat {before : List (Section × Nat)} {last : Section} {i : Nat}
    (hkept : keptPlaced budget ss = before ++ [(last, i)])
    (h : budget < joinedSize ((keptPlaced budget ss).map (·.1))) :
    let content := truncated (budget - sizeAhead (before.map (·.1))) last.content
    fitPlaced budget ss = before ++ [({ last with content }, i)] := by
  intro content
  have hplaces : (before.map (·.1)).zip (before.map (·.2)) = before :=
    (List.zip_of_prod rfl rfl).symm
  rw [hkept, List.map_append, List.map_singleton] at h
  rw [fitPlaced, hkept, List.map_append, List.map_append, List.map_singleton,
    List.map_singleton, truncateLast_concat h, List.zip_append (by simp), hplaces]
  rfl

end Cases

/-- **Fitting, place by place.** -/
theorem fitPlaced_isPlacing (budget : Nat) (ss : List Section) :
    IsPlacing ss (fit budget ss) (fitPlaced budget ss) where
  sections := map_fitPlaced_fst budget ss
  ascending := by
    have hplaces : (ss.zipIdx.map (·.2)).Pairwise (· < ·) := by
      rw [List.zipIdx_map_snd]
      exact List.pairwise_lt_range'
    rw [map_fitPlaced_snd]
    exact hplaces.sublist ((foldl_dropPlaced_sublist budget dropOrder _).map _)
  origin s i h := by
    rcases Nat.lt_or_ge budget (joinedSize ((keptPlaced budget ss).map (·.1))) with hover | hfits
    · rcases List.eq_nil_or_concat (keptPlaced budget ss) with hnil | ⟨before, ⟨last, j⟩, hkept⟩
      · rw [hnil] at hover
        exact absurd hover (Nat.not_lt_zero _)
      · rw [List.concat_eq_append] at hkept
        have horigin : ∀ t k, (t, k) ∈ before ++ [(last, j)] → ss[k]? = some t := fun t k ht =>
          getElem?_of_mem_keptPlaced (hkept ▸ ht)
        rw [fitPlaced_concat hkept hover] at h
        rcases List.mem_append.1 h with h | h
        · exact ⟨s, horigin s i (List.mem_append_left _ h), rfl⟩
        · obtain ⟨rfl, rfl⟩ := Prod.mk.inj (List.mem_singleton.1 h)
          exact ⟨last, horigin last i (List.mem_append_right _ List.mem_cons_self), rfl⟩
    · rw [fitPlaced_of_le hfits] at h
      exact ⟨s, getElem?_of_mem_keptPlaced h, rfl⟩

/-! ### More room -/

/-- More room keeps a longer start. -/
theorem startWithin_prefix_of_le {n m : Nat} (h : n ≤ m) (s : List Char) :
    startWithin n s <+: startWithin m s := by
  have hstart := startWithin_prefix n s
  exact prefix_startWithin hstart (Nat.le_trans (size_startWithin_le n s) h)

/-- A start takes no more bytes than the whole. -/
theorem size_le_of_prefix {s t : List Char} (h : s <+: t) :
    (String.ofList s).utf8ByteSize ≤ (String.ofList t).utf8ByteSize := by
  obtain ⟨r, rfl⟩ := h
  rw [String.ofList_append, String.utf8ByteSize_append]
  exact Nat.le_add_right _ _

/-- **More room never leaves a shorter content.**  Where only the larger room has a mark, the
mark alone is as long as what the smaller one leaves. -/
theorem size_truncated_mono {room room' : Nat} (h : room ≤ room') (content : String) :
    (truncated room content).utf8ByteSize ≤ (truncated room' content).utf8ByteSize := by
  have hcut := size_truncated_le room content
  unfold truncated at *
  dsimp only at *
  by_cases hmark : truncationMark.utf8ByteSize < room
  · have hmark' : truncationMark.utf8ByteSize < room' := by omega
    have hstart := size_le_of_prefix (startWithin_prefix_of_le
      (Nat.sub_le_sub_right h truncationMark.utf8ByteSize) content.toList)
    rw [if_pos hmark, if_pos hmark', String.utf8ByteSize_append, String.utf8ByteSize_append]
    omega
  · rw [if_neg hmark] at hcut ⊢
    by_cases hmark' : truncationMark.utf8ByteSize < room'
    · rw [if_pos hmark', String.utf8ByteSize_append]
      omega
    · rw [if_neg hmark']
      exact size_le_of_prefix (startWithin_prefix_of_le h content.toList)

/-- A cut adds nothing, -/
theorem joinedSize_truncateLast_le_self (budget : Nat) (ss : List Section) :
    joinedSize (truncateLast budget ss) ≤ joinedSize ss := by
  rcases Nat.lt_or_ge budget (joinedSize ss) with hover | hfits
  · rcases Nat.lt_or_ge budget (sizeAhead ss.dropLast) with hahead | hahead
    · rw [joinedSize_truncateLast_of_lt hover hahead]
      exact sizeAhead_dropLast_le ss
    · have hcut := joinedSize_truncateLast_le hahead
      omega
  · exact Nat.le_of_eq (congrArg joinedSize (truncateLast_of_le hfits))

/-- and with a greater budget it takes off no more. -/
theorem joinedSize_truncateLast_mono {budget budget' : Nat} (h : budget ≤ budget')
    (ss : List Section) :
    joinedSize (truncateLast budget ss) ≤ joinedSize (truncateLast budget' ss) := by
  rcases Nat.lt_or_ge budget' (joinedSize ss) with hover' | hfits'
  · have hover : budget < joinedSize ss := by omega
    rcases List.eq_nil_or_concat ss with rfl | ⟨before, last, rfl⟩
    · exact absurd hover (Nat.not_lt_zero _)
    · rw [List.concat_eq_append] at *
      rw [truncateLast_concat hover, truncateLast_concat hover', joinedSize_concat,
        joinedSize_concat]
      exact Nat.add_le_add_left (size_truncated_mono (Nat.sub_le_sub_right h _) _) _
  · rw [truncateLast_of_le hfits']
    exact joinedSize_truncateLast_le_self budget ss

/-- **Dropping under two budgets,** by induction on the keys: the larger budget is met with
sections of which the smaller leaves some, or both leave the same. -/
theorem dropPlaced_raise {budget budget' : Nat} (h : budget ≤ budget') (keys : List String)
    (ts : List (Section × Nat)) :
    (joinedSize ((keys.foldl (dropPlaced budget') ts).map (·.1)) ≤ budget' ∧
        (keys.foldl (dropPlaced budget) ts).Sublist (keys.foldl (dropPlaced budget') ts)) ∨
      keys.foldl (dropPlaced budget) ts = keys.foldl (dropPlaced budget') ts := by
  induction keys generalizing ts with
  | nil => exact .inr rfl
  | cons key keys ih =>
    rcases Nat.lt_or_ge budget' (joinedSize (ts.map (·.1))) with hover' | hfits'
    · -- Both budgets are exceeded, so both drop the same section.
      have hover : budget < joinedSize (ts.map (·.1)) := by omega
      have hsame : dropPlaced budget ts key = dropPlaced budget' ts key := by
        rw [dropPlaced, dropPlaced, if_neg (Nat.not_le.2 hover), if_neg (Nat.not_le.2 hover')]
      rw [List.foldl_cons, List.foldl_cons, hsame]
      exact ih _
    · left
      rw [foldl_dropPlaced_of_le hfits']
      exact ⟨hfits', foldl_dropPlaced_sublist budget _ ts⟩

/-- A last section that is as it was, although it was cut to a smaller room, is empty, and so
it is as it was under a larger budget too. -/
theorem truncated_of_unaltered {ahead budget budget' : Nat} {content : String}
    (h : budget ≤ budget') (hover : budget' < ahead + content.utf8ByteSize)
    (hsame : truncated (budget - ahead) content = content) :
    truncated (budget' - ahead) content = content := by
  have hsize := size_truncated_le (budget - ahead) content
  rw [hsame] at hsize
  have hroom : budget' - ahead = 0 := by omega
  have hempty : content = "" := String.utf8ByteSize_eq_zero_iff.1 (by omega)
  rw [hroom, truncated_zero, hempty]

/-! ### Raising the budget -/

/-- What raising a budget does to what becomes of sections. -/
structure Raises (budget budget' : Nat) (ss : List Section) : Prop where
  placing : IsPlacing ss (fit budget ss) (fitPlaced budget ss)
  placing' : IsPlacing ss (fit budget' ss) (fitPlaced budget' ss)
  /-- A section that remains remains, -/
  remains : ∀ s i, (s, i) ∈ fitPlaced budget ss → ∃ s', (s', i) ∈ fitPlaced budget' ss
  /-- one that is as it was given is as it was given, -/
  unaltered : ∀ s i, (s, i) ∈ fitPlaced budget ss → ss[i]? = some s →
    (s, i) ∈ fitPlaced budget' ss
  /-- and the whole is no shorter. -/
  size : (join (fit budget ss)).utf8ByteSize ≤ (join (fit budget' ss)).utf8ByteSize

section Raising

variable {budget budget' : Nat} {ss : List Section}

/-- The larger budget is met with sections of which the smaller leaves some, or both leave the
same. -/
theorem keptPlaced_raise (h : budget ≤ budget') (ss : List Section) :
    (joinedSize ((keptPlaced budget' ss).map (·.1)) ≤ budget' ∧
        (keptPlaced budget ss).Sublist (keptPlaced budget' ss)) ∨
      keptPlaced budget ss = keptPlaced budget' ss :=
  dropPlaced_raise h dropOrder ss.zipIdx

/-- **A greater budget keeps what a smaller one does.**. -/
theorem keptPlaced_sublist_of_le (h : budget ≤ budget') :
    (keptPlaced budget ss).Sublist (keptPlaced budget' ss) := by
  rcases keptPlaced_raise h ss with ⟨-, hsub⟩ | hsame
  · exact hsub
  · rw [hsame]

/-- **A greater budget takes no fewer bytes.**. -/
theorem joinedSize_fit_mono (h : budget ≤ budget') :
    joinedSize (fit budget ss) ≤ joinedSize (fit budget' ss) := by
  rw [fit_eq, fit_eq]
  rcases keptPlaced_raise h ss with ⟨hfits, hsub⟩ | hsame
  · calc joinedSize (truncateLast budget ((keptPlaced budget ss).map (·.1)))
      _ ≤ joinedSize ((keptPlaced budget ss).map (·.1)) := joinedSize_truncateLast_le_self _ _
      _ ≤ joinedSize ((keptPlaced budget' ss).map (·.1)) := joinedSize_le_of_sublist (hsub.map _)
      _ = joinedSize (truncateLast budget' ((keptPlaced budget' ss).map (·.1))) := by
        rw [truncateLast_of_le hfits]
  · rw [hsame]
    exact joinedSize_truncateLast_mono h _

/-- A place that is left under a budget is left under a larger one. -/
theorem mem_fitPlaced_of_le (h : budget ≤ budget') {s : Section} {i : Nat}
    (hs : (s, i) ∈ fitPlaced budget ss) : ∃ s', (s', i) ∈ fitPlaced budget' ss := by
  have hplace : i ∈ (fitPlaced budget ss).map (·.2) := List.mem_map.2 ⟨(s, i), hs, rfl⟩
  rw [map_fitPlaced_snd] at hplace
  have hsub : ((keptPlaced budget ss).map (·.2)).Sublist ((keptPlaced budget' ss).map (·.2)) :=
    (keptPlaced_sublist_of_le h).map _
  have hplace' : i ∈ (fitPlaced budget' ss).map (·.2) := by
    rw [map_fitPlaced_snd]
    exact hsub.subset hplace
  obtain ⟨⟨s', j⟩, hs', hj⟩ := List.mem_map.1 hplace'
  obtain rfl : j = i := hj
  exact ⟨s', hs'⟩

/-- A section that is left as it is under a budget is so under a larger one. -/
theorem unaltered_of_le (h : budget ≤ budget') {s : Section} {i : Nat}
    (hs : (s, i) ∈ fitPlaced budget ss) (hgiven : ss[i]? = some s) :
    (s, i) ∈ fitPlaced budget' ss := by
  rcases Nat.lt_or_ge budget' (joinedSize ((keptPlaced budget' ss).map (·.1))) with hover' | hfits'
  · -- The same sections are left under both budgets, and the last one is cut under both.
    have hsame : keptPlaced budget ss = keptPlaced budget' ss :=
      (keptPlaced_raise h ss).resolve_left fun hfits =>
        absurd hfits.1 (Nat.not_le.2 hover')
    have hover : budget < joinedSize ((keptPlaced budget ss).map (·.1)) := by
      rw [hsame]
      omega
    rcases List.eq_nil_or_concat (keptPlaced budget' ss) with hnil | ⟨before, ⟨last, j⟩, hkept⟩
    · rw [hnil] at hover'
      exact absurd hover' (Nat.not_lt_zero _)
    · rw [List.concat_eq_append] at hkept
      rw [fitPlaced_concat (hsame.trans hkept) hover] at hs
      rw [fitPlaced_concat hkept hover']
      rcases List.mem_append.1 hs with hs | hs
      · exact List.mem_append_left _ hs
      · obtain ⟨hcut, rfl⟩ := Prod.mk.inj (List.mem_singleton.1 hs)
        have hlast : ss[i]? = some last :=
          getElem?_of_mem_keptPlaced (hkept ▸ List.mem_append_right _ List.mem_cons_self)
        obtain rfl : s = last := Option.some.inj (hgiven.symm.trans hlast)
        rw [hkept, List.map_append, List.map_singleton, joinedSize_concat] at hover'
        have hcontent := truncated_of_unaltered h hover' (congrArg Section.content hcut).symm
        refine List.mem_append_right _ (List.mem_singleton.2 ?_)
        rw [hcontent]
  · obtain ⟨s', hs'⟩ := mem_fitPlaced_of_le h hs
    rw [fitPlaced_of_le hfits'] at hs' ⊢
    obtain rfl : s = s' :=
      Option.some.inj (hgiven.symm.trans (getElem?_of_mem_keptPlaced hs'))
    exact hs'

/-- **Raising a budget never costs material.**  Whatever the sections, under a larger budget
each that remained under the smaller one remains, each that was left as it was given is left
so, and the text they are joined to is at least as long. -/
theorem fit_raises (h : budget ≤ budget') (ss : List Section) : Raises budget budget' ss where
  placing := fitPlaced_isPlacing budget ss
  placing' := fitPlaced_isPlacing budget' ss
  remains _ _ hs := mem_fitPlaced_of_le h hs
  unaltered _ _ hs hgiven := unaltered_of_le h hs hgiven
  size := by
    rw [size_join, size_join]
    exact joinedSize_fit_mono h

end Raising

/-- The sections of a letter, two of them alike. -/
def letter : List Section :=
  [⟨"goal", true, "find it"⟩, ⟨"bindings", false, "a = 1"⟩, ⟨"bindings", false, "a = 1"⟩,
    ⟨"step", true, "aéèmore than fits"⟩]

/-- One byte more, and the mark takes the place of what was kept of the letter's last section:
the whole is a byte longer, with the same sections left and the same one cut. -/
theorem fit_raises_letter :
    28 ≤ 29 ∧ Raises 28 29 letter ∧
      fitPlaced 28 letter = [(⟨"goal", true, "find it"⟩, 0), (⟨"bindings", false, "a = 1"⟩, 2),
        (⟨"step", true, "aéèmore th"⟩, 3)] ∧
      fitPlaced 29 letter = [(⟨"goal", true, "find it"⟩, 0), (⟨"bindings", false, "a = 1"⟩, 2),
        (⟨"step", true, "a\n[truncated]"⟩, 3)] := by
  have hle : 28 ≤ 29 := by decide
  refine ⟨hle, fit_raises hle letter, ?_, ?_⟩
  · decide +kernel
  · decide +kernel

end Prompt
end Errand

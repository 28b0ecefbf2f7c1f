/-
# What a budget does to the size of a prompt

SPEC_FULL.md, section 11.1, on the byte budget of a prompt.

The size that sections are measured by is that of the prompt they are joined to
(`size_join`).  All that is done to make a prompt fit is to drop some sections and to cut
the last one short.  Cutting leaves no more than there is room for
(`size_truncated_le`), and dropping stops early only when the budget is met
(`foldl_dropSection`), so what decides are the sections that stay under any budget
(`lasting`).  `build_size_le_iff` is the result: a prompt keeps within its budget exactly
when what stands ahead of the last lasting section does.

No section ahead of the last one is ever cut.  A long goal with a short thought after it
is over any budget that the goal is over (`build_exceeds_budget`).
-/

import Errand.Proofs.Prompt.Sections

namespace Errand
namespace Prompt

/-! ### Sizes of joined sections -/

/-- Texts with separators take the bytes of both. -/
theorem utf8ByteSize_intercalate (sep : String) (ts : List String) :
    (String.intercalate sep ts).utf8ByteSize =
      ts.foldr (fun t n => t.utf8ByteSize + n) 0 + sep.utf8ByteSize * (ts.length - 1) := by
  induction ts with
  | nil => simp
  | cons t ts ih =>
    cases ts with
    | nil => simp
    | cons u us =>
      have hsizes : (t :: u :: us).foldr (fun t n => t.utf8ByteSize + n) 0 =
          t.utf8ByteSize + (u :: us).foldr (fun t n => t.utf8ByteSize + n) 0 := rfl
      have hlength : (t :: u :: us).length - 1 = (u :: us).length - 1 + 1 := by simp
      rw [String.intercalate_cons_cons, String.utf8ByteSize_append, String.utf8ByteSize_append, ih,
        hsizes, hlength, Nat.mul_succ]
      omega

/-- **The measured size is the size of the prompt.** -/
theorem size_join (ss : List Section) : (join ss).utf8ByteSize = joinedSize ss := by
  rw [join, utf8ByteSize_intercalate, List.foldr_map, List.length_map]
  rfl

/-- The size of what stands ahead of a section that follows others. -/
def sizeAhead (before : List Section) : Nat :=
  if before.isEmpty then 0 else joinedSize before + separator.utf8ByteSize

/-- The room after some sections is the budget less what they take with the separators. -/
theorem roomAfter_eq (budget : Nat) (before : List Section) :
    roomAfter budget before = budget - sizeAhead before := by
  unfold roomAfter sizeAhead
  split <;> rfl

/-- The last section takes its own bytes beyond those ahead of it. -/
theorem joinedSize_concat (before : List Section) (s : Section) :
    joinedSize (before ++ [s]) = sizeAhead before + s.content.utf8ByteSize := by
  cases before with
  | nil => simp [joinedSize, sizeAhead]
  | cons t ts =>
    have hfold : ∀ us : List Section,
        (us ++ [s]).foldr (fun s n => s.content.utf8ByteSize + n) 0 =
          us.foldr (fun s n => s.content.utf8ByteSize + n) 0 + s.content.utf8ByteSize := by
      intro us
      induction us with
      | nil => simp
      | cons u us ih => rw [List.cons_append, List.foldr_cons, List.foldr_cons, ih, Nat.add_assoc]
    have hlength : (t :: ts ++ [s]).length - 1 = (t :: ts).length - 1 + 1 := by simp
    rw [joinedSize, hfold, hlength, Nat.mul_succ, sizeAhead, if_neg (by simp), joinedSize]
    omega

/-! ### Cutting a content short -/

/-- A start keeps to its bytes. -/
theorem size_startWithin_le (n : Nat) (s : List Char) :
    (String.ofList (startWithin n s)).utf8ByteSize ≤ n := by
  induction s generalizing n with
  | nil => simp
  | cons c r ih =>
    unfold startWithin
    split
    · next hfits =>
      have hrest := ih (n - c.utf8Size)
      rw [String.ofList_cons, String.utf8ByteSize_append, String.utf8ByteSize_singleton]
      omega
    · simp

/-- **A content is cut to the room there is,** its mark included. -/
theorem size_truncated_le (allowed : Nat) (content : String) :
    (truncated allowed content).utf8ByteSize ≤ allowed := by
  unfold truncated
  dsimp only
  split
  · next hmark =>
    have hstart := size_startWithin_le (allowed - truncationMark.utf8ByteSize) content.toList
    rw [String.utf8ByteSize_append]
    omega
  · exact size_startWithin_le allowed content.toList

/-- Where there is no room nothing is left of a content. -/
theorem truncated_zero (content : String) : truncated 0 content = "" :=
  String.utf8ByteSize_eq_zero_iff.1 (Nat.le_zero.1 (size_truncated_le 0 content))

/-! ### Dropping sections -/

/-- The sections without the first one of a key that may be dropped. -/
def dropFirst (ss : List Section) (key : String) : List Section :=
  ss.eraseP fun s => s.key == key && !s.isRequired

/-- The sections that stay however small the budget. -/
def lasting (ss : List Section) : List Section := dropOrder.foldl dropFirst ss

/-- The first section takes its bytes, and a separator if more follow. -/
theorem joinedSize_cons (s : Section) (ss : List Section) :
    joinedSize (s :: ss) = s.content.utf8ByteSize +
      (if ss.isEmpty then 0 else separator.utf8ByteSize + joinedSize ss) := by
  cases ss with
  | nil => simp [joinedSize]
  | cons t ts =>
    have hlength : (s :: t :: ts).length - 1 = (t :: ts).length - 1 + 1 := by simp
    have hsizes : (s :: t :: ts).foldr (fun s n => s.content.utf8ByteSize + n) 0 =
        s.content.utf8ByteSize +
          (t :: ts).foldr (fun s n => s.content.utf8ByteSize + n) 0 := rfl
    rw [joinedSize, hsizes, hlength, Nat.mul_succ, if_neg (by simp), joinedSize]
    omega

/-- Leaving sections out makes the whole no longer. -/
theorem joinedSize_le_of_sublist {ss ts : List Section} (h : ss.Sublist ts) :
    joinedSize ss ≤ joinedSize ts := by
  induction h with
  | slnil => exact Nat.le_refl _
  | @cons ss ts t _ ih =>
    rw [joinedSize_cons]
    split
    · next hempty =>
      rw [List.isEmpty_iff.1 hempty] at ih
      have hnone : joinedSize ([] : List Section) = 0 := rfl
      omega
    · omega
  | @cons_cons ss ts t hsub ih =>
    rw [joinedSize_cons, joinedSize_cons]
    cases ss with
    | nil => simp
    | cons s ss =>
      have hne : ¬ts.isEmpty = true := by
        rintro hempty
        rw [List.isEmpty_iff.1 hempty] at hsub
        cases hsub
      rw [if_neg (by simp), if_neg hne]
      omega

/-- Dropping a section changes no other, -/
theorem dropFirst_sublist (ss : List Section) (key : String) : (dropFirst ss key).Sublist ss :=
  List.eraseP_sublist

/-- and neither does dropping several. -/
theorem foldl_sublist {f : List Section → String → List Section}
    (hf : ∀ ss key, (f ss key).Sublist ss) (keys : List String) (ss : List Section) :
    (keys.foldl f ss).Sublist ss := by
  induction keys generalizing ss with
  | nil => exact .refl ss
  | cons key keys ih => exact (ih (f ss key)).trans (hf ss key)

/-- What is dropped to fit the budget leaves the others as they are. -/
theorem dropSection_sublist (budget : Nat) (ss : List Section) (key : String) :
    (dropSection budget ss key).Sublist ss := by
  unfold dropSection
  split
  · exact .refl ss
  · exact dropFirst_sublist ss key

/-- **Dropping stops early only when the budget is met:** what exceeds it then are the
sections that stay under any budget. -/
theorem foldl_dropSection (budget : Nat) (keys : List String) (ss : List Section) :
    joinedSize (keys.foldl (dropSection budget) ss) ≤ budget ∧
        joinedSize (keys.foldl dropFirst ss) ≤ budget ∨
      keys.foldl (dropSection budget) ss = keys.foldl dropFirst ss := by
  induction keys generalizing ss with
  | nil => exact .inr rfl
  | cons key keys ih =>
    by_cases h : joinedSize ss ≤ budget
    · refine .inl ⟨?_, ?_⟩
      · have := joinedSize_le_of_sublist
          (foldl_sublist (dropSection_sublist budget) (key :: keys) ss)
        omega
      · have := joinedSize_le_of_sublist (foldl_sublist dropFirst_sublist (key :: keys) ss)
        omega
    · have hdrop : dropSection budget ss key = dropFirst ss key := if_neg h
      rw [List.foldl_cons, List.foldl_cons, hdrop]
      exact ih (dropFirst ss key)

/-! ### Cutting the last section -/

/-- Nothing is cut where all fits. -/
theorem truncateLast_of_le {budget : Nat} {ss : List Section} (h : joinedSize ss ≤ budget) :
    truncateLast budget ss = ss := if_pos h

/-- Where it does not, the last section is cut to the room that is left. -/
theorem truncateLast_concat {budget : Nat} {before : List Section} {last : Section}
    (h : budget < joinedSize (before ++ [last])) :
    truncateLast budget (before ++ [last]) =
      before ++ [{ last with
        content := truncated (budget - sizeAhead before) last.content }] := by
  rw [truncateLast, if_neg (by omega), List.getLast?_concat, ← roomAfter_eq]
  simp only [List.dropLast_concat]

/-- Sections that exceed the budget fit once the last one is cut exactly if the others
leave room for it. -/
theorem joinedSize_truncateLast_le_iff {budget : Nat} {ss : List Section}
    (h : budget < joinedSize ss) :
    joinedSize (truncateLast budget ss) ≤ budget ↔ sizeAhead ss.dropLast ≤ budget := by
  rcases List.eq_nil_or_concat ss with rfl | ⟨before, last, rfl⟩
  · simp [joinedSize] at h
  · have hcut := size_truncated_le (budget - sizeAhead before) last.content
    rw [List.concat_eq_append] at h ⊢
    rw [truncateLast_concat h, joinedSize_concat, List.dropLast_concat]
    dsimp only
    omega

/-- Where the others leave no room, nothing is left of the last section. -/
theorem joinedSize_truncateLast_of_lt {budget : Nat} {ss : List Section}
    (hover : budget < joinedSize ss) (h : budget < sizeAhead ss.dropLast) :
    joinedSize (truncateLast budget ss) = sizeAhead ss.dropLast := by
  rcases List.eq_nil_or_concat ss with rfl | ⟨before, last, rfl⟩
  · simp [joinedSize] at hover
  · rw [List.concat_eq_append] at h hover ⊢
    rw [List.dropLast_concat] at h ⊢
    have hroom : budget - sizeAhead before = 0 := by omega
    rw [truncateLast_concat hover, joinedSize_concat, hroom]
    simp [truncated_zero]

/-- What stands ahead of the last section is no longer than the whole. -/
theorem sizeAhead_dropLast_le (ss : List Section) : sizeAhead ss.dropLast ≤ joinedSize ss := by
  rcases List.eq_nil_or_concat ss with rfl | ⟨before, last, rfl⟩
  · simp [sizeAhead]
  · rw [List.concat_eq_append, List.dropLast_concat, joinedSize_concat]
    exact Nat.le_add_right _ _

/-- **When sections fit a budget:** exactly when those that stay under any budget leave
room for the last of them. -/
theorem joinedSize_fit_le_iff (budget : Nat) (ss : List Section) :
    joinedSize (fit budget ss) ≤ budget ↔ sizeAhead (lasting ss).dropLast ≤ budget := by
  have hahead := sizeAhead_dropLast_le (lasting ss)
  unfold fit
  rcases foldl_dropSection budget dropOrder ss with ⟨hkept, hlasting⟩ | (hkept : _ = lasting ss)
  · rw [truncateLast, if_pos hkept]
    exact ⟨fun _ => Nat.le_trans hahead hlasting, fun _ => hkept⟩
  · rw [hkept]
    by_cases h : joinedSize (lasting ss) ≤ budget
    · rw [truncateLast, if_pos h]
      exact ⟨fun _ => Nat.le_trans hahead h, fun _ => h⟩
    · exact joinedSize_truncateLast_le_iff (Nat.lt_of_not_le h)

/-- Sections that do not fit are left with what stands ahead of the last of them. -/
theorem joinedSize_fit_of_lt {budget : Nat} {ss : List Section}
    (h : budget < sizeAhead (lasting ss).dropLast) :
    joinedSize (fit budget ss) = sizeAhead (lasting ss).dropLast := by
  have hover : budget < joinedSize (lasting ss) :=
    Nat.lt_of_lt_of_le h (sizeAhead_dropLast_le _)
  unfold fit
  rcases foldl_dropSection budget dropOrder ss with ⟨-, hlasting⟩ | (hkept : _ = lasting ss)
  · exact absurd hlasting (Nat.not_le.2 hover)
  · rw [hkept]
    exact joinedSize_truncateLast_of_lt hover h

/-- **When a prompt keeps within its budget.**  Whatever the role, the material and the
budget, it does exactly when the sections that stay under any budget, but for the last
one, take no more with the separator that follows them.  Otherwise the prompt has their
size, as nothing is left of the last one. -/
theorem build_size_le_iff (budget : Nat) (role : Role) (i : Invocation) :
    ((build budget role i).utf8ByteSize ≤ budget ↔
      sizeAhead (lasting (sectionsFor role i)).dropLast ≤ budget) ∧
    (budget < sizeAhead (lasting (sectionsFor role i)).dropLast →
      (build budget role i).utf8ByteSize = sizeAhead (lasting (sectionsFor role i)).dropLast) := by
  rw [build, size_join]
  exact ⟨joinedSize_fit_le_iff budget _, joinedSize_fit_of_lt⟩

/-! ### A long goal -/

/-- Required sections stay. -/
theorem lasting_of_required {ss : List Section} (h : ∀ s ∈ ss, s.isRequired = true) :
    lasting ss = ss := by
  have hdrop (key : String) : dropFirst ss key = ss :=
    List.eraseP_of_forall_not fun s hs => by simp [h s hs]
  simp only [lasting, dropOrder, List.foldl_cons, List.foldl_nil, hdrop]

/-- A text has at least a byte for each character. -/
theorem length_le_size (s : List Char) : s.length ≤ (String.ofList s).utf8ByteSize := by
  induction s with
  | nil => exact Nat.zero_le _
  | cons c s ih =>
    have hc := c.utf8Size_pos
    rw [String.ofList_cons, String.utf8ByteSize_append, String.utf8ByteSize_singleton,
      List.length_cons]
    omega

namespace LongGoal

/-- A goal of many letters. -/
def goal (n : Nat) : String := .ofList (List.replicate n 'g')

/-- What the parameter generator is told: the goal, and nothing of a tool. -/
def invocation (n : Nat) : Invocation := { goal := goal n }

/-- The parts of the prompt are its contract, the goal and the step. -/
theorem given (n : Nat) : (template .parameterGenerator).filter (Part.isGiven (invocation n)) =
    parameterGeneratorTemplate.take 3 := rfl

theorem trimChars_letters (n : Nat) :
    Text.trimChars (List.replicate n 'g') = List.replicate n 'g' := by
  refine Text.trimChars_of_solid (fun c hc => ?_) fun c hc => ?_
  · obtain rfl := List.eq_of_mem_replicate (List.mem_of_mem_head? hc)
    rfl
  · obtain rfl := List.eq_of_mem_replicate (List.mem_of_mem_getLast? hc)
    rfl

/-- The goal has no blanks to trim. -/
theorem trimChars_goal (n : Nat) :
    Text.trimChars (invocation n).goal.toList = List.replicate n 'g' := by
  rw [invocation, goal, String.toList_ofList, trimChars_letters]

/-- Nothing in the prompt opens a section. -/
theorem plain (n : Nat) : ∀ p ∈ template .parameterGenerator, p.isGiven (invocation n) = true →
    '<' ∉ (p.content (invocation n)).toList := by
  intro p hp hgiven
  have hmem : p ∈ parameterGeneratorTemplate.take 3 := by
    rw [← given n]
    exact List.mem_filter.2 ⟨hp, hgiven⟩
  simp only [parameterGeneratorTemplate, List.take_succ_cons, List.take_zero, List.mem_cons,
    List.not_mem_nil, or_false] at hmem
  rcases hmem with rfl | rfl | rfl
  · simp [contractPart, Part.fixed, Part.content, Piece.render, Slot.fill, invocation,
      Json.Members.find?]
  · rw [goalPart_content, trimChars_goal]
    simp
  · simp [Part.fixed, Part.content, Piece.render, Slot.fill, Slot.isGiven, invocation,
      Json.Members.find?]

/-- The prompt has three sections, all required, and the second shows the goal. -/
theorem sectionsFor_eq {n : Nat} (hn : n ≠ 0) :
    ∃ s t : Section, s.isRequired = true ∧ t.isRequired = true ∧
      sectionsFor .parameterGenerator (invocation n) =
        [s, ⟨"goal", true, .ofList ("### Goal\n\n".toList ++ List.replicate n 'g')⟩, t] := by
  have hgoal := trimChars_goalPart (invocation n) (by rw [trimChars_goal]; simpa using hn)
  rw [trimChars_goal] at hgoal
  have hparts : sectionsFor .parameterGenerator (invocation n) =
      (parameterGeneratorTemplate.take 3).filterMap (Part.section? (invocation n)) := by
    rw [sectionsFor, sections_render _ (template_isWord _) fun p hp hgiven =>
      unmarked_of_not_mem (plain n p hp hgiven), given]
  rw [hparts, parameterGeneratorTemplate, List.take_succ_cons, List.take_succ_cons,
    List.take_succ_cons, List.take_zero, List.filterMap_cons_some (Part.section?_of_required _ rfl),
    List.filterMap_cons_some (Part.section?_of_required _ rfl),
    List.filterMap_cons_some (Part.section?_of_required _ rfl), List.filterMap_nil, hgoal]
  exact ⟨_, _, rfl, rfl, rfl⟩

end LongGoal

/-- **A prompt over its budget.**  A goal that is too long is not cut, as the step comes
after it. -/
theorem build_exceeds_budget :
    1000 < (build 1000 .parameterGenerator (LongGoal.invocation 1000)).utf8ByteSize := by
  obtain ⟨s, t, hs, ht, hsections⟩ := LongGoal.sectionsFor_eq (n := 1000) (by decide)
  generalize hgoal : ("### Goal\n\n".toList ++ List.replicate 1000 'g') = text at hsections
  have hlength : 1000 ≤ (String.ofList text).utf8ByteSize := by
    have := length_le_size text
    rw [← hgoal, List.length_append, List.length_replicate, hgoal] at this
    omega
  have hlasting : lasting [s, ⟨"goal", true, .ofList text⟩, t] = _ :=
    lasting_of_required (by simp [hs, ht])
  have hahead : 1000 < sizeAhead [s, ⟨"goal", true, .ofList text⟩] := by
    have hseparator : separator.utf8ByteSize = 2 := rfl
    rw [sizeAhead, if_neg (by simp), joinedSize_cons, joinedSize_cons, hseparator]
    simp only [List.isEmpty_cons, List.isEmpty_nil, if_true, Bool.false_eq_true, if_false]
    omega
  rw [build, size_join, hsections]
  refine Nat.lt_of_not_le fun h => ?_
  rw [joinedSize_fit_le_iff, hlasting] at h
  exact absurd h (Nat.not_le.2 hahead)

end Prompt
end Errand

/-
# Where a text is cut

`cut?` looks for the first copy of one text in another.  It finds none exactly when the
other text holds none (`cut?_eq_none_iff`).  If a text is known to consist of some
characters, a copy and the rest, the cut falls at that copy as long as no copy starts
earlier; for that the characters before must hold no copy and must end in a character
that no copy has (`cut?_append`).

The other lemmas are for a text that stands amid others: no copy of a word of foreign
characters begins or ends outside of it (`infix_of_infix_amid`), what is trimmed is the
others (`trimChars_amid`), and the first character of a kind ends what stands before it in
one way only (`eq_of_append_eq`).
-/

import Errand.Text.Blank
import Errand.Text.Search
import Mathlib.Data.List.Infix
import Mathlib.Data.List.TakeWhile

namespace Errand
namespace Text

variable {p s t a b w : List Char} {c d : Char}

/-! ### Copies of a word -/

/-- A text contains its infixes, -/
theorem contains_iff_infix : contains p s = true ↔ p <:+: s := by
  rw [contains_iff]
  constructor
  · rintro ⟨a, b, rfl⟩
    exact ⟨a, b, rfl⟩
  · rintro ⟨a, b, h⟩
    exact ⟨a, b, h.symm⟩

/-- and is not cut by anything else. -/
theorem cut?_eq_none_iff : cut? p s = none ↔ ¬p <:+: s := by
  rw [← contains_iff_infix, contains, Bool.not_eq_true, Option.isSome_eq_false_iff,
    Option.isNone_iff_eq_none]

/-- No copy starts before the one that follows `a`: it would stand in `a`, or reach over
its last character. -/
theorem stripPrefix?_append_eq_none (ha : ¬p <:+: c :: a)
    (hlast : ∀ x ∈ (c :: a).getLast?, x ∉ p) : stripPrefix? p (c :: a ++ s) = none := by
  refine Option.eq_none_iff_forall_ne_some.2 fun t ht => ?_
  have hsplit : c :: a ++ s = p ++ t := stripPrefix?_eq_some_iff.1 ht
  rcases List.append_eq_append_iff.1 hsplit with ⟨more, hmore, -⟩ | ⟨rest, hrest, -⟩
  · have hmem : (c :: a).getLast (List.cons_ne_nil c a) ∈ p :=
      hmore ▸ List.mem_append_left more (List.getLast_mem _)
    exact hlast _ (List.getLast?_eq_getLast_of_ne_nil _) hmem
  · exact ha ⟨[], rest, hrest.symm⟩

/-- **A text is cut at the first copy.** -/
theorem cut?_append (ha : ¬p <:+: a) (hlast : ∀ x ∈ a.getLast?, x ∉ p) :
    cut? p (a ++ (p ++ b)) = some (a, b) := by
  induction a with
  | nil =>
    have hstrip : stripPrefix? p (p ++ b) = some b := stripPrefix?_eq_some_iff.2 rfl
    cases p with
    | nil => exact absurd List.nil_infix ha
    | cons c p =>
      rw [List.nil_append, List.cons_append, cut?]
      rw [List.cons_append] at hstrip
      rw [hstrip]
  | cons c a ih =>
    have htail : cut? p (a ++ (p ++ b)) = some (a, b) := by
      refine ih (fun h => ha (List.infix_cons h)) fun x hx => hlast x ?_
      rw [List.getLast?_cons, Option.mem_def.1 hx]
      rfl
    have hnone := stripPrefix?_append_eq_none (s := p ++ b) ha hlast
    rw [List.cons_append] at hnone ⊢
    rw [cut?, hnone, htail]
    rfl

/-- A word does not start amid characters that it does not have. -/
theorem infix_of_infix_append (hw : w ≠ []) (ha : ∀ x ∈ w, x ∉ a) (h : w <:+: a ++ s) :
    w <:+: s := by
  induction a with
  | nil => exact h
  | cons c a ih =>
    rcases List.infix_cons_iff.1 h with hstart | hcopy
    · obtain ⟨x, w, rfl⟩ := List.exists_cons_of_ne_nil hw
      have hx : x = c := (List.cons_prefix_cons.1 hstart).1
      exact absurd (by simp [hx]) (ha x List.mem_cons_self)
    · exact ih (fun x hx hmem => ha x hx (List.mem_cons_of_mem c hmem)) hcopy

/-- **A word amid foreign characters:** it stands in what is between them. -/
theorem infix_of_infix_amid (hw : w ≠ []) (ha : ∀ x ∈ w, x ∉ a) (hb : ∀ x ∈ w, x ∉ b)
    (h : w <:+: a ++ (s ++ b)) : w <:+: s := by
  have hright : w <:+: s ++ b := infix_of_infix_append hw ha h
  rw [← List.reverse_infix, List.reverse_append] at hright
  rw [← List.reverse_infix]
  refine infix_of_infix_append (by simpa using hw) (fun x hx => ?_) hright
  rw [List.mem_reverse] at hx ⊢
  exact hb x hx

/-! ### Amid others -/

/-- Trimming at the start ends at a character that is not blank, -/
theorem trimStartChars_append_solid (hc : isBlank c = false) :
    trimStartChars (a ++ c :: s) = trimStartChars a ++ c :: s := by
  have hsolid : (c :: s).dropWhile isBlank = c :: s :=
    List.dropWhile_cons_of_neg (by simp [hc])
  rw [trimStartChars, trimStartChars, List.dropWhile_append]
  split
  · next hblank => rw [List.isEmpty_iff.1 hblank, hsolid, List.nil_append]
  · rfl

/-- and so does trimming at the end. -/
theorem trimEndChars_append_solid (hc : isBlank c = false) :
    trimEndChars (s ++ c :: b) = s ++ c :: trimEndChars b := by
  have hreverse : (s ++ c :: b).reverse = b.reverse ++ c :: s.reverse := by simp
  have hstart := trimStartChars_append_solid (a := b.reverse) (s := s.reverse) hc
  simp only [trimStartChars] at hstart
  rw [trimEndChars, trimEndChars, hreverse, hstart]
  simp

/-- **What is trimmed is the others,** when the text between them ends in no blanks. -/
theorem trimChars_amid (hc : isBlank c = false) (hd : isBlank d = false) :
    trimChars (a ++ (c :: (s ++ d :: b))) =
      trimStartChars a ++ (c :: (s ++ d :: trimEndChars b)) := by
  rw [trimChars, trimStartChars_append_solid hc, ← List.cons_append, ← List.append_assoc,
    trimEndChars_append_solid hd, List.append_assoc, List.cons_append]

/-- Blanks around a text that ends in none are all that is trimmed. -/
theorem trimChars_amid_blanks (hc : isBlank c = false) (hd : isBlank d = false)
    (ha : a.all isBlank = true) (hb : b.all isBlank = true) :
    trimChars (a ++ (c :: (s ++ d :: b))) = c :: (s ++ [d]) := by
  have htrail : trimEndChars b = [] := trimEndChars_append_blank (s := []) hb
  rw [trimChars_amid hc hd, trimStartChars_of_blank ha, htrail, List.nil_append]

/-- If blanks remain, there were blanks alone. -/
theorem all_isBlank_of_trimStartChars (h : (trimStartChars s).all isBlank = true) :
    s.all isBlank = true := by
  rw [← List.takeWhile_append_dropWhile (p := isBlank) (l := s), List.all_append,
    Bool.and_eq_true]
  exact ⟨List.all_takeWhile, h⟩

/-- What is blank when trimmed is blank. -/
theorem all_isBlank_of_trimEndChars (h : (trimEndChars s).all isBlank = true) :
    s.all isBlank = true := by
  rw [trimEndChars, List.all_reverse] at h
  simpa using all_isBlank_of_trimStartChars (s := s.reverse) h

/-- What is trimmed is part of the text, -/
theorem trimChars_infix (s : List Char) : trimChars s <:+: s :=
  ⟨leadingBlanks s, trailingBlanks s, blanks_around_trimChars s⟩

/-- and its characters are characters of the text, -/
theorem trimStartChars_subset (s : List Char) : trimStartChars s ⊆ s :=
  List.dropWhile_subset isBlank

/-- at whichever end it is trimmed. -/
theorem trimEndChars_subset (s : List Char) : trimEndChars s ⊆ s := by
  intro x hx
  rw [trimEndChars, List.mem_reverse] at hx
  exact List.mem_reverse.1 (List.dropWhile_subset isBlank hx)

/-- **What is trimmed stays so,** as only blanks were trimmed away. -/
theorem trim_trim (x : String) : trim (trim x) = trim x := by
  have hchars := trimChars_blanks_around (s := trimChars x.toList)
    (leadingBlanks_blank x.toList) (trailingBlanks_blank x.toList)
  rw [blanks_around_trimChars] at hchars
  rw [trim, toList_trim, ← hchars]
  rfl

/-- What is trimmed to nothing is blank. -/
theorem trim_eq_empty_iff {x : String} : trim x = "" ↔ isBlankText x = true := by
  have hchars : trim x = "" ↔ trimChars x.toList = [] := by
    rw [← String.toList_inj, toList_trim, String.toList_empty]
  rw [hchars, isBlankText]
  constructor
  · intro h
    have hsplit := blanks_around_trimChars x.toList
    rw [h, List.append_nil] at hsplit
    rw [← hsplit, List.all_append, leadingBlanks_blank, trailingBlanks_blank]
    rfl
  · intro h
    rw [trimChars, trimStartChars_of_blank h]
    rfl

/-- The trimmed text is a text that is not blank. -/
theorem trimmed?_eq_some_iff {x y : String} :
    trimmed? x = some y ↔ isBlankText x = false ∧ y = trim x := by
  have hblank : (trim x).isEmpty = isBlankText x := by
    rw [Bool.eq_iff_iff, String.isEmpty_iff, trim_eq_empty_iff]
  rw [trimmed?, hblank]
  cases isBlankText x with
  | true => simp
  | false => simp [eq_comm]

/-- **The first character of a kind** ends what stands before it in one way only. -/
theorem eq_of_append_eq {P : Char → Bool} {x y : Char} (ha : ∀ z ∈ a, P z = false)
    (hb : ∀ z ∈ b, P z = false) (hx : P x = true) (hy : P y = true)
    (h : a ++ x :: s = b ++ y :: t) : a = b ∧ x = y ∧ s = t := by
  have before {u r : List Char} {z : Char} (hu : ∀ z ∈ u, P z = false) (hz : P z = true) :
      (u ++ z :: r).takeWhile (!P ·) = u := by
    rw [List.takeWhile_append_of_pos fun v hv => by simp [hu v hv],
      List.takeWhile_cons_of_neg (by simp [hz]), List.append_nil]
  have hab : a = b := by
    rw [← before (r := s) ha hx, h, before hb hy]
  subst hab
  exact ⟨rfl, List.cons.inj (List.append_cancel_left h)⟩

end Text
end Errand

/-
# What case sees in a text, and in its lower-case form

From a place in a text case looks past the characters that it ignores and sees the first
other one, which is cased or not (`sight`).  What is seen of a text and then another is what is
seen of the first, unless nothing is (`sight_append`).

The tables are compared as sets of code points, each the bits of one number: the characters
that have a lower-case form, and those forms, are cased and not ignored, and none of the forms
has another one.  So a character in lower case shows to either side what it showed before
(`sight_lowerChar`, `sight_reverse_lowerChar`), and what is in lower case stays as it is
(`isLower_of_mem_lowerChar`).
-/

import Errand.Text.Case

namespace Errand
namespace Text

variable {c d : Char} {n : Nat} {r : CaseRun}

/-! ### What case sees -/

/-- What case sees from the start of a text: whether the first character that it does not look
past is cased, if there is one. -/
def sight (s : List Char) : Option Bool := (s.find? (!isCaseIgnorable ·)).map isCased

@[simp] theorem sight_nil : sight [] = none := rfl

/-- The nearer part of a text is seen first, -/
theorem sight_append (s t : List Char) : sight (s ++ t) = (sight s).or (sight t) := by
  rw [sight, List.find?_append, Option.map_or]
  rfl

/-- down to its first character. -/
theorem sight_cons (c : Char) (s : List Char) : sight (c :: s) = (sight [c]).or (sight s) :=
  sight_append [c] s

/-- A text opens cased if a cased character is seen in it first. -/
theorem opensCased_eq (s : List Char) : opensCased s = decide (sight s = some true) := by
  induction s with
  | nil => rfl
  | cons c s ih =>
    rw [opensCased, sight]
    cases hc : isCaseIgnorable c with
    | true =>
      rw [List.dropWhile_cons_of_pos hc, List.find?_cons_of_neg (by simp [hc])]
      exact ih
    | false =>
      rw [List.dropWhile_cons_of_neg (by simp [hc]), List.find?_cons_of_pos (by simp [hc])]
      simp

/-- A cased character that is not ignored is seen. -/
theorem sight_of_cased (hcased : isCased c = true) (hnot : isCaseIgnorable c = false) :
    sight [c] = some true := by
  simp [sight, hnot, hcased]

/-! ### Code points as bits -/

/-- Code points as the bits of a number. -/
def bits (ns : List Nat) : Nat := ns.foldr (fun n m => 1 <<< n ||| m) 0

/-- The code points of closed ranges as the bits of a number. -/
def rangeBits (ranges : List (Nat × Nat)) : Nat :=
  ranges.foldr (fun q m => (1 <<< (q.2 + 1 - q.1) - 1) <<< q.1 ||| m) 0

theorem testBit_bits (ns : List Nat) (n : Nat) : (bits ns).testBit n = decide (n ∈ ns) := by
  induction ns with
  | nil => simp [bits]
  | cons k ns ih =>
    rw [bits, List.foldr_cons, ← bits, Nat.testBit_or, ih, Nat.one_shiftLeft, Nat.testBit_two_pow]
    simp [eq_comm]

theorem testBit_rangeBits (ranges : List (Nat × Nat)) (n : Nat) :
    (rangeBits ranges).testBit n = inRanges ranges n := by
  induction ranges with
  | nil => simp [rangeBits, inRanges]
  | cons q ranges ih =>
    have hq : ((1 <<< (q.2 + 1 - q.1) - 1) <<< q.1).testBit n = (q.1 ≤ n && n ≤ q.2) := by
      rw [Nat.testBit_shiftLeft, Nat.one_shiftLeft, Nat.testBit_two_pow_sub_one,
        Bool.eq_iff_iff]
      simp only [Bool.and_eq_true, decide_eq_true_eq]
      omega
    rw [rangeBits, List.foldr_cons, ← rangeBits, Nat.testBit_or, ih, hq]
    rfl

/-- A set within another. -/
theorem testBit_of_or_eq {a b : Nat} (h : a ||| b = b) (ha : a.testBit n = true) :
    b.testBit n = true := by
  rw [← h, Nat.testBit_or, ha, Bool.true_or]

/-- Sets with nothing in common. -/
theorem testBit_of_and_eq_zero {a b : Nat} (h : a &&& b = 0) (ha : a.testBit n = true) :
    b.testBit n = false := by
  have hn : (a &&& b).testBit n = false := by rw [h, Nat.zero_testBit]
  rwa [Nat.testBit_and, ha, Bool.true_and] at hn

/-! ### Runs of the tables -/

namespace CaseRun

/-- Where the run moves a code point. -/
def move (r : CaseRun) (n : Nat) : Nat := ((n : Int) + r.shift).toNat

/-- The code points of the run. -/
def codePoints (r : CaseRun) : List Nat :=
  (List.range ((r.last - r.first) / r.stride + 1)).map fun i => r.first + r.stride * i

/-- The code points of a run are listed, -/
theorem mem_codePoints (h : r.holds n = true) : n ∈ r.codePoints := by
  obtain ⟨⟨hfirst, hlast⟩, hstride⟩ : (r.first ≤ n ∧ n ≤ r.last) ∧
      (n - r.first) % r.stride = 0 := by simpa [holds] using h
  refine List.mem_map.2 ⟨(n - r.first) / r.stride, List.mem_range.2 ?_, ?_⟩
  · exact Nat.lt_succ_of_le (Nat.div_le_div_right (Nat.sub_le_sub_right hlast _))
  · rw [Nat.mul_div_cancel' (Nat.dvd_of_mod_eq_zero hstride), Nat.add_sub_cancel' hfirst]

end CaseRun

/-- The runs of all characters whose lower-case form is one other character. -/
def caseRuns : List CaseRun := ⟨0x41, 0x5A, 1, 32⟩ :: lowerRuns

/-- The code points of the runs. -/
def movedBits : Nat := bits (caseRuns.flatMap CaseRun.codePoints)

/-- The code points that the runs move to. -/
def formBits : Nat := bits (caseRuns.flatMap fun r => r.codePoints.map r.move)

/-- so the mask of what is moved has them, -/
theorem testBit_movedBits (hr : r ∈ caseRuns) (h : r.holds n = true) :
    movedBits.testBit n = true := by
  rw [movedBits, testBit_bits, decide_eq_true_iff]
  exact List.mem_flatMap.2 ⟨r, hr, CaseRun.mem_codePoints h⟩

/-- and that of what it is moved to has where they go. -/
theorem testBit_formBits (hr : r ∈ caseRuns) (h : r.holds n = true) :
    formBits.testBit (r.move n) = true := by
  rw [formBits, testBit_bits, decide_eq_true_iff]
  exact List.mem_flatMap.2 ⟨r, hr, List.mem_map_of_mem (CaseRun.mem_codePoints h)⟩

/-- What is moved is cased, -/
theorem movedBits_cased : movedBits ||| rangeBits casedRanges = rangeBits casedRanges := by
  decide +kernel

/-- so is what it is moved to, -/
theorem formBits_cased : formBits ||| rangeBits casedRanges = rangeBits casedRanges := by
  decide +kernel

/-- and neither what is moved. -/
theorem movedBits_kept : movedBits &&& rangeBits caseIgnorableRanges = 0 := by decide +kernel

/-- nor what it is moved to is ignored. -/
theorem formBits_kept : formBits &&& rangeBits caseIgnorableRanges = 0 := by decide +kernel

/-- No form is moved any further; `U+0130` is none either. -/
theorem formBits_fixed : formBits &&& (bits [0x130] ||| movedBits) = 0 := by decide +kernel

/-- The cased ranges keep clear of the surrogates, -/
theorem casedRanges_valid :
    ∀ q ∈ casedRanges, q.2 < 0xD800 ∨ 0xDFFF < q.1 ∧ q.2 < 0x110000 := by decide +kernel

/-- so whatever is cased is a character. -/
theorem isValidChar_of_cased (h : inRanges casedRanges n = true) : n.isValidChar := by
  obtain ⟨q, hq, hfirst, hlast⟩ := inRanges_iff.1 h
  rcases casedRanges_valid q hq with hlow | ⟨hhigh, hend⟩
  · exact .inl (Nat.lt_of_le_of_lt hlast hlow)
  · exact .inr ⟨Nat.lt_of_lt_of_le hhigh hfirst, Nat.lt_of_le_of_lt hlast hend⟩

/-! ### Lower case of one character -/

/-- The character has no other lower-case form. -/
def IsLower (c : Char) : Prop := lowerChar c = [c]

/-- **The lower-case form of a character,** by the tables. -/
theorem lowerChar_cases (c : Char) :
    c.toNat = 0x130 ∧ lowerChar c = ['i', Char.ofNat 0x307] ∨
      (∃ r ∈ caseRuns, r.holds c.toNat = true ∧ lowerChar c = [Char.ofNat (r.move c.toNat)]) ∨
        IsLower c := by
  rw [IsLower, lowerChar]
  split
  · next hascii =>
    have hlower : ∀ n < 0x80, (Char.ofNat n).toLower =
        if 0x41 ≤ n ∧ n ≤ 0x5A then Char.ofNat (n + 32) else Char.ofNat n := by decide
    have hc := hlower c.toNat hascii
    rw [Char.ofNat_toNat] at hc
    split at hc
    · next hupper =>
      refine .inr (.inl ⟨⟨0x41, 0x5A, 1, 32⟩, List.mem_cons_self, ?_, by rw [hc]; rfl⟩)
      simp [CaseRun.holds, hupper, Nat.mod_one]
    · exact .inr (.inr (by rw [hc]))
  · split
    · next hdot => exact .inl ⟨hdot, rfl⟩
    · split
      · next r hfind =>
        have hr := List.mem_of_find?_eq_some hfind
        have hholds : r.holds c.toNat = true :=
          List.find?_some (p := fun r : CaseRun => r.holds c.toNat) hfind
        exact .inr (.inl ⟨r, List.mem_cons_of_mem _ hr, hholds, rfl⟩)
      · exact .inr (.inr rfl)

/-- What no run moves is lower. -/
theorem isLower_of_not_moved (hdot : c.toNat ≠ 0x130)
    (hruns : ∀ r ∈ caseRuns, r.holds c.toNat = false) : IsLower c := by
  rcases lowerChar_cases c with ⟨h, -⟩ | ⟨r, hr, hholds, -⟩ | h
  · exact absurd h hdot
  · rw [hruns r hr] at hholds
    exact absurd hholds Bool.false_ne_true
  · exact h

/-- A character that a run holds is cased and not ignored, and so is its form, which has no
other lower-case form. -/
theorem of_holds (hr : r ∈ caseRuns) (h : r.holds c.toNat = true)
    (hd : d = Char.ofNat (r.move c.toNat)) :
    (isCased c = true ∧ isCaseIgnorable c = false) ∧
      (isCased d = true ∧ isCaseIgnorable d = false) ∧ IsLower d := by
  have hmoved := testBit_movedBits hr h
  have hform := testBit_formBits hr h
  have hcased := testBit_of_or_eq formBits_cased hform
  rw [testBit_rangeBits] at hcased
  have hnat : d.toNat = r.move c.toNat := by
    rw [hd, Char.ofNat, dif_pos (isValidChar_of_cased hcased)]
    rfl
  have hfixed := testBit_of_and_eq_zero formBits_fixed hform
  rw [Nat.testBit_or, Bool.or_eq_false_iff, ← hnat] at hfixed
  refine ⟨⟨?_, ?_⟩, ⟨?_, ?_⟩, isLower_of_not_moved ?_ fun q hq => ?_⟩
  · rw [isCased, ← testBit_rangeBits]
    exact testBit_of_or_eq movedBits_cased hmoved
  · rw [isCaseIgnorable, ← testBit_rangeBits]
    exact testBit_of_and_eq_zero movedBits_kept hmoved
  · rw [isCased, hnat]
    exact hcased
  · rw [isCaseIgnorable, hnat, ← testBit_rangeBits]
    exact testBit_of_and_eq_zero formBits_kept hform
  · intro hdot
    rw [hdot, testBit_bits, decide_eq_false_iff_not] at hfixed
    exact hfixed.1 List.mem_cons_self
  · refine Bool.eq_false_iff.2 fun hholds => ?_
    rw [testBit_movedBits hq hholds] at hfixed
    exact Bool.noConfusion hfixed.2

/-- **What is in lower case stays as it is.** -/
theorem isLower_of_mem_lowerChar (h : d ∈ lowerChar c) : IsLower d := by
  rcases lowerChar_cases c with ⟨-, hc⟩ | ⟨r, hr, hholds, hc⟩ | hc
  · rw [hc, List.mem_cons, List.mem_singleton] at h
    rcases h with rfl | rfl
    · exact rfl
    · exact isLower_of_not_moved (by decide) (by decide +kernel)
  · rw [hc, List.mem_singleton] at h
    exact (of_holds hr hholds h).2.2
  · rw [(hc : lowerChar c = [c]), List.mem_singleton] at h
    exact h ▸ hc

/-- **Lower case hides nothing and shows nothing new,** from the front. -/
theorem sight_lowerChar (c : Char) : sight (lowerChar c) = sight [c] := by
  rcases lowerChar_cases c with ⟨hdot, hc⟩ | ⟨r, hr, hholds, hc⟩ | hc
  · have hchar : c = Char.ofNat 0x130 := by rw [← hdot, Char.ofNat_toNat]
    rw [hc, hchar]
    decide +kernel
  · obtain ⟨hold, hnew, -⟩ := of_holds hr hholds rfl
    rw [hc, sight_of_cased hold.1 hold.2, sight_of_cased hnew.1 hnew.2]
  · rw [hc]

/-- From behind it is the same; only `U+0130` has a form that differs when turned round. -/
theorem sight_reverse_lowerChar (c : Char) : sight (lowerChar c).reverse = sight [c] := by
  rcases lowerChar_cases c with ⟨hdot, hc⟩ | ⟨r, hr, hholds, hc⟩ | hc
  · have hchar : c = Char.ofNat 0x130 := by rw [← hdot, Char.ofNat_toNat]
    rw [hc, hchar]
    decide +kernel
  · rw [hc, List.reverse_singleton, ← hc, sight_lowerChar]
  · rw [hc]
    rfl

end Text
end Errand

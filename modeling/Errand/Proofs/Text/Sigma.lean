/-
# Capital sigmas amid other texts

A text is lower-cased character by character, but for its capital sigmas: the form of each
hangs on what case sees before and behind it.  So the lower-case form of a text is known up to
these places (`stencil`), and the texts around it fill them in (`lowerFrom_append`).

`Decides` says when a sigma sees enough within its own text.  A text all of whose sigmas do is
lower-cased the same wherever it stands, and only such a text is (`decidesSigmas_iff`).  A text
that is in lower case already may have been read from a text with capital sigmas, at whose
places it has one of the small ones; `IsFirm` says that none of these could have come from a
sigma that sees too little.  Exactly then no text that is added around another undoes that its
lower-case form was found in it (`isFirm_iff`).

That a form does change is shown by adding a single letter, one that the form sought does not
begin or end with, so that it is not found one place further on (`infix_of_infix_cons`,
`infix_of_infix_concat`).
-/

import Errand.Proofs.Text.Cut
import Errand.Proofs.Text.Lower

namespace Errand
namespace Text

variable {a b k m s t : List Char} {c e f : Char} {x y p q : Option Bool}

/-! ### The form of a sigma -/

/-- The form of a sigma that ends a word. -/
def finalSigma : Char := Char.ofNat 0x3C2

/-- The form of any other sigma. -/
def plainSigma : Char := Char.ofNat 0x3C3

/-- The form of a capital sigma, by what case sees before and behind it. -/
def sigmaFor (before after : Option Bool) : Char :=
  if before = some true ∧ after ≠ some true then finalSigma else plainSigma

/-- A sigma is spelled by what is seen from it. -/
theorem lowerSigma_eq (before after : List Char) :
    lowerSigma before after = sigmaFor (sight before) (sight after) := by
  simp [lowerSigma, sigmaFor, opensCased_eq, finalSigma, plainSigma]

/-- It is final where something cased is seen before it and nothing behind it, -/
theorem sigmaFor_eq_finalSigma_iff : sigmaFor x y = finalSigma ↔ x = some true ∧ y ≠ some true := by
  have hne : plainSigma ≠ finalSigma := by decide
  rw [sigmaFor]
  split
  · next h => simp [h]
  · next h => simp [h, hne]

/-- and plain everywhere else. -/
theorem sigmaFor_eq_plainSigma_iff :
    sigmaFor x y = plainSigma ↔ ¬(x = some true ∧ y ≠ some true) := by
  have hne : finalSigma ≠ plainSigma := by decide
  rw [sigmaFor]
  split
  · next h => simp [h, hne]
  · next h => simp [h]

/-- Either spelling looks like the capital. -/
theorem sight_sigmaFor (x y : Option Bool) : sight [sigmaFor x y] = sight [capitalSigma] := by
  have hforms : sight [finalSigma] = sight [capitalSigma] ∧
      sight [plainSigma] = sight [capitalSigma] := by decide +kernel
  rw [sigmaFor]
  split
  · exact hforms.1
  · exact hforms.2

/-- What a sigma sees decides its form, whatever stands further out: it sees that its word goes
on, or that none began, or that one ends here. -/
def Decides (before after : Option Bool) : Prop :=
  after = some true ∨ before = some false ∨ before = some true ∧ after = some false

instance (before after : Option Bool) : Decidable (Decides before after) :=
  inferInstanceAs (Decidable (_ ∨ _ ∨ _ ∧ _))

/-- What decides a spelling decides it in every context. -/
theorem Decides.sigmaFor_or (h : Decides x y) (p q : Option Bool) :
    sigmaFor (x.or p) (y.or q) = sigmaFor x y := by
  rcases h with rfl | rfl | ⟨rfl, rfl⟩
  · simp [sigmaFor]
  · simp [sigmaFor]
  · rfl

/-- A letter on either side tells whether the form is decided. -/
theorem decides_of_sigmaFor_or (hbefore : sigmaFor (x.or (some true)) y = sigmaFor x y)
    (hafter : sigmaFor x (y.or (some true)) = sigmaFor x y) : Decides x y := by
  have hne : finalSigma ≠ plainSigma := by decide
  rcases x with _ | _ | _ <;> rcases y with _ | _ | _ <;>
    simp_all [Decides, sigmaFor, eq_comm (a := plainSigma)]

/-! ### The lower-case form up to its sigmas -/

/-- A place in the lower-case form of a text. -/
inductive Place where
  | char (c : Char)
  /-- A capital sigma, with what it sees within the text. -/
  | sigma (before after : Option Bool)

/-- Whether what stands at the place is decided within the text. -/
def Place.isDecided : Place → Bool
  | .char _ => true
  | .sigma x y => decide (Decides x y)

/-- What stands at the place, by what case sees around the text. -/
def Place.fill (before after : Option Bool) : Place → Char
  | .char c => c
  | .sigma x y => sigmaFor (x.or before) (y.or after)

/-- The lower-case form of a text that is preceded by what shows `before`. -/
def stencilFrom (before : Option Bool) : List Char → List Place
  | [] => []
  | c :: r =>
    (if c = capitalSigma then [.sigma before (sight r)] else (lowerChar c).map .char) ++
      stencilFrom ((sight [c]).or before) r

/-- The lower-case form of a text, whatever stands around it. -/
def stencil (s : List Char) : List Place := stencilFrom none s

/-- Filling leaves characters alone. -/
theorem map_fill_char (p q : Option Bool) (s : List Char) :
    (s.map Place.char).map (Place.fill p q) = s := by
  rw [List.map_map]
  exact List.map_id s

/-- By induction on the text, for any part of it that was taken before. -/
theorem lowerFrom_stencilFrom (taken before s after : List Char) :
    lowerFrom (taken ++ before) (s ++ after) =
      (stencilFrom (sight taken) s).map (Place.fill (sight before) (sight after)) ++
        lowerFrom (s.reverse ++ taken ++ before) after := by
  induction s generalizing taken with
  | nil => rfl
  | cons c r ih =>
    have hrest := ih (c :: taken)
    rw [sight_cons] at hrest
    have hreverse : (c :: r).reverse ++ taken ++ before = r.reverse ++ (c :: taken) ++ before := by
      simp
    rw [List.cons_append, lowerFrom, stencilFrom, List.map_append, List.append_assoc, hreverse,
      ← hrest]
    congr 1
    split
    · rw [lowerSigma_eq, sight_append, sight_append]
      rfl
    · exact (map_fill_char ..).symm

/-- **The texts around fill in the sigmas.** -/
theorem lowerFrom_append (before s after : List Char) :
    lowerFrom before (s ++ after) =
      (stencil s).map (Place.fill (sight before) (sight after)) ++
        lowerFrom (s.reverse ++ before) after := by
  have h := lowerFrom_stencilFrom [] before s after
  rwa [List.append_nil] at h

/-- To lower-case a text is to fill its stencil with nothing around it. -/
theorem lowerFrom_eq (s : List Char) :
    lowerFrom [] s = (stencil s).map (Place.fill none none) := by
  have h := lowerFrom_append [] s []
  rwa [List.append_nil, lowerFrom, List.append_nil] at h

/-- **A text amid others** stands in their lower-case form as they fill it in. -/
theorem infix_lowerFrom_amid (a s b : List Char) :
    (stencil s).map (Place.fill (sight a.reverse) (sight b)) <:+: lowerFrom [] (a ++ (s ++ b)) := by
  rw [lowerFrom_append, lowerFrom_append, List.append_nil]
  exact (List.prefix_append ..).isInfix.trans (List.suffix_append ..).isInfix

/-! ### What is seen from a place -/

/-- A filled sigma looks like the capital. -/
theorem sight_fill_sigma (x y p q : Option Bool) :
    sight [Place.fill p q (.sigma x y)] = sight [capitalSigma] := sight_sigmaFor ..

/-- Nothing is hidden or shown by filling in. -/
theorem sight_stencilFrom (x p q : Option Bool) (s : List Char) :
    sight ((stencilFrom x s).map (Place.fill p q)) = sight s := by
  induction s generalizing x with
  | nil => rfl
  | cons c r ih =>
    rw [stencilFrom, List.map_append, sight_append, ih, sight_cons c r]
    congr 1
    split
    · next hc => exact hc ▸ sight_fill_sigma ..
    · rw [map_fill_char, sight_lowerChar]

/-- In the text stands a capital sigma, of which is noted what is seen of the text from it; and
as much is seen in the lower-case form before it, `l`, and behind it, `m`. -/
def SigmaAt (x₀ : Option Bool) (s : List Char) (l : List Place) (x y : Option Bool)
    (m : List Place) : Prop :=
  ∃ u v, s = u ++ capitalSigma :: v ∧ x = (sight u.reverse).or x₀ ∧ y = sight v ∧
    ∀ p q, sight (l.map (Place.fill p q)).reverse = sight u.reverse ∧
      sight (m.map (Place.fill p q)) = sight v

/-- A sigma in the rest of a text is one of the whole, seen through what is in front. -/
theorem SigmaAt.cons {x₀ : Option Bool} {l m : List Place}
    (h : SigmaAt ((sight [c]).or x₀) s l x y m) (first : List Place)
    (hfirst : ∀ p q, sight (first.map (Place.fill p q)).reverse = sight [c]) :
    SigmaAt x₀ (c :: s) (first ++ l) x y m := by
  obtain ⟨u, v, rfl, hx, hy, hsight⟩ := h
  refine ⟨c :: u, v, rfl, ?_, hy, fun p q => ⟨?_, (hsight p q).2⟩⟩
  · rw [hx, List.reverse_cons, sight_append, Option.or_assoc]
  · rw [List.map_append, List.reverse_append, sight_append, (hsight p q).1, hfirst,
      List.reverse_cons, sight_append]

/-- **The places of the sigmas** are those of the text, by induction on the text. -/
theorem sigmaAt_of_stencilFrom {x₀ : Option Bool} {l m : List Place}
    (h : stencilFrom x₀ s = l ++ .sigma x y :: m) : SigmaAt x₀ s l x y m := by
  induction s generalizing x₀ l with
  | nil => simp [stencilFrom] at h
  | cons c r ih =>
    have hchars (p q : Option Bool) :
        sight (((lowerChar c).map Place.char).map (Place.fill p q)).reverse = sight [c] := by
      rw [map_fill_char, sight_reverse_lowerChar]
    rw [stencilFrom] at h
    split at h
    · next hc =>
      subst hc
      cases l with
      | nil =>
        obtain ⟨hplace, rfl⟩ := List.cons.inj h
        obtain ⟨rfl, rfl⟩ := Place.sigma.inj hplace
        exact ⟨[], r, rfl, rfl, rfl, fun p q => ⟨rfl, sight_stencilFrom ..⟩⟩
      | cons place l =>
        obtain ⟨rfl, hr⟩ := List.cons.inj h
        exact (ih hr).cons [_] fun p q => sight_fill_sigma ..
    · rcases List.append_eq_append_iff.1 h with ⟨l, rfl, hr⟩ | ⟨rest, hl, hm⟩
      · exact (ih hr).cons _ hchars
      · -- The sigma would be one of the characters, unless none of these is left.
        cases rest with
        | nil =>
          rw [List.append_nil] at hl
          rw [← hl, ← List.append_nil ((lowerChar c).map Place.char)]
          rw [List.nil_append] at hm
          exact (ih (l := []) hm.symm).cons _ hchars
        | cons place rest =>
          obtain ⟨rfl, -⟩ := List.cons.inj hm
          have hmem : Place.sigma x y ∈ (lowerChar c).map Place.char := by simp [hl]
          obtain ⟨d, -, hd⟩ := List.mem_map.1 hmem
          exact Place.noConfusion hd

/-- Every capital sigma leaves its place in the stencil, -/
theorem sigma_mem_stencilFrom (x₀ : Option Bool) (u v : List Char) :
    .sigma ((sight u.reverse).or x₀) (sight v) ∈ stencilFrom x₀ (u ++ capitalSigma :: v) := by
  induction u generalizing x₀ with
  | nil => simp [stencilFrom]
  | cons c u ih =>
    rw [List.cons_append, stencilFrom, List.reverse_cons, sight_append u.reverse, Option.or_assoc]
    exact List.mem_append_right _ (ih _)

/-- and every such place stands for one. -/
theorem sigma_mem_stencil_iff : .sigma x y ∈ stencil s ↔
    ∃ u v, s = u ++ capitalSigma :: v ∧ x = sight u.reverse ∧ y = sight v := by
  constructor
  · intro h
    obtain ⟨l, m, hsplit⟩ := List.append_of_mem h
    obtain ⟨u, v, hs, hx, hy, -⟩ := sigmaAt_of_stencilFrom hsplit
    exact ⟨u, v, hs, by rw [hx, Option.or_none], hy⟩
  · rintro ⟨u, v, rfl, rfl, rfl⟩
    have hmem := sigma_mem_stencilFrom none u v
    rwa [Option.or_none] at hmem

/-- **A text amid others is lower-cased as on its own** exactly if each of its sigmas keeps its
form. -/
theorem map_fill_eq_iff : (stencil s).map (Place.fill p q) = lowerFrom [] s ↔
    ∀ u v, s = u ++ capitalSigma :: v → sigmaFor ((sight u.reverse).or p) ((sight v).or q) =
      sigmaFor (sight u.reverse) (sight v) := by
  rw [lowerFrom_eq, List.map_inj_left]
  constructor
  · rintro h u v rfl
    have hplace := h _ (sigma_mem_stencil_iff.2 ⟨u, v, rfl, rfl, rfl⟩)
    simpa only [Place.fill, Option.or_none] using hplace
  · rintro h (c | ⟨x, y⟩) hplace
    · rfl
    · obtain ⟨u, v, hs, rfl, rfl⟩ := sigma_mem_stencil_iff.1 hplace
      simpa only [Place.fill, Option.or_none] using h u v hs

/-- Each capital sigma of a text has between two others the form that it has in the text
alone. -/
def KeepsSigmas (before s after : List Char) : Prop :=
  ∀ u v, s = u ++ capitalSigma :: v →
    lowerSigma (u.reverse ++ before.reverse) (v ++ after) = lowerSigma u.reverse v

/-- A text is filled as it is lower-cased alone if the context keeps its sigmas. -/
theorem map_fill_eq_iff_keepsSigmas :
    (stencil s).map (Place.fill (sight a.reverse) (sight b)) = lowerFrom [] s ↔
      KeepsSigmas a s b := by
  simp only [map_fill_eq_iff, KeepsSigmas, lowerSigma_eq, sight_append]

/-! ### Letters around a text -/

/-- The character is in lower case and cased, and case does not look past it. -/
def IsLetter (c : Char) : Prop := IsLower c ∧ sight [c] = some true

theorem isLetter_a : IsLetter 'a' := ⟨rfl, by decide +kernel⟩

theorem isLetter_b : IsLetter 'b' := ⟨rfl, by decide +kernel⟩

/-- There is always another letter. -/
theorem exists_isLetter_ne (o : Option Char) : ∃ e, IsLetter e ∧ o ≠ some e := by
  by_cases ho : o = some 'a'
  · exact ⟨'b', isLetter_b, by rw [ho]; decide⟩
  · exact ⟨'a', isLetter_a, ho⟩

theorem IsLower.ne_capitalSigma (h : IsLower c) : c ≠ capitalSigma := by
  have hmoved : lowerChar capitalSigma ≠ [capitalSigma] := by decide +kernel
  rintro rfl
  exact hmoved h

/-- A lower character stays as it is. -/
theorem lowerFrom_cons_of_isLower (h : IsLower c) (before s : List Char) :
    lowerFrom before (c :: s) = c :: lowerFrom (c :: before) s := by
  rw [lowerFrom, if_neg h.ne_capitalSigma, (h : lowerChar c = [c])]
  rfl

/-- A letter before a text. -/
theorem lowerFrom_letter_before (he : IsLetter e) (s : List Char) :
    lowerFrom [] (e :: s) = e :: (stencil s).map (Place.fill (some true) none) := by
  have h := lowerFrom_append [e] s []
  rw [List.append_nil, lowerFrom, List.append_nil, he.2] at h
  rw [lowerFrom_cons_of_isLower he.1, h, sight_nil]

/-- A letter after a text. -/
theorem lowerFrom_letter_after (hf : IsLetter f) (s : List Char) :
    lowerFrom [] (s ++ [f]) = (stencil s).map (Place.fill none (some true)) ++ [f] := by
  rw [lowerFrom_append, lowerFrom_cons_of_isLower hf.1, lowerFrom, hf.2, sight_nil]

/-- A letter on either side. -/
theorem lowerFrom_letters (he : IsLetter e) (hf : IsLetter f) (s : List Char) :
    lowerFrom [] (e :: (s ++ [f])) =
      e :: ((stencil s).map (Place.fill (some true) (some true)) ++ [f]) := by
  rw [lowerFrom_cons_of_isLower he.1, lowerFrom_append, lowerFrom_cons_of_isLower hf.1, lowerFrom,
    he.2, hf.2]

/-- A letter that a text does not begin with is not where it is found. -/
theorem infix_of_infix_cons (hk : k ≠ []) (he : k.head? ≠ some e) (h : k <:+: e :: m) :
    k <:+: m := by
  rcases List.infix_cons_iff.1 h with hstart | hlater
  · obtain ⟨c, k, rfl⟩ := List.exists_cons_of_ne_nil hk
    exact absurd (congrArg some (List.cons_prefix_cons.1 hstart).1) he
  · exact hlater

/-- What does not end with the last character stands in what is ahead of it. -/
theorem infix_of_infix_concat (hk : k ≠ []) (hf : k.getLast? ≠ some f) (h : k <:+: m ++ [f]) :
    k <:+: m := by
  rw [← List.reverse_infix, List.reverse_append] at h
  rw [← List.reverse_infix]
  refine infix_of_infix_cons (mt List.reverse_eq_nil_iff.1 hk) ?_ h
  rwa [List.head?_reverse]

/-! ### Texts that decide the form of their sigmas -/

/-- Every capital sigma of the text sees enough of the text. -/
def DecidesSigmas (s : List Char) : Prop :=
  ∀ u v, s = u ++ capitalSigma :: v → Decides (sight u.reverse) (sight v)

/-- A text decides its sigmas if every place of its stencil is decided, -/
theorem decidesSigmas_iff_stencil :
    (stencil s).all Place.isDecided = true ↔ DecidesSigmas s := by
  rw [List.all_eq_true]
  constructor
  · intro h u v hs
    exact of_decide_eq_true (h _ (sigma_mem_stencil_iff.2 ⟨u, v, hs, rfl, rfl⟩))
  · rintro h (c | ⟨x, y⟩) hplace
    · rfl
    · obtain ⟨u, v, hs, rfl, rfl⟩ := sigma_mem_stencil_iff.1 hplace
      exact decide_eq_true (h u v hs)

instance (s : List Char) : Decidable (DecidesSigmas s) :=
  decidable_of_iff _ decidesSigmas_iff_stencil

/-- and is then filled in every context as it is alone. -/
theorem DecidesSigmas.map_fill (h : DecidesSigmas s) (p q : Option Bool) :
    (stencil s).map (Place.fill p q) = lowerFrom [] s :=
  map_fill_eq_iff.2 fun u v hs => (h u v hs).sigmaFor_or p q

/-- **The texts whose lower-case form stands wherever they stand** are those that decide the
form of their sigmas: a letter before the text and one after it tell all the others. -/
theorem decidesSigmas_iff : DecidesSigmas s ↔
    ∀ a b, lowerFrom [] s <:+: lowerFrom [] (a ++ (s ++ b)) := by
  constructor
  · intro h a b
    rw [← h.map_fill (sight a.reverse) (sight b)]
    exact infix_lowerFrom_amid a s b
  · rintro h u v rfl
    have hne : lowerFrom [] (u ++ capitalSigma :: v) ≠ [] := by
      rw [lowerFrom_eq, Ne, List.map_eq_nil_iff]
      exact List.ne_nil_of_mem (sigma_mem_stencilFrom none u v)
    have hlength (p q : Option Bool) : (lowerFrom [] (u ++ capitalSigma :: v)).length =
        ((stencil (u ++ capitalSigma :: v)).map (Place.fill p q)).length := by
      rw [lowerFrom_eq, List.length_map, List.length_map]
    refine decides_of_sigmaFor_or ?_ ?_
    · obtain ⟨e, he, hhead⟩ := exists_isLetter_ne (lowerFrom [] (u ++ capitalSigma :: v)).head?
      have hfound := h [e] []
      rw [List.append_nil, List.singleton_append, lowerFrom_letter_before he] at hfound
      have heq := (infix_of_infix_cons hne hhead hfound).eq_of_length (hlength ..)
      simpa only [Option.or_none] using map_fill_eq_iff.1 heq.symm u v rfl
    · obtain ⟨f, hf, hlast⟩ := exists_isLetter_ne (lowerFrom [] (u ++ capitalSigma :: v)).getLast?
      have hfound := h [] [f]
      rw [List.nil_append, lowerFrom_letter_after hf] at hfound
      have heq := (infix_of_infix_concat hne hlast hfound).eq_of_length (hlength ..)
      simpa only [Option.or_none] using map_fill_eq_iff.1 heq.symm u v rfl

/-! ### Texts found in lower case -/

/-- A text in lower case none of whose sigmas can be the form of a capital sigma that sees too
little.  A final sigma sees in the text something behind it, so that its word ends there, or
before it a character that is not cased, so that it never was capital; an ordinary sigma sees
something before it, or that its word goes on. -/
structure IsFirm (s : List Char) : Prop where
  final : ∀ u v, s = u ++ finalSigma :: v → sight u.reverse = some false ∨ sight v ≠ none
  plain : ∀ u v, s = u ++ plainSigma :: v → sight u.reverse ≠ none ∨ sight v = some true

/-- A text without sigmas is firm. -/
theorem isFirm_of_not_mem (hfinal : finalSigma ∉ s) (hplain : plainSigma ∉ s) : IsFirm s where
  final := by
    rintro u v rfl
    simp at hfinal
  plain := by
    rintro u v rfl
    simp at hplain

/-- A capital sigma sees enough if its form is a sigma of a firm text: `x` and `y` are seen of
that text, and what is seen beyond it counts only where nothing is. -/
theorem decides_of_firm
    (hfinal : sigmaFor (x.or p) (y.or q) = finalSigma → x = some false ∨ y ≠ none)
    (hplain : sigmaFor (x.or p) (y.or q) = plainSigma → x ≠ none ∨ y = some true) :
    Decides (x.or p) (y.or q) := by
  rw [sigmaFor_eq_finalSigma_iff] at hfinal
  rw [sigmaFor_eq_plainSigma_iff] at hplain
  rcases x with _ | _ | _ <;> rcases y with _ | _ | _ <;> simp_all [Decides]

/-- **What is found of a firm text stays where it is found,** whatever is added around. -/
theorem IsFirm.infix_amid (hk : IsFirm k) (h : k <:+: lowerFrom [] s) (a b : List Char) :
    k <:+: lowerFrom [] (a ++ (s ++ b)) := by
  obtain ⟨before, after, h⟩ := h
  rw [lowerFrom_eq] at h
  obtain ⟨l, l₃, hs, hl, rfl⟩ := List.map_eq_append_iff.1 h.symm
  obtain ⟨l₁, l₂, rfl, rfl, rfl⟩ := List.map_eq_append_iff.1 hl
  have hsame : l₂.map (Place.fill (sight a.reverse) (sight b)) = l₂.map (Place.fill none none) := by
    refine List.map_congr_left fun place hplace => ?_
    cases place with
    | char c => rfl
    | sigma x y =>
      obtain ⟨l, m, rfl⟩ := List.append_of_mem hplace
      have hsplit : stencil s = (l₁ ++ l) ++ .sigma x y :: (m ++ l₃) := by simp [hs]
      obtain ⟨u, v, -, hx, hy, hsight⟩ := sigmaAt_of_stencilFrom hsplit
      obtain ⟨hbefore, hafter⟩ := hsight none none
      rw [Option.or_none] at hx
      rw [List.map_append, List.reverse_append, sight_append, ← hx] at hbefore
      rw [List.map_append, sight_append, ← hy] at hafter
      have hdecides : Decides x y := by
        rw [← hbefore, ← hafter]
        refine decides_of_firm (fun hform => hk.final _ _ ?_) fun hform => hk.plain _ _ ?_
        all_goals
          rw [hbefore, hafter] at hform
          simp [Place.fill, hform]
      simpa only [Place.fill, Option.or_none] using hdecides.sigmaFor_or _ _
  rw [← hsame]
  refine List.IsInfix.trans ?_ (infix_lowerFrom_amid a s b)
  rw [hs, List.map_append, List.map_append]
  exact ⟨_, _, rfl⟩

/-- Lower characters are their own stencil. -/
theorem stencilFrom_of_isLower {u : List Char} (hu : ∀ c ∈ u, IsLower c) (x₀ : Option Bool)
    (s : List Char) : stencilFrom x₀ (u ++ s) =
      u.map .char ++ stencilFrom ((sight u.reverse).or x₀) s := by
  induction u generalizing x₀ with
  | nil => rfl
  | cons c u ih =>
    obtain ⟨hc, hu⟩ := List.forall_mem_cons.1 hu
    rw [List.cons_append, stencilFrom, if_neg hc.ne_capitalSigma, (hc : lowerChar c = [c]), ih hu,
      List.reverse_cons, sight_append, Option.or_assoc]
    rfl

/-- A text in lower case, one of whose characters was a capital sigma. -/
theorem map_fill_capital {u v : List Char} (hk : ∀ d ∈ u ++ c :: v, IsLower d)
    (p q : Option Bool) : (stencil (u ++ capitalSigma :: v)).map (Place.fill p q) =
      u ++ sigmaFor ((sight u.reverse).or p) ((sight v).or q) :: v := by
  have hu : ∀ d ∈ u, IsLower d := fun d hd => hk d (List.mem_append_left _ hd)
  have hv : ∀ d ∈ v, IsLower d := fun d hd =>
    hk d (List.mem_append_right _ (List.mem_cons_of_mem _ hd))
  have hlater (x₀ : Option Bool) : stencilFrom x₀ v = v.map .char := by
    have h := stencilFrom_of_isLower hv x₀ []
    rwa [List.append_nil, stencilFrom, List.append_nil] at h
  rw [stencil, stencilFrom_of_isLower hu, stencilFrom, if_pos rfl, hlater, List.map_append,
    List.map_append, map_fill_char, map_fill_char, Option.or_none]
  rfl

/-- Two texts that differ in one character of their middle are not the same. -/
theorem ne_of_middle {u v : List Char} {c d : Char} (h : c ≠ d) : u ++ c :: v ≠ u ++ d :: v :=
  fun heq => h (List.cons.inj (List.append_cancel_left heq)).1

/-- **The texts in lower case that are found whatever is added** are the firm ones.  For one
that is not, a sigma that does not see enough is taken to have been capital. -/
theorem isFirm_iff (hk : ∀ c ∈ k, IsLower c) : IsFirm k ↔
    ∀ s a b, k <:+: lowerFrom [] s → k <:+: lowerFrom [] (a ++ (s ++ b)) := by
  refine ⟨fun h s a b hfound => h.infix_amid hfound a b, fun h => ⟨?_, ?_⟩⟩
  · rintro u v rfl
    by_contra hnot
    obtain ⟨hbefore, hafter⟩ := not_or.1 hnot
    have hafter : sight v = none := of_not_not hafter
    have hcased : (sight u.reverse).or (some true) = some true := by
      rcases hx : sight u.reverse with _ | _ | _
      · rfl
      · exact absurd hx hbefore
      · rfl
    obtain ⟨e, he, hhead⟩ := exists_isLetter_ne (u ++ finalSigma :: v).head?
    obtain ⟨f, hf, hlast⟩ := exists_isLetter_ne (u ++ finalSigma :: v).getLast?
    -- The sigma ends a word until a letter is added behind it.
    have hfound : u ++ finalSigma :: v <:+: lowerFrom [] (e :: (u ++ capitalSigma :: v)) := by
      rw [lowerFrom_letter_before he, map_fill_capital hk, hcased, hafter]
      exact (List.suffix_cons ..).isInfix
    have hlater := h _ [] [f] hfound
    rw [List.nil_append, List.cons_append, lowerFrom_letters he hf, map_fill_capital hk, hcased,
      hafter, ← List.cons_append] at hlater
    have hmiddle := infix_of_infix_cons (by simp) hhead <|
      infix_of_infix_concat (by simp) hlast hlater
    exact ne_of_middle (by decide) (hmiddle.eq_of_length (by simp))
  · rintro u v rfl
    by_contra hnot
    obtain ⟨hbefore, hafter⟩ := not_or.1 hnot
    have hbefore : sight u.reverse = none := of_not_not hbefore
    obtain ⟨e, he, hhead⟩ := exists_isLetter_ne (u ++ plainSigma :: v).head?
    -- The sigma is in no word until a letter is added before it, and then it ends one.
    have hplain : sigmaFor none (sight v) = plainSigma := by simp [sigmaFor]
    have hfinal : sigmaFor (some true) (sight v) = finalSigma :=
      sigmaFor_eq_finalSigma_iff.2 ⟨rfl, hafter⟩
    have hfound : u ++ plainSigma :: v <:+: lowerFrom [] (u ++ capitalSigma :: v) := by
      rw [lowerFrom_eq, map_fill_capital hk, hbefore, Option.or_none, Option.or_none, hplain]
    have hlater := h _ [e] [] hfound
    rw [List.append_nil, List.singleton_append, lowerFrom_letter_before he,
      map_fill_capital hk, hbefore, Option.none_or, Option.or_none, hfinal] at hlater
    have hmiddle := infix_of_infix_cons (by simp) hhead hlater
    exact ne_of_middle (by decide) (hmiddle.eq_of_length (by simp))

/-- What is in lower case has no other lower-case form. -/
theorem isLower_of_mem_lowerFrom (h : c ∈ lowerFrom a s) : IsLower c := by
  induction s generalizing a with
  | nil => exact absurd h List.not_mem_nil
  | cons d r ih =>
    rw [lowerFrom, List.mem_append] at h
    rcases h with hnow | hlater
    · split at hnow
      · have hforms : IsLower finalSigma ∧ IsLower plainSigma := by
          constructor <;> exact isLower_of_not_moved (by decide) (by decide +kernel)
        rw [List.mem_singleton, lowerSigma_eq, sigmaFor] at hnow
        rw [hnow]
        split
        · exact hforms.1
        · exact hforms.2
      · exact isLower_of_mem_lowerChar hnow
    · exact ih hlater

end Text
end Errand

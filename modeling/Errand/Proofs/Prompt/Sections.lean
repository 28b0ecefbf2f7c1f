/-
# The sections of a rendered template

SPEC_FULL.md, section 11.1, on sections.

A prompt is rendered first and cut into sections afterwards.  What is read as a marker
is a spelling of one (`spells_of_marker?`), and a spelling is read as its marker whatever
follows it (`Marker.Spells.marker?`).  A spelling opens with its only `<`, so none goes on
over the marker of a part, and a rendered template is cut part by part
(`cutAtMarkers_render`): the sections of a prompt are those of its parts, and those that
the material in them opens (`sections_render_cut`).
-/

import Errand.Prompt.Roles
import Mathlib.Data.List.Basic

namespace Errand
namespace Prompt

/-! ### Words and blanks -/

/-- The blank characters that are not ASCII, as ranges. -/
def wideBlanks : List (Nat × Nat) :=
  [(0x85, 0x85), (0xA0, 0xA0), (0x1680, 0x1680), (0x2000, 0x200A), (0x2028, 0x2029),
    (0x202F, 0x202F), (0x205F, 0x205F), (0x3000, 0x3000)]

/-- No range of word characters meets a range of blanks. -/
theorem wordRanges_apart :
    ∀ r ∈ Text.wordRanges, ∀ b ∈ wideBlanks, b.2 < r.1 ∨ r.2 < b.1 := by decide +kernel

/-- **No word goes on over a blank.** -/
theorem isWordChar_of_isBlank {c : Char} (h : Text.isBlank c = true) :
    Text.isWordChar c = false := by
  have hcases : c.toNat ∈ [9, 10, 11, 12, 13, 32] ∨
      ∃ b ∈ wideBlanks, b.1 ≤ c.toNat ∧ c.toNat ≤ b.2 := by
    simp only [Text.isBlank, Bool.or_eq_true, Bool.and_eq_true, decide_eq_true_eq,
      beq_iff_eq] at h
    simp only [wideBlanks, List.mem_cons, List.not_mem_nil, or_false, exists_eq_or_imp,
      exists_eq_left]
    omega
  rcases hcases with hascii | ⟨b, hb, hlow, hhigh⟩
  · rw [← Char.ofNat_toNat c]
    generalize c.toNat = n at hascii
    revert n
    decide
  · have hranges : Text.inRanges Text.wordRanges c.toNat = false := by
      refine Bool.eq_false_iff.2 fun hin => ?_
      obtain ⟨r, hr, hr₁, hr₂⟩ := Text.inRanges_iff.1 hin
      have := wordRanges_apart r hr b hb
      omega
    have hwide : 0x80 ≤ c.toNat := by
      have : ∀ b ∈ wideBlanks, 0x80 ≤ b.1 := by decide
      exact Nat.le_trans (this b hb) hlow
    have not_le {d : Char} (hd : d.val.toNat < 0x80) : ¬c.val ≤ d.val := by
      have hval : 0x80 ≤ c.val.toNat := hwide
      rw [UInt32.le_iff_toNat_le]
      omega
    have hupper : c.isUpper = false :=
      decide_eq_false fun h => not_le (d := 'Z') (by decide) h.2
    have hlower : c.isLower = false := Bool.eq_false_iff.2 fun h =>
      not_le (d := 'z') (by decide) (of_decide_eq_true (Bool.and_eq_true_iff.1 h).2)
    have hdigit : c.isDigit = false := Bool.eq_false_iff.2 fun h =>
      not_le (d := '9') (by decide) (of_decide_eq_true (Bool.and_eq_true_iff.1 h).2)
    have halpha : c.isAlphanum = false :=
      Bool.or_eq_false_iff.2 ⟨Bool.or_eq_false_iff.2 ⟨hupper, hlower⟩, hdigit⟩
    have hline : (c == '_') = false := by
      refine beq_false_of_ne ?_
      rintro rfl
      exact absurd hwide (by decide)
    rw [Text.isWordChar, halpha, hline, hranges, Bool.and_false]
    rfl
/-! ### Markers -/

/-- A marker whose key is a word. -/
def Marker.IsWord (m : Marker) : Prop :=
  m.key.toList ≠ [] ∧ ∀ c ∈ m.key.toList, Text.isWordChar c = true

/-- The ways in which a marker may be written: blanks may stand around its parts, and
one has to stand between its key and the word that follows. -/
def Marker.Spells (m : Marker) (w : List Char) : Prop :=
  ∃ b₁ b₂ b₃ : List Char, m.IsWord ∧ b₁.all Text.isBlank = true ∧ b₂.all Text.isBlank = true ∧
    b₂ ≠ [] ∧ b₃.all Text.isBlank = true ∧
    w = "<!--".toList ++ (b₁ ++ ("section:".toList ++ (m.key.toList ++ (b₂ ++
      ((requirementWord m.isRequired).toList ++ (b₃ ++ "-->".toList))))))

/-- What a marker says after its key is read back. -/
theorem requirement?_word (isRequired : Bool) (t : List Char) :
    requirement? ((requirementWord isRequired).toList ++ t) = some (isRequired, t) := by
  have hstrip := Text.stripPrefix?_eq_some_iff.2
    (rfl : (requirementWord isRequired).toList ++ t = _ ++ t)
  unfold requirement?
  cases isRequired with
  | true => rw [hstrip]
  | false =>
    have hother : Text.stripPrefix? (requirementWord true).toList
        ((requirementWord false).toList ++ t) = none := rfl
    rw [hother, hstrip]
    rfl

/-- What is read as a requirement is its word. -/
theorem eq_of_requirement? {s t : List Char} {isRequired : Bool}
    (h : requirement? s = some (isRequired, t)) :
    s = (requirementWord isRequired).toList ++ t := by
  unfold requirement? at h
  split at h
  · next u hu =>
    cases h
    exact Text.stripPrefix?_eq_some_iff.1 hu
  · obtain ⟨u, hu, hpair⟩ := Option.map_eq_some_iff.1 h
    cases hpair
    exact Text.stripPrefix?_eq_some_iff.1 hu

/-- A marker is read when each of its parts is. -/
theorem marker?_eq_some {s r r₁ r₂ r₃ t key : List Char} {isRequired : Bool}
    (hopen : Text.stripPrefix? "<!--".toList s = some r)
    (hsection : Text.stripPrefix? "section:".toList (Text.trimStartChars r) = some r₁)
    (hkey : r₁.takeWhile Text.isWordChar = key) (hne : key ≠ [])
    (hblanks : afterBlanks? (r₁.dropWhile Text.isWordChar) = some r₂)
    (hrequirement : requirement? r₂ = some (isRequired, r₃))
    (hclose : Text.stripPrefix? "-->".toList (Text.trimStartChars r₃) = some t) :
    marker? s = some (⟨.ofList key, isRequired⟩, t) := by
  unfold marker?
  rw [hopen, Option.bind_eq_bind, Option.bind_some, hsection, Option.bind_eq_bind,
    Option.bind_some, hkey, hblanks]
  dsimp only [Option.bind_eq_bind, Option.bind_some]
  rw [if_neg (by simpa using hne), hrequirement]
  dsimp only [Option.bind_some]
  rw [hclose]
  rfl

/-- Blanks ahead of what is not blank are passed over. -/
theorem trimStartChars_blanks {b : List Char} {c : Char} (hb : b.all Text.isBlank = true)
    (hc : Text.isBlank c = false) (u : List Char) :
    Text.trimStartChars (b ++ c :: u) = c :: u := by
  rw [Text.trimStartChars_blank_append hb, Text.trimStartChars,
    List.dropWhile_cons_of_neg (by simp [hc])]

/-- Only blanks are passed over. -/
theorem eq_of_trimStartChars {s t : List Char} (h : Text.trimStartChars s = t) :
    ∃ b : List Char, b.all Text.isBlank = true ∧ s = b ++ t :=
  ⟨s.takeWhile Text.isBlank, List.all_takeWhile, by
    rw [← h]
    exact List.takeWhile_append_dropWhile.symm⟩

/-- Blanks are passed over if there is at least one, -/
theorem afterBlanks?_eq_some {c : Char} {b : List Char} (hb : (c :: b).all Text.isBlank = true)
    {d : Char} (hd : Text.isBlank d = false) (u : List Char) :
    afterBlanks? (c :: b ++ d :: u) = some (d :: u) := by
  obtain ⟨hc, hb⟩ := Bool.and_eq_true_iff.1 (List.all_cons.symm.trans hb)
  rw [List.cons_append, afterBlanks?, if_pos hc, trimStartChars_blanks hb hd]

/-- and what is passed over are blanks. -/
theorem eq_of_afterBlanks? {s t : List Char} (h : afterBlanks? s = some t) :
    ∃ b : List Char, b.all Text.isBlank = true ∧ b ≠ [] ∧ s = b ++ t := by
  cases s with
  | nil => cases h
  | cons c r =>
    rw [afterBlanks?] at h
    split at h
    · next hc =>
      obtain ⟨b, hb, rfl⟩ := eq_of_trimStartChars (Option.some.inj h)
      exact ⟨c :: b, by simp [hc, hb], List.cons_ne_nil _ _, rfl⟩
    · cases h

/-- **A marker that was written is read back,** whatever follows it. -/
theorem Marker.Spells.marker? {m : Marker} {w : List Char} (h : m.Spells w) (t : List Char) :
    marker? (w ++ t) = some (m, t) := by
  obtain ⟨b₁, b₂, b₃, ⟨hne, hword⟩, h₁, h₂, hne₂, h₃, rfl⟩ := h
  obtain ⟨c, b, rfl⟩ := List.exists_cons_of_ne_nil hne₂
  have hstrip (p u : List Char) : Text.stripPrefix? p (p ++ u) = some u :=
    Text.stripPrefix?_eq_some_iff.2 rfl
  have hblank : ¬Text.isWordChar c = true := by
    rw [isWordChar_of_isBlank (List.all_eq_true.1 h₂ c List.mem_cons_self)]
    decide
  simp only [List.append_assoc]
  generalize hlast : (requirementWord m.isRequired).toList ++ (b₃ ++ ("-->".toList ++ t)) = last
  have hsection : Text.stripPrefix? "section:".toList (Text.trimStartChars
      (b₁ ++ ("section:".toList ++ (m.key.toList ++ (c :: b ++ last))))) =
        some (m.key.toList ++ (c :: b ++ last)) :=
    (congrArg _ (trimStartChars_blanks h₁ (c := 's') rfl _)).trans (hstrip _ _)
  have htake : (m.key.toList ++ (c :: b ++ last)).takeWhile Text.isWordChar = m.key.toList := by
    rw [List.takeWhile_append_of_pos hword, List.cons_append, List.takeWhile_cons_of_neg hblank,
      List.append_nil]
  have hblanks : afterBlanks? ((m.key.toList ++ (c :: b ++ last)).dropWhile Text.isWordChar) =
      some last := by
    rw [List.dropWhile_append_of_pos hword, List.cons_append, List.dropWhile_cons_of_neg hblank,
      ← hlast]
    cases m.isRequired
    · exact afterBlanks?_eq_some h₂ (d := 'd') rfl _
    · exact afterBlanks?_eq_some h₂ (d := 'r') rfl _
  have hclose : Text.stripPrefix? "-->".toList
      (Text.trimStartChars (b₃ ++ ("-->".toList ++ t))) = some t :=
    (congrArg _ (trimStartChars_blanks h₃ (c := '-') rfl _)).trans (hstrip _ _)
  rw [marker?_eq_some (hstrip _ _) hsection htake hne hblanks
    (hlast ▸ requirement?_word _ _) hclose, String.ofList_toList]

/-- **What is read as a marker is a spelling of it.** -/
theorem spells_of_marker? {s t : List Char} {m : Marker} (h : marker? s = some (m, t)) :
    ∃ w, m.Spells w ∧ s = w ++ t := by
  unfold marker? at h
  obtain ⟨r, hopen, h⟩ := Option.bind_eq_some_iff.1 h
  obtain ⟨r₁, hsection, h⟩ := Option.bind_eq_some_iff.1 h
  dsimp only at h
  split at h
  · cases h
  · next hkey =>
    obtain ⟨r₂, hblanks, h⟩ := Option.bind_eq_some_iff.1 h
    obtain ⟨⟨isRequired, r₃⟩, hrequirement, h⟩ := Option.bind_eq_some_iff.1 h
    obtain ⟨r₄, hclose, h⟩ := Option.bind_eq_some_iff.1 h
    cases h
    obtain ⟨b₁, h₁, rfl⟩ := eq_of_trimStartChars (Text.stripPrefix?_eq_some_iff.1 hsection)
    obtain ⟨b₂, h₂, hne₂, hr₂⟩ := eq_of_afterBlanks? hblanks
    obtain ⟨b₃, h₃, rfl⟩ := eq_of_trimStartChars (Text.stripPrefix?_eq_some_iff.1 hclose)
    have hchars : (String.ofList (r₁.takeWhile Text.isWordChar)).toList =
        r₁.takeWhile Text.isWordChar := String.toList_ofList
    refine ⟨_, ⟨b₁, b₂, b₃, ⟨?_, ?_⟩, h₁, h₂, hne₂, h₃, rfl⟩, ?_⟩
    · rw [hchars]
      simpa using hkey
    · rw [hchars]
      exact fun c hc => List.all_eq_true.1 List.all_takeWhile c hc
    · rw [Text.stripPrefix?_eq_some_iff.1 hopen, hchars]
      simp only [List.append_assoc]
      rw [← eq_of_requirement? hrequirement, ← hr₂, List.takeWhile_append_dropWhile]

/-- The text of a marker spells it. -/
theorem Marker.spells_text {m : Marker} (hm : m.IsWord) : m.Spells m.text.toList := by
  refine ⟨[' '], [' '], [' '], hm, rfl, rfl, List.cons_ne_nil _ _, rfl, ?_⟩
  show ("<!-- section:" ++ m.key ++ " " ++ requirementWord m.isRequired ++ " -->").toList = _
  simp

/-- No solid character is among blanks, -/
theorem not_mem_of_blank {c : Char} (hc : Text.isBlank c = false) {b : List Char}
    (hb : b.all Text.isBlank = true) : c ∉ b := by
  intro hmem
  rw [List.all_eq_true.1 hb c hmem] at hc
  cases hc

/-- none but word characters in a key, -/
theorem Marker.IsWord.not_mem {m : Marker} (hm : m.IsWord) {c : Char}
    (hc : Text.isWordChar c = false) : c ∉ m.key.toList := by
  intro hmem
  rw [hm.2 c hmem] at hc
  cases hc

/-- and none but its letters in the word of a requirement. -/
theorem not_mem_requirementWord {c : Char} {isRequired : Bool}
    (hc : c ∉ "required".toList ++ "droppable".toList) :
    c ∉ (requirementWord isRequired).toList := by
  cases isRequired
  · exact fun h => hc (List.mem_append_right _ h)
  · exact fun h => hc (List.mem_append_left _ h)

/-- A marker opens with a `<` and has no other. -/
theorem Marker.Spells.opens {m : Marker} {w : List Char} (h : m.Spells w) :
    ∃ u, w = '<' :: u ∧ '<' ∉ u := by
  obtain ⟨b₁, b₂, b₃, hword, h₁, h₂, -, h₃, rfl⟩ := h
  refine ⟨"!--".toList ++ (b₁ ++ ("section:".toList ++ (m.key.toList ++ (b₂ ++
    ((requirementWord m.isRequired).toList ++ (b₃ ++ "-->".toList)))))), rfl, ?_⟩
  have hkey := hword.not_mem (c := '<') rfl
  have hrequirement : '<' ∉ (requirementWord m.isRequired).toList :=
    not_mem_requirementWord (by decide)
  simp [hkey, hrequirement, not_mem_of_blank (c := '<') rfl h₁,
    not_mem_of_blank (c := '<') rfl h₂, not_mem_of_blank (c := '<') rfl h₃]

/-- A marker ends at its first `>`. -/
theorem Marker.Spells.closes {m : Marker} {w : List Char} (h : m.Spells w) :
    ∃ u, w = u ++ ['>'] := by
  obtain ⟨b₁, b₂, b₃, -, -, -, -, -, rfl⟩ := h
  refine ⟨"<!--".toList ++ (b₁ ++ ("section:".toList ++ (m.key.toList ++ (b₂ ++
    ((requirementWord m.isRequired).toList ++ (b₃ ++ "--".toList)))))), ?_⟩
  simp

/-- The colon of a marker stands right before its key: no blank follows it. -/
theorem Marker.Spells.not_colon_space {m : Marker} {w : List Char} (h : m.Spells w)
    (a b : List Char) : w ≠ a ++ ':' :: ' ' :: b := by
  obtain ⟨b₁, b₂, b₃, hword, h₁, h₂, -, h₃, rfl⟩ := h
  obtain ⟨c, key, hkey⟩ := List.exists_cons_of_ne_nil hword.1
  intro heq
  have hbefore : ':' ∉ "<!--".toList ++ (b₁ ++ "section".toList) := by
    simp [not_mem_of_blank (c := ':') rfl h₁]
  have hbehind : ':' ∉ m.key.toList ++ (b₂ ++ ((requirementWord m.isRequired).toList ++
      (b₃ ++ "-->".toList))) := by
    have hrequirement : ':' ∉ (requirementWord m.isRequired).toList :=
      not_mem_requirementWord (by decide)
    simp [hword.not_mem (c := ':') rfl, hrequirement, not_mem_of_blank (c := ':') rfl h₂,
      not_mem_of_blank (c := ':') rfl h₃]
  have hsplit : "<!--".toList ++ (b₁ ++ ("section:".toList ++ (m.key.toList ++ (b₂ ++
      ((requirementWord m.isRequired).toList ++ (b₃ ++ "-->".toList)))))) =
      ("<!--".toList ++ (b₁ ++ "section".toList)) ++ ':' :: (m.key.toList ++ (b₂ ++
        ((requirementWord m.isRequired).toList ++ (b₃ ++ "-->".toList)))) := by simp
  rw [hsplit, List.append_cons_inj_of_notMem hbefore hbehind] at heq
  obtain ⟨-, -, heq⟩ := heq
  rw [hkey, List.cons_append] at heq
  obtain ⟨rfl, -⟩ := List.cons.inj heq
  exact hword.not_mem (c := ' ') rfl (hkey ▸ List.mem_cons_self)

/-- A marker starts with an angle bracket. -/
theorem marker?_of_ne {c : Char} (h : c ≠ '<') (r : List Char) : marker? (c :: r) = none := by
  refine Option.eq_none_iff_forall_ne_some.2 fun ⟨m, t⟩ hread => h ?_
  obtain ⟨w, hw, heq⟩ := spells_of_marker? hread
  obtain ⟨u, rfl, -⟩ := hw.opens
  exact (List.cons.inj heq).1

/-! ### Cutting at markers -/

/-- As many characters are passed over as there are to skip. -/
theorem cutAtMarkers_skip (s t : List Char) :
    cutAtMarkers s.length (s ++ t) = cutAtMarkers 0 t := by
  induction s with
  | nil => rfl
  | cons c s ih => rw [List.length_cons, List.cons_append, cutAtMarkers, ih]

/-- **A marker opens a section** that goes on up to the next one. -/
theorem cutAtMarkers_marker {m : Marker} {w : List Char} (hm : m.Spells w) (t : List Char) :
    cutAtMarkers 0 (w ++ t) = ([], (m, (cutAtMarkers 0 t).1) :: (cutAtMarkers 0 t).2) := by
  have hread := hm.marker? t
  obtain ⟨u, rfl, -⟩ := hm.opens
  have hskip : (u ++ t).length - t.length = u.length := by simp
  rw [List.cons_append] at hread ⊢
  rw [cutAtMarkers, hread]
  dsimp only
  rw [hskip, cutAtMarkers_skip]

/-- A character that opens no marker goes to the section it stands in. -/
theorem cutAtMarkers_cons {c : Char} {r : List Char} (h : marker? (c :: r) = none) :
    cutAtMarkers 0 (c :: r) = (c :: (cutAtMarkers 0 r).1, (cutAtMarkers 0 r).2) := by
  rw [cutAtMarkers, h]

/-- A text is read marker by marker, and one by one where no marker stands. -/
theorem reading_induction {P : List Char → Prop} (nil : P [])
    (marked : ∀ (m : Marker) (w t : List Char), m.Spells w → P t → P (w ++ t))
    (plain : ∀ (c : Char) (r : List Char), marker? (c :: r) = none → P r → P (c :: r))
    (s : List Char) : P s := by
  induction hlength : s.length using Nat.strongRecOn generalizing s with
  | ind n ih =>
    cases s with
    | nil => exact nil
    | cons c r =>
      cases hread : marker? (c :: r) with
      | none => exact plain c r hread (ih r.length (by simp [← hlength]) r rfl)
      | some found =>
        obtain ⟨m, t⟩ := found
        obtain ⟨w, hw, heq⟩ := spells_of_marker? hread
        have hshort : t.length < n := by
          obtain ⟨u, rfl, -⟩ := hw.opens
          rw [← hlength, heq, List.length_append, List.length_cons]
          omega
        rw [heq]
        exact marked m w t hw (ih t.length hshort t rfl)

/-- A text in which no marker stands anywhere. -/
def Unmarked (s : List Char) : Prop := ∀ t, t <:+ s → marker? t = none

theorem unmarked_nil : Unmarked [] := by
  intro t ht
  rw [List.suffix_nil.1 ht]
  rfl

/-- A text is unmarked if no marker starts at its head or behind it. -/
theorem unmarked_cons {c : Char} {r : List Char} :
    Unmarked (c :: r) ↔ marker? (c :: r) = none ∧ Unmarked r := by
  simp [Unmarked, List.suffix_cons_iff]

/-- Without an angle bracket there is no marker. -/
theorem unmarked_of_not_mem {s : List Char} (h : '<' ∉ s) : Unmarked s := by
  induction s with
  | nil => exact unmarked_nil
  | cons c s ih =>
    obtain ⟨hc, hs⟩ := not_or.1 (mt List.mem_cons.2 h)
    exact unmarked_cons.2 ⟨marker?_of_ne (Ne.symm hc) s, ih hs⟩

/-- A text without markers is not cut. -/
theorem cutAtMarkers_of_unmarked {s : List Char} (h : Unmarked s) :
    cutAtMarkers 0 s = (s, []) := by
  induction s with
  | nil => rfl
  | cons c s ih =>
    obtain ⟨hread, hs⟩ := unmarked_cons.1 h
    rw [cutAtMarkers_cons hread, ih hs]

/-- **A text opens no section exactly when it is unmarked.** -/
theorem unmarked_iff {s : List Char} : Unmarked s ↔ (cutAtMarkers 0 s).2 = [] := by
  refine ⟨fun h => by rw [cutAtMarkers_of_unmarked h], fun h => ?_⟩
  induction s using reading_induction with
  | nil => exact unmarked_nil
  | marked m w t hw =>
    rw [cutAtMarkers_marker hw] at h
    cases h
  | plain c r hread ih =>
    rw [cutAtMarkers_cons hread] at h
    exact unmarked_cons.2 ⟨hread, ih h⟩

/-- A marker that is read where none stood before reaches over into what was added. -/
theorem marker?_append {s t u : List Char} {m : Marker} (hs : marker? s = none)
    (h : marker? (s ++ t) = some (m, u)) : ∃ v, v ≠ [] ∧ m.Spells (s ++ v) ∧ t = v ++ u := by
  obtain ⟨w, hw, heq⟩ := spells_of_marker? h
  rcases List.append_eq_append_iff.1 heq with ⟨v, rfl, rfl⟩ | ⟨v, rfl, -⟩
  · refine ⟨v, ?_, hw, rfl⟩
    rintro rfl
    rw [List.append_nil] at hw
    rw [← List.append_nil s, hw.marker?] at hs
    cases hs
  · rw [hw.marker?] at hs
    cases hs

/-- What begins with a marker, or is empty, begins with a `<`, or is empty. -/
theorem exists_cons_of_cutAtMarkers {t : List Char} (ht : (cutAtMarkers 0 t).1 = [])
    (hne : t ≠ []) :
    ∃ u, t = '<' :: u := by
  cases t using reading_induction with
  | nil => exact absurd rfl hne
  | marked m w t hw =>
    obtain ⟨u, rfl, -⟩ := hw.opens
    exact ⟨u ++ t, rfl⟩
  | plain c r hread =>
    rw [cutAtMarkers_cons hread] at ht
    cases ht

/-- **Sections are opened on either side of a marker independently.** -/
theorem cutAtMarkers_append (s : List Char) {t : List Char} (ht : (cutAtMarkers 0 t).1 = []) :
    cutAtMarkers 0 (s ++ t) =
      ((cutAtMarkers 0 s).1, (cutAtMarkers 0 s).2 ++ (cutAtMarkers 0 t).2) := by
  induction s using reading_induction with
  | nil => exact Prod.ext ht rfl
  | marked m w s hw ih =>
    rw [List.append_assoc, cutAtMarkers_marker hw, ih, cutAtMarkers_marker hw, List.cons_append]
  | plain c r hread ih =>
    have happend : marker? (c :: r ++ t) = none := by
      refine Option.eq_none_iff_forall_ne_some.2 fun ⟨m, u⟩ hfound => ?_
      obtain ⟨v, hv, hspells, rfl⟩ := marker?_append hread hfound
      obtain ⟨x, hx⟩ := exists_cons_of_cutAtMarkers ht (by simp [hv])
      -- The marker would go on behind the one that `t` begins with.
      obtain ⟨y, hy, hopen⟩ := hspells.opens
      obtain ⟨d, v, rfl⟩ := List.exists_cons_of_ne_nil hv
      obtain ⟨rfl, -⟩ := List.cons.inj hx
      rw [List.cons_append] at hy
      obtain ⟨-, rfl⟩ := List.cons.inj hy
      exact hopen (by simp)
    rw [List.cons_append] at happend ⊢
    rw [cutAtMarkers_cons happend, ih, cutAtMarkers_cons hread]

/-! ### Rendered templates -/

/-- The section that a part makes by itself. -/
def Part.section? (i : Invocation) (p : Part) : Option Section :=
  sectionOf? p.marker ('\n' :: (p.content i).toList)

/-- A required part makes a section, whatever its content. -/
theorem Part.section?_of_required (i : Invocation) {p : Part} (h : p.marker.isRequired = true) :
    p.section? i =
      some ⟨p.marker.key, true, .ofList (Text.trimChars ('\n' :: (p.content i).toList))⟩ := by
  unfold Part.section? sectionOf?
  simp [h]

/-- What a part of a template is cut into: its own section, and those that its content
opens. -/
def Part.cut (i : Invocation) (p : Part) : List (Marker × List Char) :=
  (p.marker, '\n' :: (cutAtMarkers 0 (p.content i).toList).1) ::
    (cutAtMarkers 0 (p.content i).toList).2

/-- A part without markers in its material is cut into itself. -/
theorem Part.cut_of_unmarked {i : Invocation} {p : Part} (h : Unmarked (p.content i).toList) :
    p.cut i = [(p.marker, '\n' :: (p.content i).toList)] := by
  rw [Part.cut, cutAtMarkers_of_unmarked h]

/-- **A rendered template is cut part by part.** -/
theorem cutAtMarkers_render (i : Invocation) {ps : List Part}
    (hword : ∀ p ∈ ps, p.marker.IsWord) :
    cutAtMarkers 0 (ps.flatMap fun p => (p.render i).toList) = ([], ps.flatMap (Part.cut i)) := by
  induction ps with
  | nil => rfl
  | cons p ps ih =>
    have hrender : (p.render i).toList = p.marker.text.toList ++ '\n' :: (p.content i).toList := by
      simp [Part.render]
    have hrest := ih fun q hq => hword q (List.mem_cons_of_mem _ hq)
    have hnewline : marker? ('\n' :: (p.content i).toList) = none := marker?_of_ne (by decide) _
    rw [List.flatMap_cons, hrender, List.append_assoc,
      cutAtMarkers_marker (Marker.spells_text (hword p List.mem_cons_self)),
      cutAtMarkers_append _ (by rw [hrest]), hrest, cutAtMarkers_cons hnewline]
    rfl

/-- **The sections of a prompt** are those of the parts that are given, each followed by
those that its material opens. -/
theorem sections_render_cut (i : Invocation) {t : Template} (hword : ∀ p ∈ t, p.marker.IsWord) :
    sections (t.render i) =
      ((t.filter (Part.isGiven i)).flatMap (Part.cut i)).filterMap
        fun (m, body) => sectionOf? m body := by
  rw [sections, Template.render, String.toList_join, List.flatMap_map,
    cutAtMarkers_render i fun p hp => hword p (List.mem_filter.1 hp).1]

/-- **A template whose material opens no section has the sections of its parts.** -/
theorem sections_render (i : Invocation) {t : Template} (hword : ∀ p ∈ t, p.marker.IsWord)
    (hplain : ∀ p ∈ t, p.isGiven i = true → Unmarked (p.content i).toList) :
    sections (t.render i) = (t.filter (Part.isGiven i)).filterMap (Part.section? i) := by
  have hcut : (t.filter (Part.isGiven i)).flatMap (Part.cut i) =
      (t.filter (Part.isGiven i)).map fun p => (p.marker, '\n' :: (p.content i).toList) := by
    rw [List.map_eq_flatMap]
    refine List.flatMap_congr fun p hp => ?_
    obtain ⟨hmem, hgiven⟩ := List.mem_filter.1 hp
    exact Part.cut_of_unmarked (hplain p hmem hgiven)
  rw [sections_render_cut i hword, hcut, List.filterMap_map]
  rfl

/-- The keys that the templates name. -/
def templateKeys : List String :=
  ["contract", "goal", "tools", "iteration", "history", "parameters", "thought", "outcome", "step",
    "schema", "bindings", "instruction"]

/-- The keys of the templates are words. -/
theorem isWord_of_mem_templateKeys {m : Marker} (h : m.key ∈ templateKeys) : m.IsWord := by
  obtain ⟨key, isRequired⟩ := m
  simp only [templateKeys, List.mem_cons, List.not_mem_nil, or_false] at h
  rcases h with rfl | rfl | rfl | rfl | rfl | rfl | rfl | rfl | rfl | rfl | rfl | rfl <;>
    simp [Marker.IsWord, Text.isWordChar]

theorem marker_mem_templateKeys (role : Role) :
    ∀ p ∈ template role, p.marker.key ∈ templateKeys := by
  have hkeys : (template role).map (·.marker.key) ⊆ templateKeys := by
    -- The texts of the parts are not looked at: deciding on whole templates goes too deep.
    cases role <;>
      simp only [template, plannerTemplate, actionPlannerTemplate, reasonerTemplate,
        completionCheckerTemplate, summarizerTemplate, parameterGeneratorTemplate,
        textTransformerTemplate, contractPart, goalPart, toolsPart, historyPart, parametersPart,
        Part.fixed, Part.given, Part.droppable, List.map_cons, List.map_nil] <;>
      decide
  intro p hp
  exact hkeys (List.mem_map_of_mem hp)

/-- The markers of all templates have words for keys. -/
theorem template_isWord (role : Role) : ∀ p ∈ template role, p.marker.IsWord :=
  fun p hp => isWord_of_mem_templateKeys (marker_mem_templateKeys role p hp)

/-! ### The part of the goal -/

/-- The part with the goal holds it trimmed. -/
theorem goalPart_content (i : Invocation) : (goalPart.content i).toList =
    "### Goal\n\n".toList ++ Text.trimChars i.goal.toList ++ "\n\n".toList := by
  simp [Part.content, goalPart, Part.fixed, Piece.render, Slot.fill]

/-- The section of a goal has the heading and then the goal without the blanks around it. -/
theorem trimChars_goalPart (i : Invocation) (h : Text.trimChars i.goal.toList ≠ []) :
    Text.trimChars ('\n' :: (goalPart.content i).toList) =
      "### Goal\n\n".toList ++ Text.trimChars i.goal.toList := by
  have hsolid : Text.trimChars ("### Goal\n\n".toList ++ Text.trimChars i.goal.toList) =
      "### Goal\n\n".toList ++ Text.trimChars i.goal.toList := by
    refine Text.trimChars_of_solid (fun c hc => ?_) fun c hc => ?_
    · cases hc
      rfl
    · rw [List.getLast?_append_of_ne_nil _ h] at hc
      exact Text.isBlank_getLast_trimChars hc
  rw [goalPart_content, ← List.singleton_append, ← List.append_assoc,
    Text.trimChars_blanks_around rfl rfl, hsolid]

end Prompt
end Errand

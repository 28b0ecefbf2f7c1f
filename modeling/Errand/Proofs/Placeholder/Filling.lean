/-
# Filling the placeholders of a JSON text

In a text that spells a tree, braces stand outside of literals only where objects open and
close, and no object opens with a name.  So every placeholder stands inside of a literal,
and filling the placeholders changes the literals and nothing else (`SpellsText.fill`).

The inside of a literal falls into pieces: the characters that it decodes to, and
placeholders (`Pieces`).  No placeholder holds an escape, and every escape lies between
placeholders.  What is put in is escaped, so the literal stays one, and it decodes to the
pieces with every placeholder that resolves replaced by its own text (`Pieces.fill`).
-/

import Errand.Proofs.Json.Literal
import Errand.Proofs.Json.Syntax
import Errand.Proofs.Placeholder.Slots

namespace Errand

open Json (Blanks Entry Literal Row Spells SpellsText isSpace)

namespace Placeholder

variable (rules : SubstitutionRules) (b : Bindings) (escape : Bool)

/-- The characters with every placeholder that resolves replaced by its text. -/
def fillChars (s : List Char) : List Char :=
  (slices s).flatMap (fillSegment rules b escape)

/-- A template is filled slice by slice. -/
theorem substitute_eq (template : String) : substitute rules b template =
    .ofList (fillChars rules b (looksLikeObject template) template.toList) := rfl

/-- Wherever the characters `u` stand before others, filling makes them `u'`. -/
def Fills (u u' : List Char) : Prop :=
  ∀ r, fillChars rules b escape (u ++ r) = u' ++ fillChars rules b escape r

variable {rules b escape} {u u' v v' s r : List Char}

/-- A character that starts no placeholder stays. -/
theorem fillChars_plain {c : Char} (h : c = '{' → reference? s = none) :
    fillChars rules b escape (c :: s) = c :: fillChars rules b escape s := by
  rw [fillChars, slices_plain h]
  rfl

/-- Filling may be done on both sides of a quote on its own. -/
theorem fillChars_quote :
    fillChars rules b escape (s ++ '"' :: r) =
      fillChars rules b escape s ++ '"' :: fillChars rules b escape r := by
  have hquote : ∀ c ∈ ('"' :: r).head?, isSlotChar c = false := by
    rintro _ ⟨⟩
    rfl
  rw [← fillChars_plain (c := '"') (absurd · (by decide)), fillChars, slices_append hquote,
    List.flatMap_append]
  rfl

namespace Fills

/-- Nothing is filled to nothing, -/
theorem nil : Fills rules b escape [] [] := fun _ => rfl

/-- and whatever fills a text is what it is filled to. -/
theorem eq (h : Fills rules b escape u u') : fillChars rules b escape u = u' := by
  simpa [fillChars, slices_nil] using h []

/-- Texts are filled one after the other. -/
theorem append (hu : Fills rules b escape u u') (hv : Fills rules b escape v v') :
    Fills rules b escape (u ++ v) (u' ++ v') := by
  intro r
  rw [List.append_assoc, hu, hv, List.append_assoc]

/-- A character that is no brace stays in front. -/
theorem cons {c : Char} (hc : c ≠ '{') (hu : Fills rules b escape u u') :
    Fills rules b escape (c :: u) (c :: u') := by
  intro r
  rw [List.cons_append, fillChars_plain (absurd · hc), hu, List.cons_append]

/-- Where there is no brace there is nothing to fill. -/
theorem of_no_brace (h : ∀ c ∈ u, c ≠ '{') : Fills rules b escape u u := by
  induction u with
  | nil => exact nil
  | cons c u ih =>
    obtain ⟨hc, hu⟩ := List.forall_mem_cons.1 h
    exact cons hc (ih hu)

/-- Blanks stay as they are. -/
theorem blanks {pad : List Char} (h : Blanks pad) : Fills rules b escape pad pad := by
  refine of_no_brace fun c hc => ?_
  rintro rfl
  cases List.all_eq_true.1 h _ hc

/-- A brace that no name follows opens no placeholder. -/
theorem brace (hu : Fills rules b escape u u') (hname : ∃ c ∈ u.head?, isNameStart c = false) :
    Fills rules b escape ('{' :: u) ('{' :: u') := by
  obtain ⟨c, hc, hstart⟩ := hname
  cases u with
  | nil => cases hc
  | cons d u =>
    cases hc
    intro r
    have hnone : reference? (c :: u ++ r) = none := by
      simp [reference?, name?, hstart]
    rw [List.cons_append, fillChars_plain fun _ => hnone, hu, List.cons_append]

/-- What stands between quotes is filled on its own. -/
theorem quoted (u : List Char) :
    Fills rules b escape ('"' :: (u ++ ['"'])) ('"' :: (fillChars rules b escape u ++ ['"'])) := by
  intro r
  rw [List.cons_append, fillChars_plain (absurd · (by decide)), List.append_assoc,
    List.singleton_append, fillChars_quote]
  simp

end Fills

/-! ### Filling what spells a tree -/

section Grammar

variable {α β : Type} {lit lit' : List Char → α → Prop} {part part' : List Char → β → Prop}

/-- A row is filled part by part, -/
theorem row_fill (hpart : ∀ w x, part w x → ∃ w', Fills rules b escape w w' ∧ part' w' x)
    {first : Bool} {xs : List β} (h : Row part first u xs) :
    ∃ u', Fills rules b escape u u' ∧ Row part' first u' xs := by
  induction h with
  | close hpad => exact ⟨_, .blanks hpad, .close hpad⟩
  | head hpad hx _ ih =>
    obtain ⟨w', hw', hx'⟩ := hpart _ _ hx
    obtain ⟨rest', hrest', hrow⟩ := ih
    exact ⟨_, (Fills.blanks hpad).append (hw'.append hrest'), .head hpad hx' hrow⟩
  | next hpad hpad' hx _ ih =>
    obtain ⟨w', hw', hx'⟩ := hpart _ _ hx
    obtain ⟨rest', hrest', hrow⟩ := ih
    exact ⟨_, (Fills.blanks hpad).append
      (.cons (by decide) ((Fills.blanks hpad').append (hw'.append hrest'))),
      .next hpad hpad' hx' hrow⟩

/-- and a member in its key and its value. -/
theorem entry_fill (hlit : ∀ w a, lit w a → lit' (fillChars rules b escape w) a)
    (hpart : ∀ w x, part w x → ∃ w', Fills rules b escape w w' ∧ part' w' x) {m : α × β}
    (h : Entry lit part u m) :
    ∃ u', Fills rules b escape u u' ∧ Entry lit' part' u' m := by
  obtain @⟨k, pad, pad', w, a, x, hk, hpad, hpad', hx⟩ := h
  obtain ⟨w', hw', hx'⟩ := hpart w x hx
  refine ⟨_, ?_, .mk (hlit k a hk) hpad hpad' hx'⟩
  have hvalue : Fills rules b escape (':' :: (pad' ++ w)) (':' :: (pad' ++ w')) :=
    .cons (by decide) ((Fills.blanks hpad').append hw')
  simpa using (Fills.quoted k).append ((Fills.blanks hpad).append hvalue)

/-- An object opens with a blank, a quote or its closing brace. -/
theorem row_opens {xs : List (α × β)} (h : Row (Entry lit part) true u xs) :
    ∃ c ∈ (u ++ ['\x7d']).head?, isNameStart c = false := by
  have blank {pad w : List Char} {c : Char} (hpad : Blanks pad) (hc : isNameStart c = false) :
      ∃ d ∈ (pad ++ c :: w).head?, isNameStart d = false := by
    cases pad with
    | nil => exact ⟨c, rfl, hc⟩
    | cons d pad =>
      refine ⟨d, rfl, ?_⟩
      have hd : isSpace d = true := List.all_eq_true.1 hpad d List.mem_cons_self
      simp only [isSpace, Bool.or_eq_true, decide_eq_true_eq] at hd
      rcases hd with ((rfl | rfl) | rfl) | rfl <;> rfl
  cases h with
  | close hpad => exact blank hpad rfl
  | head hpad hx _ =>
    obtain ⟨_, _, _, _⟩ := hx
    rw [List.append_assoc, List.append_assoc]
    exact blank hpad rfl

/-- **Filling the placeholders of a text that spells a tree changes its literals alone.** -/
theorem spells_fill (hlit : ∀ w a, lit w a → lit' (fillChars rules b escape w) a) {depth : Nat}
    {t : Json.Tree α} (h : Spells lit depth u t) :
    ∃ u', Fills rules b escape u u' ∧ Spells lit' depth u' t := by
  induction h with
  | null => exact ⟨_, .of_no_brace (by simp), .null⟩
  | yes => exact ⟨_, .of_no_brace (by simp), .yes⟩
  | no => exact ⟨_, .of_no_brace (by simp), .no⟩
  | @number _ negative u n h =>
    obtain ⟨w, rfl, hw, hchars⟩ := Json.readNumber_taken h
    rw [List.append_nil] at h ⊢
    refine ⟨_, .of_no_brace fun c hc => ?_, .number h⟩
    rintro rfl
    rcases List.mem_append.1 hc with hc | hc
    · cases negative <;> simp [Json.sign] at hc
    · rcases hchars _ hc with hd | hmem
      · cases hd
      · simp at hmem
  | string ha => exact ⟨_, .quoted _, .string (hlit _ _ ha)⟩
  | array _ hrow ih =>
    obtain ⟨u', hu', hrow'⟩ := row_fill ih hrow
    exact ⟨_, .cons (by decide) (hu'.append (.of_no_brace (by simp))),
      .array (fun _ _ h => h) hrow'⟩
  | object _ hrow ih =>
    obtain ⟨u', hu', hrow'⟩ := row_fill (fun _ _ h => entry_fill hlit ih h) hrow
    exact ⟨_, .brace (hu'.append (.of_no_brace (by simp))) (row_opens hrow),
      .object (fun _ _ h => h) hrow'⟩

/-- **What spells a tree spells it when it is filled,** if its literals spell their parts when
they are. -/
theorem spellsText_fill (hlit : ∀ w a, lit w a → lit' (fillChars rules b escape w) a)
    {t : Json.Tree α} (h : SpellsText lit s t) :
    SpellsText lit' (fillChars rules b escape s) t := by
  obtain ⟨hpad, htrail, ht⟩ := h
  obtain ⟨u', hu', ht'⟩ := spells_fill hlit ht
  have hfills := (Fills.blanks hpad).append (hu'.append (.blanks htrail))
  rw [hfills.eq]
  exact .mk hpad htrail ht'

end Grammar

/-! ### The pieces of a literal -/

/-- The characters of a segment as it is spelt. -/
def Segment.spelling : Segment → List Char
  | .plain c => [c]
  | .slot s _ => s

/-- The inside of a literal, cut into the characters that it decodes to and the
placeholders between them. -/
inductive Pieces : List Char → List Segment → Prop
  | nil : Pieces [] []
  | plain {c : Char} {u : List Char} {ps : List Segment} : Json.IsPlain c →
      (c = '{' → reference? u = none) → Pieces u ps → Pieces (c :: u) (.plain c :: ps)
  | escape {c : Char} {e u : List Char} {ps : List Segment} :
      Json.readEscape e = .ok (c, []) → Pieces u ps → Pieces ('\\' :: (e ++ u)) (.plain c :: ps)
  | slot {w u : List Char} {ref : Option Reference} {ps : List Segment} :
      reference? (w ++ u) = some (ref, u) → Pieces u ps →
        Pieces ('{' :: (w ++ u)) (.slot ('{' :: w) ref :: ps)

theorem isPlain_brace : Json.IsPlain '{' := ⟨by decide, by decide, by decide⟩

/-- A character of a placeholder stands for itself in a literal, -/
theorem isPlain_of_isSlotChar {c : Char} (h : isSlotChar c = true) : Json.IsPlain c := by
  refine ⟨?_, ?_, ?_⟩
  · rintro rfl
    cases h
  · rintro rfl
    cases h
  · have hcontrol : ∀ n < 0x20, isSlotChar (Char.ofNat n) = false := by decide
    refine Nat.le_of_not_lt fun hlow => ?_
    have hc := hcontrol c.toNat hlow
    rw [Char.ofNat_toNat, h] at hc
    cases hc

/-- and so does every character of a whole one. -/
theorem isPlain_slot {w u : List Char} {ref : Option Reference}
    (h : reference? (w ++ u) = some (ref, u)) : ∀ c ∈ '{' :: w, Json.IsPlain c := by
  obtain ⟨w', heq, hchars, -⟩ := reference?_eq_some h
  obtain rfl := List.append_cancel_right heq
  exact List.forall_mem_cons.2 ⟨isPlain_brace, fun c hc => isPlain_of_isSlotChar (hchars c hc)⟩

/-- No escape holds a brace. -/
theorem not_escape_brace {e : List Char} {c : Char} (h : Json.readEscape e = .ok (c, [])) :
    '{' ∉ e := by
  obtain ⟨w, rfl, -, hchars⟩ := Json.readEscape_taken h
  rw [List.append_nil]
  intro hmem
  rcases hchars _ hmem with hhex | hmem
  · cases hhex
  · simp at hmem

/-- Pieces decode to their characters, placeholders as they are spelt. -/
theorem Pieces.literal {ps : List Segment} (h : Pieces u ps) :
    Literal u (ps.flatMap Segment.spelling) := by
  induction h with
  | nil => exact .nil
  | plain hc _ _ ih => exact .plain hc ih
  | escape he _ ih => exact .escape he ih
  | slot href _ ih => exact (Literal.of_plain (isPlain_slot href)).append ih

/-- Every literal falls into pieces. -/
theorem Pieces.of_literal {x : List Char} (h : Literal u x) :
    ∃ ps, Pieces u ps ∧ ps.flatMap Segment.spelling = x := by
  induction hn : u.length using Nat.strongRecOn generalizing u x with
  | ind n ih =>
    subst hn
    by_cases hslot : ∃ w v ref, u = '{' :: (w ++ v) ∧ reference? (w ++ v) = some (ref, v)
    · obtain ⟨w, v, ref, rfl, href⟩ := hslot
      rw [← List.cons_append] at h
      obtain ⟨y, rfl, hy⟩ := h.of_plain_append (isPlain_slot href)
      have hshorter : v.length < ('{' :: (w ++ v)).length := by
        rw [List.length_cons, List.length_append]
        omega
      obtain ⟨ps, hps, rfl⟩ := ih v.length hshorter hy rfl
      exact ⟨_, .slot href hps, rfl⟩
    · cases h with
      | nil => exact ⟨[], .nil, rfl⟩
      | @plain c v y hc h =>
        obtain ⟨ps, hps, rfl⟩ := ih v.length (by simp) h rfl
        refine ⟨_, .plain hc (fun hbrace => ?_) hps, rfl⟩
        rw [Option.eq_none_iff_forall_ne_some]
        rintro ⟨ref, t⟩ href
        obtain ⟨w, rfl, -⟩ := reference?_eq_some href
        exact hslot ⟨w, t, ref, by rw [hbrace], href⟩
      | @escape c e v y he h =>
        have hshorter : v.length < ('\\' :: (e ++ v)).length := by
          rw [List.length_cons, List.length_append]
          omega
        obtain ⟨ps, hps, rfl⟩ := ih v.length hshorter h rfl
        exact ⟨_, .escape he hps, rfl⟩

/-- What is put in for the placeholders stands for itself inside of a literal. -/
def Fits (rules : SubstitutionRules) (b : Bindings) (escape : Bool) (ps : List Segment) : Prop :=
  ∀ w ref t, .slot w ref ∈ ps → ref.bind (resolve? rules b) = some t →
    Literal (if escape then Json.escapeChars t.toList else t.toList) t.toList

/-- What is escaped always does. -/
theorem fits_escaped (ps : List Segment) : Fits rules b true ps := fun _ _ t _ _ =>
  Json.literal_escapeChars t.toList

/-- **A literal whose placeholders are filled** decodes to its pieces, with every
placeholder that resolves replaced by its own text. -/
theorem Pieces.fill {ps : List Segment} (h : Pieces u ps) (hfits : Fits rules b escape ps) :
    Literal (fillChars rules b escape u) (ps.flatMap (fillSegment rules b false)) := by
  induction h with
  | nil => exact .nil
  | plain hc hbrace _ ih =>
    rw [fillChars_plain hbrace]
    exact .plain hc (ih fun w ref t hmem => hfits w ref t (List.mem_cons_of_mem _ hmem))
  | @escape c e u ps he _ ih =>
    have hfill : Fills rules b escape ('\\' :: e) ('\\' :: e) := .of_no_brace fun d hd => by
      rintro rfl
      exact not_escape_brace he (by simpa using hd)
    rw [← List.cons_append, hfill]
    exact .escape he (ih fun w ref t hmem => hfits w ref t (List.mem_cons_of_mem _ hmem))
  | @slot w u ref ps href _ ih =>
    have hfill : fillChars rules b escape ('{' :: (w ++ u)) =
        fillSegment rules b escape (.slot ('{' :: w) ref) ++ fillChars rules b escape u := by
      rw [fillChars, slices_slot href]
      rfl
    rw [hfill, List.flatMap_cons]
    refine Literal.append ?_ (ih fun w ref t hmem => hfits w ref t (List.mem_cons_of_mem _ hmem))
    simp only [fillSegment]
    cases hresolve : ref.bind (resolve? rules b) with
    | some t => exact hfits _ ref t List.mem_cons_self hresolve
    | none => exact Literal.of_plain (isPlain_slot href)

end Placeholder
end Errand

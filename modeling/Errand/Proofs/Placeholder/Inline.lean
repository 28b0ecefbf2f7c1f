/-
# Templates that are written values

A template may be the compact form of a value.  Escaping takes no placeholder apart and
makes none, so the literals of such a template fall into the pieces that the strings of
the value fall into (`pieces_escapeChars`).  Filled and read again, the template is the
value with each of its strings filled, if what is put in fits where it is put
(`parse?_substitute_compact`).

It fits into an object, where it is escaped.  Into an array it is put as it is, and fits
only as far as it needs no escape.
-/

import Errand.Proofs.Json.Legible
import Errand.Proofs.Placeholder.Object

namespace Errand

open Json (Literal Spells SpellsText Value)

namespace Placeholder

variable {rules : SubstitutionRules} {b : Bindings}

/-- A string with every placeholder that resolves replaced by its text. -/
def fillString (rules : SubstitutionRules) (b : Bindings) (s : String) : String :=
  filled rules b (segments s)

/-! ### Escaping keeps placeholders -/

/-- A character that may stand for itself is not escaped, -/
theorem escapeChar_plain {c : Char} (hc : Json.IsPlain c) : Json.escapeChar c = [c] := by
  have hlow := hc.not_control
  have not_low {d : Char} (hd : d.toNat < 0x20) : c ≠ d := by
    rintro rfl
    omega
  rw [Json.escapeChar, if_neg hc.not_quote, if_neg hc.not_backslash, if_neg (by omega),
    if_neg (by omega), if_neg (not_low (by decide)), if_neg (not_low (by decide)),
    if_neg (not_low (by decide)), if_neg (by omega)]

/-- and neither is a text of such. -/
theorem escapeChars_plain {w : List Char} (hw : ∀ c ∈ w, Json.IsPlain c) :
    Json.escapeChars w = w := by
  induction w with
  | nil => rfl
  | cons c w ih =>
    obtain ⟨hc, hw⟩ := List.forall_mem_cons.1 hw
    have hsplit : Json.escapeChars (c :: w) = Json.escapeChar c ++ Json.escapeChars w := rfl
    rw [hsplit, escapeChar_plain hc, ih hw, List.singleton_append]

/-- A character is escaped by itself or by an escape that names it. -/
theorem escapeChar_cases (c : Char) : (Json.IsPlain c ∧ Json.escapeChar c = [c]) ∨
    ∃ e, Json.escapeChar c = '\\' :: e ∧ Json.readEscape e = .ok (c, []) := by
  have h := Json.literal_escapeChar c
  generalize Json.escapeChar c = w at h ⊢
  cases h with
  | plain hc h =>
    cases h
    exact .inl ⟨hc, rfl⟩
  | escape he h =>
    cases h
    exact .inr ⟨_, by rw [List.append_nil], he⟩

/-- Plain characters at the start of an escaped text stand at the start of the text. -/
theorem prefix_of_prefix_escapeChars {w s : List Char} (hw : ∀ c ∈ w, Json.IsPlain c)
    (h : w <+: Json.escapeChars s) : w <+: s := by
  induction w generalizing s with
  | nil => exact List.nil_prefix
  | cons c w ih =>
    obtain ⟨hc, hw⟩ := List.forall_mem_cons.1 hw
    cases s with
    | nil => simp [Json.escapeChars] at h
    | cons d s =>
      have hsplit : Json.escapeChars (d :: s) = Json.escapeChar d ++ Json.escapeChars s := rfl
      obtain ⟨-, hd⟩ | ⟨e, hd, -⟩ := escapeChar_cases d
      · rw [hsplit, hd, List.singleton_append, List.cons_prefix_cons] at h
        obtain ⟨rfl, h⟩ := h
        exact List.cons_prefix_cons.2 ⟨rfl, ih hw h⟩
      · rw [hsplit, hd, List.cons_append, List.cons_prefix_cons] at h
        exact absurd h.1 hc.not_backslash

/-- **The literal that a string is written as falls into the pieces of the string.** -/
theorem pieces_escapeChars (s : List Char) : Pieces (Json.escapeChars s) (slices s) := by
  induction s using slices_induction with
  | nil => exact .nil
  | plain c s hbrace ih =>
    have hsplit : Json.escapeChars (c :: s) = Json.escapeChar c ++ Json.escapeChars s := rfl
    rw [hsplit, slices_plain hbrace]
    obtain ⟨hc, hself⟩ | ⟨e, hescape, he⟩ := escapeChar_cases c
    · rw [hself]
      refine .plain hc (fun h => ?_) ih
      rw [Option.eq_none_iff_forall_ne_some]
      rintro ⟨ref, t⟩ href
      obtain ⟨w, hwt, hchars, hw⟩ := reference?_eq_some href
      have hplain : ∀ c ∈ w, Json.IsPlain c := fun c hc => isPlain_of_isSlotChar (hchars c hc)
      obtain ⟨r, rfl⟩ := prefix_of_prefix_escapeChars hplain ⟨t, hwt.symm⟩
      have hnone := hbrace h
      rw [hw] at hnone
      cases hnone
    · rw [hescape]
      exact .escape he ih
  | slot w ref t hchars hw ih =>
    have hplain : ∀ c ∈ '{' :: w, Json.IsPlain c :=
      List.forall_mem_cons.2 ⟨isPlain_brace, fun c hc => isPlain_of_isSlotChar (hchars c hc)⟩
    have hsplit : Json.escapeChars ('{' :: (w ++ t)) = '{' :: (w ++ Json.escapeChars t) := by
      rw [← List.cons_append, Json.escapeChars_append, escapeChars_plain hplain, List.cons_append]
    rw [hsplit, slices_slot (hw t)]
    exact .slot (hw _) ih

/-! ### Strings and keys -/

/-- Segments are spelt as the text that they are cut from. -/
theorem slices_spelling (s : List Char) : (slices s).flatMap Segment.spelling = s := by
  induction s using slices_induction with
  | nil => rfl
  | plain c s hbrace ih =>
    rw [slices_plain hbrace, List.flatMap_cons, ih]
    rfl
  | slot w ref t _ hw ih =>
    rw [slices_slot (hw t), List.flatMap_cons, ih]
    rfl

/-- The reference of a placeholder is one of the references of the text. -/
theorem mem_references {s : String} {w : List Char} {ref : Reference}
    (h : .slot w (some ref) ∈ segments s) : ref ∈ references s :=
  List.mem_filterMap.2 ⟨_, h, rfl⟩

/-- A text without references is left as it is. -/
theorem fillString_eq_self {s : String} (h : references s = []) : fillString rules b s = s := by
  have hself : ∀ seg ∈ segments s, standsFor rules b seg = seg.spelling := by
    intro seg hseg
    cases seg with
    | plain c => rfl
    | slot w ref =>
      cases ref with
      | none => rfl
      | some ref =>
        have hmem := mem_references hseg
        rw [h] at hmem
        cases hmem
  rw [fillString, filled, List.flatMap_def, List.map_congr_left hself, ← List.flatMap_def,
    segments_eq_slices, slices_spelling, String.ofList_toList]

/-- What is put into the value reads as itself there: into an object everything, as it is
escaped, and into an array what needs no escape. -/
inductive Fillable (rules : SubstitutionRules) (b : Bindings) : Value → Prop
  | object {members : Json.Members} : Fillable rules b (.object members)
  | array {items : List Value} : (∀ s ∈ (Value.array items).strings, ∀ ref ∈ references s,
      ∀ t, resolve? rules b ref = some t → ∀ c ∈ t.toList, Json.IsPlain c) →
        Fillable rules b (.array items)

/-- What the references of a string resolve to decides what is put into its pieces. -/
theorem fits_of_references {escape : Bool} {s : String}
    (h : ∀ ref ∈ references s, ∀ t, resolve? rules b ref = some t →
      Literal (if escape then Json.escapeChars t.toList else t.toList) t.toList) :
    Fits rules b escape (segments s) := by
  intro w ref t hslot hresolve
  cases ref with
  | none => cases hresolve
  | some ref => exact h ref (mem_references hslot) t hresolve

/-! ### Values -/

/-- The pieces that a text spells, what is put in being no danger to them. -/
def FittingPieces (rules : SubstitutionRules) (b : Bindings) (escape : Bool) (u : List Char)
    (ps : List Segment) : Prop :=
  Pieces u ps ∧ Fits rules b escape ps

variable {escape : Bool} {v : Value}

/-- A legible value is written in fitting pieces. -/
theorem spellsText_compact (hlegible : v.Legible Json.maxDepth)
    (hstrings : ∀ s ∈ v.strings, Fits rules b escape (segments s))
    (hkeys : ∀ k ∈ v.keys, references k = []) :
    SpellsText (FittingPieces rules b escape) v.compactChars (Json.Tree.ofValue segments v) := by
  have hspells : Spells (FittingPieces rules b escape) Json.maxDepth v.compactChars
      (Json.Tree.ofValue segments v) :=
    hlegible.spells (fun s hs => ⟨pieces_escapeChars s.toList, hstrings s hs⟩)
      fun k hk => ⟨pieces_escapeChars k.toList, fits_of_references (by simp [hkeys k hk])⟩
  have htext := @SpellsText.mk _ _ [] _ [] _ rfl rfl hspells
  rwa [List.nil_append, List.append_nil] at htext

/-- What is filled in fitting pieces is read as the tree says. -/
theorem parseChars?_fillChars {s : List Char} {t : Json.Tree (List Segment)}
    (h : SpellsText (FittingPieces rules b escape) s t) :
    Json.parseChars? (fillChars rules b escape s) = some (t.value (filled rules b)) := by
  have hfilled : SpellsText (FilledPieces rules b escape) (fillChars rules b escape s) t :=
    spellsText_fill (fun _ ps hps => .mk hps.1 hps.2) h
  exact SpellsText.parseChars? (reads_filled escape) hfilled

/-- What is put into an array is not escaped. -/
theorem looksLikeObject_array (items : List Value) :
    looksLikeObject (Value.array items).compact = false := by
  have hopen : (Text.trimStartChars ('[' :: Value.compactItems items ++ [']'])).head? =
      some '[' := rfl
  rw [looksLikeObject, Value.compact, String.toList_ofList, Value.compactChars, hopen]
  rfl

/-- **A value that is written, filled and read again** is the value with each of its strings
filled.  Its shape, its numbers and its keys stay, whatever is put in, as long as it fits. -/
theorem parse?_substitute_compact (hlegible : v.Legible Json.maxDepth)
    (hkeys : ∀ k ∈ v.keys, references k = []) (hfill : Fillable rules b v) :
    Json.parse? (substitute rules b v.compact) = some (v.mapStrings (fillString rules b)) := by
  have hvalue : (Json.Tree.ofValue segments v).value (filled rules b) =
      v.mapStrings (fillString rules b) :=
    hlegible.value_ofValue fun k hk => fillString_eq_self (hkeys k hk)
  have hsubstitute : Json.parse? (substitute rules b v.compact) =
      Json.parseChars? (fillChars rules b (looksLikeObject v.compact) v.compactChars) := by
    rw [Json.parse?, substitute_eq, String.toList_ofList, Value.compact, String.toList_ofList]
  rw [hsubstitute, ← hvalue]
  cases hfill with
  | @object members =>
    have hspells := @spellsText_compact rules b true _ hlegible (fun _ _ => fits_escaped _) hkeys
    rw [Value.compact, fillChars_object hspells]
    exact parseChars?_fillChars hspells
  | @array items hplain =>
    have hfits : ∀ s ∈ (Value.array items).strings, Fits rules b false (segments s) := fun s hs =>
      fits_of_references fun ref href t ht => Literal.of_plain (hplain s hs ref href t ht)
    have hspells := spellsText_compact hlegible hfits hkeys
    rw [looksLikeObject_array]
    exact parseChars?_fillChars hspells

end Placeholder
end Errand

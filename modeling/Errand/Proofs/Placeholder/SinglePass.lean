/-
# One pass over a template

SPEC_FULL.md, section 4.2, step 1: what fits nowhere is left verbatim.

A template is cut at its placeholders, from left to right (`Digits.Cut`).  Braces stand at
the two ends of a placeholder and nowhere in it, so no two placeholders overlap: the cut is
there, it is the only one, and each placeholder that stands anywhere in the template is one
of its segments (`Digits.exists_cut`, `Digits.Cut.unique`, `Digits.Cut.of_placeholder`).

Substitution puts, for each segment of the cut, what that segment becomes (`Becomes`), and
the references of a template are those of the same segments.  What is put in is not looked
at again, so nothing but the values of the variables that the template names counts
(`substitute_singlePass`).

An index may be spelt with digits that are not decimal ones.  Such a placeholder refers to
nothing, and stays.  Which further digits there are is a parameter here (`Digits`).
-/

import Errand.Proofs.Placeholder.Filling
import Errand.Proofs.Text.Cut
import Mathlib.Data.List.Forall2

namespace Errand

open Json (Value)

namespace Placeholder

/-! ### The spelling of a placeholder -/

/-- What counts as a digit of an index: the decimal digits, and perhaps others beyond ASCII. -/
structure Digits where
  isDigit : Char → Prop
  decimal : ∀ c, c.isDigit = true → isDigit c
  beyond : ∀ c, isDigit c → c.isDigit = false → 0x80 ≤ c.toNat

/-- The number that an index spells, if it is one of 64 bits in decimal digits. -/
def indexValue? (d : List Char) : Option Nat :=
  if d.all Char.isDigit = true ∧ digitsValue d < Nat.pow 2 64 then some (digitsValue d) else none

/-- What a placeholder refers to: nothing, if it has an index that is no such number. -/
def refer? (v : List Char) (p : Option (List Char)) : Option (List Char) → Option Reference
  | none => some ⟨.ofList v, p.map .ofList, none⟩
  | some d => (indexValue? d).map fun i => ⟨.ofList v, p.map .ofList, some i⟩

namespace Digits

/-- The digits of an index. -/
structure IsIndex (D : Digits) (d : List Char) : Prop where
  ne_nil : d ≠ []
  digits : ∀ c ∈ d, D.isDigit c

/-- A placeholder as it is spelt, and what it refers to. -/
inductive IsPlaceholder (D : Digits) : List Char → Option Reference → Prop
  | mk {v : List Char} {p ds : Option (List Char)} : IsName v → (∀ q ∈ p, IsName q) →
      (∀ d ∈ ds, D.IsIndex d) →
      IsPlaceholder D ('{' :: (inside v p ds ++ ['\x7d'])) (refer? v p ds)

/-- A text cut at its placeholders: at each place either one stands there, and the cut goes on
after it, or none does, and the character is plain. -/
inductive Cut (D : Digits) : List Char → List Segment → Prop
  | nil : Cut D [] []
  | plain {c : Char} {s : List Char} {segs : List Segment} :
      (∀ w ref r, D.IsPlaceholder w ref → c :: s ≠ w ++ r) → Cut D s segs →
        Cut D (c :: s) (.plain c :: segs)
  | slot {w s : List Char} {ref : Option Reference} {segs : List Segment} :
      D.IsPlaceholder w ref → Cut D s segs → Cut D (w ++ s) (.slot w ref :: segs)

end Digits

/-- The characters that a placeholder begins and ends with. -/
def isBrace (c : Char) : Bool := c == '{' || c == '\x7d'

/-- A name holds no brace, -/
theorem isBrace_of_isNameChar {c : Char} (h : isNameChar c = true) : isBrace c = false := by
  rw [isBrace, Bool.or_eq_false_iff, beq_eq_false_iff_ne, beq_eq_false_iff_ne]
  constructor <;> rintro rfl <;> cases h

section Syntax

variable {D : Digits} {v v' w w' s s' : List Char} {p p' ds ds' : Option (List Char)}
  {ref ref' : Option Reference}

/-- and neither does an index. -/
theorem Digits.IsIndex.not_brace {d : List Char} (hd : D.IsIndex d) :
    ∀ c ∈ d, isBrace c = false := by
  intro c hc
  cases hdecimal : c.isDigit with
  | true => exact isBrace_of_isNameChar (by simp [isNameChar, Char.isAlphanum, hdecimal])
  | false =>
    have hbeyond := D.beyond c (hd.digits c hc) hdecimal
    rw [isBrace, Bool.or_eq_false_iff, beq_eq_false_iff_ne, beq_eq_false_iff_ne]
    constructor <;> rintro rfl <;> exact absurd hbeyond (by decide)

/-- There are no braces in a placeholder but those at its ends. -/
theorem not_brace_inside (hv : IsName v) (hp : ∀ q ∈ p, IsName q) (hds : ∀ d ∈ ds, D.IsIndex d) :
    ∀ c ∈ inside v p ds, isBrace c = false := by
  intro c hc
  rcases mem_inside hv hp hc with hname | (rfl | rfl | rfl) | ⟨d, hd, hdigit⟩
  · exact isBrace_of_isNameChar hname
  · rfl
  · rfl
  · rfl
  · exact (hds d hd).not_brace c hdigit

/-- **The parts of a placeholder can be told from how it is spelt.** -/
theorem inside_injective (hv : IsName v) (hv' : IsName v') (hp : ∀ q ∈ p, IsName q)
    (hp' : ∀ q ∈ p', IsName q) (h : inside v p ds = inside v' p' ds') :
    String.ofList v = .ofList v' ∧ p.map String.ofList = p'.map .ofList ∧ ds = ds' := by
  have hname : name? (inside v p ds ++ ['\x7d']) = name? (inside v' p' ds' ++ ['\x7d']) := by
    rw [h]
  rw [name?_inside hv, name?_inside hv'] at hname
  obtain ⟨hvar, hrest⟩ := Prod.mk.inj (Option.some.inj hname)
  have hproperty := congrArg property hrest
  rw [property_inside hp, property_inside hp'] at hproperty
  obtain ⟨hprop, hclosed⟩ := Prod.mk.inj hproperty
  have hindex : indexPart ds = indexPart ds' := List.append_cancel_right hclosed
  refine ⟨hvar, hprop, ?_⟩
  cases ds with
  | none =>
    cases ds' with
    | none => rfl
    | some d' => cases hindex
  | some d =>
    cases ds' with
    | none => cases hindex
    | some d' => exact congrArg some (List.append_cancel_right (List.cons.inj hindex).2)

/-- **At one place stands at most one placeholder.** -/
theorem Digits.IsPlaceholder.unique (h : D.IsPlaceholder w ref) (h' : D.IsPlaceholder w' ref')
    (heq : w ++ s = w' ++ s') : w = w' ∧ ref = ref' ∧ s = s' := by
  obtain @⟨v, p, ds, hv, hp, hds⟩ := h
  obtain @⟨v', p', ds', hv', hp', hds'⟩ := h'
  simp only [List.cons_append, List.append_assoc, List.nil_append] at heq
  obtain ⟨hinside, -, rfl⟩ := Text.eq_of_append_eq (P := isBrace) (not_brace_inside hv hp hds)
    (not_brace_inside hv' hp' hds') rfl rfl (List.cons.inj heq).2
  obtain ⟨hvar, hprop, rfl⟩ := inside_injective hv hv' hp hp' hinside
  refine ⟨by rw [hinside], ?_, rfl⟩
  cases ds <;> simp only [refer?, hvar, hprop]

/-- A placeholder begins with a brace, and no other brace of its kind is in it. -/
theorem Digits.IsPlaceholder.opens (h : D.IsPlaceholder w ref) :
    ∃ u, w = '{' :: u ∧ '{' ∉ u := by
  obtain ⟨hv, hp, hds⟩ := h
  refine ⟨_, rfl, fun hmem => ?_⟩
  rcases List.mem_append.1 hmem with hmem | hmem
  · cases not_brace_inside hv hp hds _ hmem
  · exact absurd (List.mem_singleton.1 hmem) (by decide)

end Syntax

/-! ### The cut -/

namespace Digits

/-- **Every text can be cut.** -/
theorem exists_cut (D : Digits) (s : List Char) : ∃ segs, D.Cut s segs := by
  induction hn : s.length using Nat.strongRecOn generalizing s with
  | ind n ih =>
    subst hn
    by_cases hslot : ∃ w ref r, D.IsPlaceholder w ref ∧ s = w ++ r
    · obtain ⟨w, ref, r, hw, rfl⟩ := hslot
      obtain ⟨u, rfl, -⟩ := hw.opens
      have hshorter : r.length < ('{' :: u ++ r).length := by
        rw [List.length_append, List.length_cons]
        omega
      obtain ⟨segs, hsegs⟩ := ih r.length hshorter r rfl
      exact ⟨_, .slot hw hsegs⟩
    · cases s with
      | nil => exact ⟨[], .nil⟩
      | cons c s =>
        obtain ⟨segs, hsegs⟩ := ih s.length (by simp) s rfl
        exact ⟨_, .plain (fun w ref r hw h => hslot ⟨w, ref, r, hw, h⟩) hsegs⟩

namespace Cut

variable {D : Digits} {s : List Char} {segs segs' : List Segment}

/-- **There is one way to cut it.** -/
theorem unique (h : D.Cut s segs) (h' : D.Cut s segs') : segs' = segs := by
  induction h generalizing segs' with
  | nil =>
    generalize hs : ([] : List Char) = s at h'
    cases h' with
    | nil => rfl
    | plain => cases hs
    | slot hw =>
      obtain ⟨u, rfl, -⟩ := hw.opens
      cases hs
  | @plain c s segs hnone _ ih =>
    generalize hs : c :: s = t at h'
    cases h' with
    | nil => cases hs
    | plain _ h' =>
      cases hs
      rw [ih h']
    | slot hw => exact absurd hs (hnone _ _ _ hw)
  | @slot w s ref segs hw _ ih =>
    generalize hs : w ++ s = t at h'
    cases h' with
    | nil =>
      obtain ⟨u, rfl, -⟩ := hw.opens
      cases hs
    | plain hnone => exact absurd hs.symm (hnone _ _ _ hw)
    | slot hw' h' =>
      obtain ⟨rfl, rfl, rfl⟩ := hw.unique hw' hs
      rw [ih h']

/-- Nothing is lost or moved. -/
theorem spelling (h : D.Cut s segs) : segs.flatMap Segment.spelling = s := by
  induction h with
  | nil => rfl
  | plain _ _ ih =>
    rw [List.flatMap_cons, ih]
    rfl
  | slot _ _ ih =>
    rw [List.flatMap_cons, ih]
    rfl

/-- **Every placeholder is a segment, where it stands:** what is before it and what is after it
are cut on their own. -/
theorem of_placeholder {w pre post : List Char} {ref : Option Reference} (h : D.Cut s segs)
    (hw : D.IsPlaceholder w ref) (hs : s = pre ++ (w ++ post)) :
    ∃ before after, segs = before ++ .slot w ref :: after ∧ D.Cut pre before ∧
      D.Cut post after := by
  induction h generalizing pre with
  | nil =>
    obtain ⟨u, rfl, -⟩ := hw.opens
    simp at hs
  | @plain c s segs hnone hrest ih =>
    cases pre with
    | nil => exact absurd hs (hnone w ref post hw)
    | cons d pre =>
      obtain ⟨rfl, htail : s = pre ++ (w ++ post)⟩ := List.cons.inj hs
      obtain ⟨before, after, rfl, hbefore, hafter⟩ := ih htail
      refine ⟨.plain c :: before, after, rfl, .plain (fun w' ref' r hw' heq => ?_) hbefore, hafter⟩
      -- A placeholder that stands in what is before stands in the whole text.
      refine hnone w' ref' (r ++ (w ++ post)) hw' ?_
      rw [← List.append_assoc, ← heq, htail, List.cons_append]
  | @slot w' s ref' segs hw' hrest ih =>
    rcases List.append_eq_append_iff.1 hs with ⟨more, rfl, hmore⟩ | ⟨left, rfl, hleft⟩
    · obtain ⟨before, after, rfl, hbefore, hafter⟩ := ih hmore
      exact ⟨.slot w' ref' :: before, after, rfl, .slot hw' hbefore, hafter⟩
    · cases pre with
      | nil =>
        obtain ⟨rfl, rfl, rfl⟩ := hw'.unique hw (by simpa using hs)
        exact ⟨[], segs, rfl, .nil, hrest⟩
      | cons d pre =>
        -- The later placeholder would open in the earlier one, or right after it.
        obtain ⟨u, hu, hinside⟩ := hw'.opens
        obtain ⟨u', rfl, -⟩ := hw.opens
        cases left with
        | nil =>
          obtain ⟨before, after, rfl, hbefore, hafter⟩ := @ih [] hleft.symm
          rw [List.append_nil] at hw' ⊢
          exact ⟨.slot (d :: pre) ref' :: before, after, rfl, by
            simpa using Cut.slot hw' hbefore, hafter⟩
        | cons e left =>
          obtain ⟨rfl, -⟩ := List.cons.inj hleft
          obtain ⟨-, rfl⟩ := List.cons.inj hu
          exact absurd (List.mem_append_right pre List.mem_cons_self) hinside

end Cut
end Digits

/-! ### The cut and the segments -/

section Segments

variable {D : Digits} {rules : SubstitutionRules} {b : Bindings} {escape : Bool}
  {s u v w : List Char} {p ds : Option (List Char)} {ref : Option Reference}
  {segs : List Segment}

/-- Before the first brace every character is plain. -/
theorem slices_append_plain (hu : '{' ∉ u) : slices (u ++ s) = u.map .plain ++ slices s := by
  induction u with
  | nil => rfl
  | cons c u ih =>
    have hc : c ≠ '{' := fun h => hu (h ▸ List.mem_cons_self)
    rw [List.cons_append, slices_plain (absurd · hc), ih (hu <| List.mem_cons_of_mem c ·)]
    rfl

/-- An index in decimal digits is one of the digits of any kind. -/
theorem isPlaceholder_of_reference? (h : reference? (w ++ s) = some (ref, s)) :
    D.IsPlaceholder ('{' :: w) ref := by
  obtain ⟨v, p, ds, hv, hp, hds, hspelt, rfl⟩ := reference?_eq_some_iff.1 h
  have hw : w = inside v p ds ++ ['\x7d'] := by
    refine List.append_cancel_right (hspelt.trans ?_)
    rw [List.append_assoc, List.singleton_append]
  have hindex : ∀ d ∈ ds, D.IsIndex d := fun d hd =>
    ⟨(hds d hd).ne_nil, fun c hc => D.decimal c ((hds d hd).digits c hc)⟩
  have hrefer : referenceTo v p ds = refer? v p ds := by
    cases ds with
    | none => rfl
    | some d =>
      have hall : d.all Char.isDigit = true := List.all_eq_true.2 (hds d rfl).digits
      simp only [referenceTo, refer?, indexValue?, hall, true_and]
      split <;> rfl
  rw [hw, hrefer]
  exact .mk hv hp hindex

/-- What is no placeholder in digits of any kind is none in decimal ones. -/
theorem reference?_eq_none_of_plain {c : Char}
    (hnone : ∀ w ref r, D.IsPlaceholder w ref → c :: s ≠ w ++ r) (hc : c = '{') :
    reference? s = none := by
  subst hc
  refine Option.eq_none_iff_forall_ne_some.2 fun ⟨ref, t⟩ href => ?_
  obtain ⟨w, rfl, -⟩ := reference?_eq_some href
  exact hnone ('{' :: w) ref t (isPlaceholder_of_reference? href) rfl

/-- **A placeholder is one segment,** or it refers to nothing and each of its characters is
plain. -/
theorem slices_placeholder (hw : D.IsPlaceholder w ref) :
    slices (w ++ s) = .slot w ref :: slices s ∨
      ref = none ∧ slices (w ++ s) = w.map .plain ++ slices s := by
  obtain ⟨u, rfl, hinside⟩ := hw.opens
  cases href : reference? (u ++ s) with
  | some found =>
    obtain ⟨ref', t⟩ := found
    obtain ⟨u', hspelt, -, hu'⟩ := reference?_eq_some href
    have hw' : D.IsPlaceholder ('{' :: u') ref' := isPlaceholder_of_reference? (hu' t)
    have hboth : '{' :: u ++ s = '{' :: u' ++ t := by
      rw [List.cons_append, List.cons_append, hspelt]
    obtain ⟨-, rfl, rfl⟩ := hw.unique hw' hboth
    exact .inl (slices_slot href)
  | none =>
    refine .inr ⟨?_, ?_⟩
    · -- It has the form of a placeholder, so its index is not in decimal digits.
      generalize hbraced : '{' :: u = w at hw
      obtain @⟨v, p, ds, hv, hp, hds⟩ := hw
      cases hbraced
      cases hrefer : refer? v p ds with
      | none => rfl
      | some ref =>
        have hdecimal : ∀ d ∈ ds, IsIndex d := by
          rintro d ⟨⟩
          obtain ⟨i, hi, -⟩ := Option.map_eq_some_iff.1 hrefer
          refine ⟨(hds d rfl).ne_nil, List.all_eq_true.1 ?_⟩
          unfold indexValue? at hi
          split_ifs at hi with hall
          exact hall.1
        have hfound : Placeholder.reference? (inside v p ds ++ '\x7d' :: s) =
            some (referenceTo v p ds, s) :=
          reference?_eq_some_iff.2 ⟨v, p, ds, hv, hp, hdecimal, rfl, rfl⟩
        rw [List.append_assoc, List.singleton_append, hfound] at href
        cases href
    · rw [List.cons_append, slices_plain fun _ => href, slices_append_plain hinside]
      rfl

/-- What a segment refers to. -/
def Segment.reference? : Segment → Option Reference
  | .plain _ => none
  | .slot _ ref => ref

/-- **The cut comes to what the segments come to,** if what refers to nothing comes to what its
characters do. -/
theorem Digits.Cut.flatMap_eq {β : Type} {f : Segment → List β} (h : D.Cut s segs)
    (hf : ∀ w : List Char, (w.map Segment.plain).flatMap f = f (.slot w none)) :
    (slices s).flatMap f = segs.flatMap f := by
  induction h with
  | nil => rfl
  | @plain c s segs hnone _ ih =>
    rw [slices_plain (reference?_eq_none_of_plain hnone), List.flatMap_cons, List.flatMap_cons, ih]
  | @slot w s ref segs hw _ ih =>
    rcases slices_placeholder (s := s) hw with hslot | ⟨rfl, hplain⟩
    · rw [hslot, List.flatMap_cons, List.flatMap_cons, ih]
    · rw [hplain, List.flatMap_append, hf, List.flatMap_cons, ih]

/-- It refers to what the text refers to. -/
theorem Digits.Cut.references (h : D.Cut s segs) :
    (slices s).filterMap Segment.reference? = segs.filterMap Segment.reference? := by
  rw [List.filterMap_eq_flatMap_toList, List.filterMap_eq_flatMap_toList]
  refine h.flatMap_eq fun w => List.flatMap_eq_nil_iff.2 fun seg hseg => ?_
  obtain ⟨c, -, rfl⟩ := List.mem_map.1 hseg
  rfl

/-- It is filled to what the text is filled to. -/
theorem Digits.Cut.fill (h : D.Cut s segs) :
    fillChars rules b escape s = segs.flatMap (fillSegment rules b escape) := by
  refine h.flatMap_eq fun w => ?_
  rw [List.flatMap_map]
  exact List.flatMap_singleton' w

end Segments

/-! ### What becomes of a segment -/

/-- The items that an index counts: those of an array, or of the array that an object has under
the first of the array properties. -/
def items? (rules : SubstitutionRules) (v : Value) : Option (List Value) :=
  match v.asStructured? with
  | some (.array vs) => some vs
  | some (.object ms) => rules.arrayProperties.findSome? (itemsUnder? ms)
  | _ => none

/-- An item is looked up among the items that a value has. -/
theorem itemAt?_eq_bind (rules : SubstitutionRules) (v : Value) (i : Nat) :
    itemAt? rules v i = (items? rules v).bind (·[i]?) := by
  unfold itemAt? items?
  cases v.asStructured? with
  | none => rfl
  | some w => cases w <;> rfl

/-- The value that a reference is about: what is bound under its name, or the property of
that. -/
inductive Concerns (b : Bindings) (ref : Reference) : Value → Prop
  | bound {v : Value} : b.get? ref.name = some v → ref.property = none → Concerns b ref v
  | property {v w : Value} {p : String} : b.get? ref.name = some v → ref.property = some p →
      v.asStructured?.bind (·.property? p) = some w → Concerns b ref w

/-- Why a reference may resolve to nothing. -/
inductive Unresolvable (rules : SubstitutionRules) (b : Bindings) (ref : Reference) : Prop
  | unbound : b.get? ref.name = none → Unresolvable rules b ref
  | missingProperty {v : Value} {p : String} : b.get? ref.name = some v →
      ref.property = some p → v.asStructured?.bind (·.property? p) = none →
      Unresolvable rules b ref
  | outOfRange {v : Value} {i : Nat} : Concerns b ref v → ref.index = some i →
      (∀ items ∈ items? rules v, items.length ≤ i) → Unresolvable rules b ref

/-- What a segment of a cut becomes.  A placeholder that resolves becomes its text, escaped if
that is called for.  Any other is kept: its index is no number of 64 bits, so that it refers to
nothing, or what it refers to is unbound, missing or out of range. -/
inductive Becomes (rules : SubstitutionRules) (b : Bindings) (escape : Bool) :
    Segment → List Char → Prop
  | plain (c : Char) : Becomes rules b escape (.plain c) [c]
  | resolved {w : List Char} {ref : Reference} {t : String} : resolve? rules b ref = some t →
      Becomes rules b escape (.slot w (some ref))
        (if escape then Json.escapeChars t.toList else t.toList)
  | kept {w : List Char} {ref : Option Reference} : (∀ r ∈ ref, Unresolvable rules b r) →
      Becomes rules b escape (.slot w ref) w

section Filling

variable {rules : SubstitutionRules} {b b' : Bindings} {escape : Bool}

/-- It is missing if there are too few of them, or none to look among. -/
theorem itemAt?_eq_none_iff {v : Value} {i : Nat} :
    itemAt? rules v i = none ↔ ∀ items ∈ items? rules v, items.length ≤ i := by
  rw [itemAt?_eq_bind, Option.bind_eq_none_iff]
  exact forall₂_congr fun _ _ => List.getElem?_eq_none_iff

/-- **These are the reasons why a reference resolves to nothing.** -/
theorem resolve?_eq_none_iff {ref : Reference} :
    resolve? rules b ref = none ↔ Unresolvable rules b ref := by
  obtain ⟨name, property, index⟩ := ref
  constructor
  · intro h
    unfold resolve? at h
    cases hbound : b.get? name with
    | none => exact .unbound hbound
    | some v =>
      simp only [hbound, Option.bind_some, Option.map_eq_none_iff] at h
      cases property with
      | none =>
        cases index with
        | none => cases h
        | some i => exact .outOfRange (.bound hbound rfl) rfl (itemAt?_eq_none_iff.1 h)
      | some p =>
        cases hproperty : v.asStructured?.bind (·.property? p) with
        | none => exact .missingProperty hbound rfl hproperty
        | some w =>
          cases index with
          | none =>
            simp only [lookup?, hproperty] at h
            cases h
          | some i =>
            simp only [lookup?, hproperty, Option.bind_some] at h
            exact .outOfRange (.property hbound rfl hproperty) rfl (itemAt?_eq_none_iff.1 h)
  · rintro (hbound | ⟨hbound, rfl, hproperty⟩ | ⟨⟨hbound, rfl⟩ | ⟨hbound, rfl, hproperty⟩, rfl, hi⟩)
    · simp only [resolve?, hbound, Option.bind_none]
    · cases index <;> simp only [resolve?, hbound, lookup?, hproperty, Option.bind_some,
        Option.bind_none, Option.map_none]
    · simp only [resolve?, hbound, lookup?, itemAt?_eq_none_iff.2 hi, Option.bind_some,
        Option.map_none]
    · simp only [resolve?, hbound, lookup?, hproperty, itemAt?_eq_none_iff.2 hi,
        Option.bind_some, Option.map_none]

/-- Each segment becomes one thing. -/
theorem becomes_iff {seg : Segment} {part : List Char} :
    Becomes rules b escape seg part ↔ part = fillSegment rules b escape seg := by
  constructor
  · intro h
    cases h with
    | plain c => rfl
    | resolved hresolved => simp only [fillSegment, Option.bind_some, hresolved]
    | @kept w ref hkept =>
      have hnone : ref.bind (resolve? rules b) = none :=
        Option.bind_eq_none_iff.2 fun r hr => resolve?_eq_none_iff.2 (hkept r hr)
      simp only [fillSegment, hnone]
  · rintro rfl
    cases seg with
    | plain c => exact .plain c
    | slot w ref =>
      cases hresolve : ref.bind (resolve? rules b) with
      | some t =>
        obtain ⟨ref, rfl, ht⟩ := Option.bind_eq_some_iff.1 hresolve
        simp only [fillSegment, hresolve]
        exact .resolved ht
      | none =>
        simp only [fillSegment, hresolve]
        exact .kept fun r hr => resolve?_eq_none_iff.1 (Option.bind_eq_none_iff.1 hresolve r hr)

/-- So does each list of segments. -/
theorem forall₂_becomes_iff {segs : List Segment} {parts : List (List Char)} :
    List.Forall₂ (Becomes rules b escape) segs parts ↔
      parts = segs.map (fillSegment rules b escape) := by
  have hrel : Becomes rules b escape =
      fun seg part => fillSegment rules b escape seg = part := by
    funext seg part
    exact propext (becomes_iff.trans eq_comm)
  rw [hrel, ← List.forall₂_map_left_iff, List.forall₂_eq_eq_eq]
  exact eq_comm

/-- A segment looks at the value of the variable that it names, and at nothing else. -/
theorem fillSegment_congr {seg : Segment}
    (h : ∀ ref ∈ seg.reference?, b'.get? ref.name = b.get? ref.name) :
    fillSegment rules b' escape seg = fillSegment rules b escape seg := by
  cases seg with
  | plain c => rfl
  | slot w ref =>
    have hresolve : ref.bind (resolve? rules b') = ref.bind (resolve? rules b) :=
      Option.bind_congr fun r hr => by rw [resolve?, resolve?, h r hr]
    simp only [fillSegment, hresolve]

end Filling

/-! ### The pass -/

/-- What a pass over a template makes of a cut of it. -/
structure OnePass (D : Digits) (rules : SubstitutionRules) (b : Bindings) (template : String)
    (segs : List Segment) : Prop where
  cut : D.Cut template.toList segs
  only : ∀ segs', D.Cut template.toList segs' → segs' = segs
  /-- All that is not in a placeholder is in its place. -/
  spelling : segs.flatMap Segment.spelling = template.toList
  /-- Wherever a placeholder stands, it is a segment. -/
  placeholder : ∀ pre w ref post, D.IsPlaceholder w ref → template.toList = pre ++ (w ++ post) →
    ∃ before after, segs = before ++ .slot w ref :: after ∧ D.Cut pre before ∧ D.Cut post after
  listed : references template = segs.filterMap Segment.reference?
  filled : ∀ out, substitute rules b template = .ofList out ↔
    ∃ parts, List.Forall₂ (Becomes rules b (looksLikeObject template)) segs parts ∧
      out = parts.flatten
  /-- What other variables are bound to makes no difference, and neither does what the texts
  that are put in hold. -/
  agree : ∀ b', (∀ ref ∈ references template, b'.get? ref.name = b.get? ref.name) →
    substitute rules b' template = substitute rules b template

/-- **Substitution is one pass over the template.**  There is one way to cut it at its
placeholders, whatever further digits there are.  The result is made of what the segments
become, in their order, and depends on the variables that the template names alone. -/
theorem substitute_onePass (D : Digits) (rules : SubstitutionRules) (b : Bindings)
    (template : String) : ∃ segs, OnePass D rules b template segs := by
  obtain ⟨segs, hcut⟩ := D.exists_cut template.toList
  have hreferences : references template = segs.filterMap Segment.reference? := hcut.references
  have hfill (b : Bindings) : substitute rules b template =
      .ofList (segs.flatMap (fillSegment rules b (looksLikeObject template))) := by
    rw [substitute_eq, hcut.fill]
  refine ⟨segs, hcut, fun _ => hcut.unique, hcut.spelling, fun pre w ref post hw hs =>
    hcut.of_placeholder hw hs, hreferences, fun out => ?_, fun b' hagree => ?_⟩
  · simp only [forall₂_becomes_iff, exists_eq_left, hfill, ← List.flatMap_def]
    rw [String.ofList_inj]
    exact eq_comm
  · have hsegment : ∀ seg ∈ segs, fillSegment rules b' (looksLikeObject template) seg =
        fillSegment rules b (looksLikeObject template) seg := fun seg hseg =>
      fillSegment_congr fun ref href =>
        hagree ref (hreferences ▸ List.mem_filterMap.2 ⟨seg, hseg, href⟩)
    rw [hfill, hfill, List.flatMap_def, List.map_congr_left hsegment, ← List.flatMap_def]

namespace Nested

/-- Decimal and Arabic-Indic digits. -/
def digits : Digits where
  isDigit c := c.isDigit = true ∨ 0x660 ≤ c.toNat ∧ c.toNat ≤ 0x669
  decimal _ h := .inl h
  beyond c h hdecimal := by
    rcases h with h | h
    · rw [hdecimal] at h
      cases h
    · omega

/-- Texts that hold placeholders. -/
def bindings : Bindings :=
  (Bindings.empty.set "greeting" (.string "dear \x7bname\x7d")).set "name" (.string "\x7bdate\x7d")

/-- Nested and adjacent braces, and placeholders that stay. -/
def template : String :=
  "\x7b\x7bgreeting\x7d \x7bname\x7d\x7bdate\x7d \x7bname.first\x7d\x7bname[0]\x7d " ++
    "\x7bname[18446744073709551616]\x7d \x7bname[\u0663]\x7d \x7bname \x7d"

end Nested

open Nested in
/-- Bindings may differ in what the template does not name. -/
theorem substitute_onePass_nested :
    (∃ segs, OnePass digits {} bindings template segs) ∧
      (∀ ref ∈ references template,
        (bindings.set "secret" .null).get? ref.name = bindings.get? ref.name) ∧
      substitute {} (bindings.set "secret" .null) template = substitute {} bindings template := by
  have hnames : ∀ ref ∈ references template, ref.name ≠ "secret" := by decide +kernel
  have hagree : ∀ ref ∈ references template,
      (bindings.set "secret" .null).get? ref.name = bindings.get? ref.name := fun ref href =>
    Bindings.get?_set_of_ne bindings (hnames ref href) .null
  obtain ⟨segs, hpass⟩ := substitute_onePass digits {} bindings template
  exact ⟨⟨segs, hpass⟩, hagree, hpass.agree _ hagree⟩

/-- The placeholders in the texts that are put in stay as they are. -/
example : substitute {} Nested.bindings Nested.template =
    "\x7bdear \x7bname\x7d \x7bdate\x7d\x7bdate\x7d \x7bname.first\x7d\x7bname[0]\x7d " ++
      "\x7bname[18446744073709551616]\x7d \x7bname[\u0663]\x7d \x7bname \x7d" := by
  decide +kernel

end Placeholder
end Errand

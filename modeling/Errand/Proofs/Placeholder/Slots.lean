/-
# Where placeholders stand

A placeholder is a brace, a name, perhaps a property, perhaps an index, and a brace
(`reference?_eq_some_iff`).  All its characters but the first are slot characters, so it
reaches over no other character, such as a quote: a text may be cut there, and its two
sides be searched for placeholders on their own (`slices_append`).
-/

import Errand.Placeholder
import Mathlib.Data.List.TakeWhile

namespace Errand
namespace Placeholder

/-! ### The syntax of references -/

/-- The characters that a placeholder is made of after its opening brace. -/
def isSlotChar (c : Char) : Bool :=
  isNameChar c || c == '.' || c == '[' || c == ']' || c == '\x7d'

/-- A name: a character that starts one, and others that go on with it. -/
structure IsName (v : List Char) : Prop where
  start : ∃ c ∈ v.head?, isNameStart c = true
  rest : ∀ c ∈ v.tail, isNameChar c = true

/-- The digits of an index. -/
structure IsIndex (d : List Char) : Prop where
  ne_nil : d ≠ []
  digits : ∀ c ∈ d, c.isDigit = true

/-- No name goes on in the text. -/
def EndsName (s : List Char) : Prop := ∀ c ∈ s.head?, isNameChar c = false

section Syntax

variable {s r t v q d : List Char}

/-- A run of characters of one kind ends where the text goes on with another. -/
theorem span_append {p : Char → Bool} (hv : ∀ c ∈ v, p c = true)
    (hr : ∀ c ∈ r.head?, p c = false) :
    (v ++ r).takeWhile p = v ∧ (v ++ r).dropWhile p = r := by
  rw [List.takeWhile_append_of_pos hv, List.dropWhile_append_of_pos hv]
  cases r with
  | nil => simp
  | cons c r =>
    have hc : ¬p c = true := by simp [hr c rfl]
    rw [List.takeWhile_cons_of_neg hc, List.dropWhile_cons_of_neg hc, List.append_nil]
    exact ⟨rfl, rfl⟩

/-- A name is read up to where it ends, -/
theorem name?_append (hv : IsName v) (hr : EndsName r) :
    name? (v ++ r) = some (.ofList v, r) := by
  obtain ⟨⟨c, hc, hstart⟩, hrest⟩ := hv
  cases v with
  | nil => cases hc
  | cons c v =>
    cases hc
    obtain ⟨htake, hdrop⟩ := span_append hrest hr
    rw [List.tail_cons] at htake hdrop
    rw [List.cons_append, name?, if_pos hstart, htake, hdrop]

/-- and what is read as a name is one. -/
theorem name?_eq_some {x : String} (h : name? s = some (x, r)) :
    ∃ v, IsName v ∧ s = v ++ r ∧ .ofList v = x := by
  cases s with
  | nil => cases h
  | cons c s =>
    simp only [name?] at h
    split at h
    · next hc =>
      cases h
      refine ⟨c :: s.takeWhile isNameChar, ⟨⟨c, rfl, hc⟩, fun d hd => List.mem_takeWhile_imp hd⟩,
        ?_, rfl⟩
      rw [List.cons_append, List.takeWhile_append_dropWhile]
    · cases h

/-- The property part of a placeholder. -/
def propertyPart (p : Option (List Char)) : List Char := p.elim [] ('.' :: ·)

/-- What is read as a property is a point and a name, or nothing, -/
theorem property_eq {x : Option String} (h : property s = (x, r)) :
    ∃ p, (∀ q ∈ p, IsName q) ∧ s = propertyPart p ++ r ∧ p.map .ofList = x := by
  unfold property at h
  split at h
  · split at h
    · next hname =>
      cases h
      obtain ⟨q, hq, rfl, rfl⟩ := name?_eq_some hname
      exact ⟨some q, by simpa using hq, rfl, rfl⟩
    · cases h
      exact ⟨none, by simp, rfl, rfl⟩
  · cases h
    exact ⟨none, by simp, rfl, rfl⟩

/-- and it is read up to where it ends. -/
theorem property_append {p : Option (List Char)} (hp : ∀ q ∈ p, IsName q) (hr : EndsName r)
    (hdot : '.' ∉ r.head?) : property (propertyPart p ++ r) = (p.map .ofList, r) := by
  cases p with
  | none =>
    unfold property propertyPart
    split
    · next heq => exact absurd (by rw [show r = _ from heq]; rfl) hdot
    · rfl
  | some q =>
    have h := name?_append (hp q rfl) hr
    simp only [propertyPart, Option.elim, List.cons_append, property, h, Option.map]

/-- The index part of a placeholder. -/
def indexPart (ds : Option (List Char)) : List Char := ds.elim [] fun d => '[' :: (d ++ [']'])

/-- What is read as an index stands in brackets, or is nothing, -/
theorem indexDigits_eq {ds : Option (List Char)} (h : indexDigits s = (ds, r)) :
    (∀ d ∈ ds, IsIndex d) ∧ s = indexPart ds ++ r := by
  unfold indexDigits at h
  split at h
  · next u =>
    split at h
    · next d ds t hd htail =>
      cases h
      refine ⟨fun _ hmem => ?_, ?_⟩
      · cases hmem
        refine ⟨List.cons_ne_nil d ds, fun c hc => ?_⟩
        rw [← hd] at hc
        exact List.mem_takeWhile_imp hc
      · rw [indexPart, Option.elim, ← hd, List.cons_append, List.append_assoc,
          List.singleton_append, ← htail, List.takeWhile_append_dropWhile]
    · cases h
      exact ⟨by simp, rfl⟩
  · cases h
    exact ⟨by simp, rfl⟩

/-- and it is read up to where it ends. -/
theorem indexDigits_append {ds : Option (List Char)} (hds : ∀ d ∈ ds, IsIndex d)
    (hr : '[' ∉ r.head?) : indexDigits (indexPart ds ++ r) = (ds, r) := by
  cases ds with
  | none =>
    unfold indexDigits indexPart
    split
    · next heq => exact absurd (by rw [show r = _ from heq]; rfl) hr
    · rfl
  | some d =>
    obtain ⟨hne, hdigits⟩ := hds d rfl
    obtain ⟨htake, hdrop⟩ := span_append (r := ']' :: r) hdigits (by rintro _ ⟨⟩; rfl)
    cases d with
    | nil => exact absurd rfl hne
    | cons c d =>
      have hpart : indexPart (some (c :: d)) ++ r = '[' :: (c :: d ++ ']' :: r) := by
        simp [indexPart]
      rw [hpart, indexDigits, htake, hdrop]
      rfl

/-- What stands between the braces of a placeholder. -/
def inside (v : List Char) (p ds : Option (List Char)) : List Char :=
  v ++ (propertyPart p ++ indexPart ds)

/-- Neither a bracket nor a brace goes on with a name. -/
theorem endsName_indexPart (ds : Option (List Char)) (t : List Char) :
    EndsName (indexPart ds ++ '\x7d' :: t) := by
  cases ds <;> rintro _ ⟨⟩ <;> rfl

/-- The name of a placeholder is read first. -/
theorem name?_inside (hv : IsName v) (p ds : Option (List Char)) (t : List Char) :
    name? (inside v p ds ++ '\x7d' :: t) =
      some (.ofList v, propertyPart p ++ (indexPart ds ++ '\x7d' :: t)) := by
  rw [inside, List.append_assoc, List.append_assoc]
  refine name?_append hv ?_
  cases p with
  | none => exact endsName_indexPart ds t
  | some q =>
    rintro _ ⟨⟩
    rfl

/-- Its property is read next. -/
theorem property_inside {p : Option (List Char)} (hp : ∀ q ∈ p, IsName q)
    (ds : Option (List Char)) (t : List Char) :
    property (propertyPart p ++ (indexPart ds ++ '\x7d' :: t)) =
      (p.map .ofList, indexPart ds ++ '\x7d' :: t) := by
  refine property_append hp (endsName_indexPart ds t) ?_
  cases ds <;> simp [indexPart]

/-- The reference that is made there, unless the index is too large. -/
def referenceTo (v : List Char) (p : Option (List Char)) : Option (List Char) → Option Reference
  | none => some ⟨.ofList v, p.map .ofList, none⟩
  | some d =>
    if digitsValue d < Nat.pow 2 64 then some ⟨.ofList v, p.map .ofList, some (digitsValue d)⟩
    else none

/-- **The syntax of placeholders after their opening brace.** -/
theorem reference?_eq_some_iff {ref : Option Reference} :
    reference? s = some (ref, t) ↔ ∃ v p ds, IsName v ∧ (∀ q ∈ p, IsName q) ∧
      (∀ d ∈ ds, IsIndex d) ∧ s = inside v p ds ++ '\x7d' :: t ∧ referenceTo v p ds = ref := by
  constructor
  · intro h
    unfold reference? at h
    obtain ⟨⟨x, r⟩, hname, h⟩ := Option.bind_eq_some_iff.1 h
    obtain ⟨v, hv, rfl, rfl⟩ := name?_eq_some hname
    cases hp : property r with
    | mk x r₁ =>
      cases hi : indexDigits r₁ with
      | mk ds r₂ =>
        obtain ⟨p, hp', rfl, rfl⟩ := property_eq hp
        obtain ⟨hds, rfl⟩ := indexDigits_eq hi
        simp only [hp, hi] at h
        split at h
        · next t' _ =>
          have h : some (referenceTo v p ds, t') = some (ref, t) := by
            rw [← h]
            cases ds with
            | none => rfl
            | some d =>
              simp only [referenceTo]
              split <;> rfl
          cases h
          exact ⟨v, p, ds, hv, hp', hds, by simp [inside], rfl⟩
        · cases h
  · rintro ⟨v, p, ds, hv, hp, hds, rfl, rfl⟩
    have hname := name?_inside hv p ds t
    have hproperty := property_inside hp ds t
    have hindex : indexDigits (indexPart ds ++ '\x7d' :: t) = (ds, '\x7d' :: t) :=
      indexDigits_append hds (by simp)
    simp only [reference?, hname, hproperty, hindex, Option.bind_eq_bind, Option.bind_some]
    cases ds with
    | none => rfl
    | some d =>
      simp only [referenceTo]
      split <;> rfl

theorem IsName.isNameChar (hv : IsName v) : ∀ c ∈ v, isNameChar c = true := by
  obtain ⟨⟨c, hc, hstart⟩, hrest⟩ := hv
  cases v with
  | nil => cases hc
  | cons d v =>
    cases hc
    refine List.forall_mem_cons.2 ⟨?_, hrest⟩
    simp only [isNameStart, Bool.or_eq_true] at hstart
    simp only [Placeholder.isNameChar, Char.isAlphanum, Bool.or_eq_true]
    exact hstart.imp_left .inl

/-- A placeholder may hold names, -/
theorem isSlotChar_of_isNameChar {c : Char} (h : isNameChar c = true) : isSlotChar c = true := by
  simp [isSlotChar, h]

/-- A character of a placeholder is one of a name, of an index, or sets them apart. -/
theorem mem_inside {c : Char} {p ds : Option (List Char)} (hv : IsName v)
    (hp : ∀ q ∈ p, IsName q) (hc : c ∈ inside v p ds) :
    isNameChar c = true ∨ (c = '.' ∨ c = '[' ∨ c = ']') ∨ ∃ d ∈ ds, c ∈ d := by
  rcases List.mem_append.1 hc with hc | hc
  · exact .inl (hv.isNameChar c hc)
  rcases List.mem_append.1 hc with hc | hc
  · cases p with
    | none => cases hc
    | some q =>
      rcases List.mem_cons.1 hc with rfl | hc
      · exact .inr (.inl (.inl rfl))
      · exact .inl ((hp q rfl).isNameChar c hc)
  · cases ds with
    | none => cases hc
    | some d =>
      rcases List.mem_cons.1 hc with rfl | hc
      · exact .inr (.inl (.inr (.inl rfl)))
      rcases List.mem_append.1 hc with hc | hc
      · exact .inr (.inr ⟨d, rfl, hc⟩)
      · exact .inr (.inl (.inr (.inr (List.mem_singleton.1 hc))))

/-- and all it holds are such characters. -/
theorem isSlotChar_inside {p ds : Option (List Char)} (hv : IsName v) (hp : ∀ q ∈ p, IsName q)
    (hds : ∀ d ∈ ds, IsIndex d) : ∀ c ∈ inside v p ds, isSlotChar c = true := by
  intro c hc
  rcases mem_inside hv hp hc with hname | (rfl | rfl | rfl) | ⟨d, hd, hdigit⟩
  · exact isSlotChar_of_isNameChar hname
  · rfl
  · rfl
  · rfl
  · refine isSlotChar_of_isNameChar ?_
    simp [isNameChar, Char.isAlphanum, (hds d hd).digits c hdigit]

/-- A placeholder is found where it stands, whatever follows it, and is made of slot
characters. -/
theorem reference?_eq_some {ref : Option Reference} (h : reference? s = some (ref, t)) :
    ∃ w, s = w ++ t ∧ (∀ c ∈ w, isSlotChar c = true) ∧
      ∀ t', reference? (w ++ t') = some (ref, t') := by
  obtain ⟨v, p, ds, hv, hp, hds, rfl, href⟩ := reference?_eq_some_iff.1 h
  refine ⟨inside v p ds ++ ['\x7d'], by simp, ?_, fun t' => ?_⟩
  · refine List.forall_mem_append.2 ⟨isSlotChar_inside hv hp hds, fun c hc => ?_⟩
    cases List.mem_singleton.1 hc
    rfl
  · exact reference?_eq_some_iff.2 ⟨v, p, ds, hv, hp, hds, by simp, href⟩

/-- **No placeholder reaches over a character that none is made of.** -/
theorem reference?_append (ht : ∀ c ∈ t.head?, isSlotChar c = false) :
    reference? (s ++ t) = (reference? s).map fun p => (p.1, p.2 ++ t) := by
  cases hs : reference? s with
  | some p =>
    obtain ⟨w, rfl, -, hw⟩ := reference?_eq_some hs
    rw [List.append_assoc, hw]
    rfl
  | none =>
    rw [Option.map_none, Option.eq_none_iff_forall_ne_some]
    rintro ⟨ref, t'⟩ h
    obtain ⟨w, hst, hchars, hw⟩ := reference?_eq_some h
    -- The placeholder ends before the text does, so the text alone holds it.
    obtain ⟨s', rfl⟩ : w <+: s := by
      rcases List.append_eq_append_iff.1 hst with ⟨more, rfl, rfl⟩ | ⟨left, rfl, -⟩
      · cases more with
        | nil => simp
        | cons c more =>
          have hc : isSlotChar c = true := hchars c (by simp)
          rw [ht c rfl] at hc
          cases hc
      · exact List.prefix_append w left
    rw [hw] at hs
    cases hs

end Syntax

/-! ### Segments -/

/-- The segments of the characters. -/
def slices (s : List Char) : List Segment := segmentsFrom s.length s

theorem segments_eq_slices (template : String) : segments template = slices template.toList := rfl

section Slices

variable {s t w : List Char}

/-- What follows a reference is no longer than the text. -/
theorem reference?_length {ref : Option Reference} (h : reference? s = some (ref, t)) :
    t.length ≤ s.length := by
  obtain ⟨w, rfl, -⟩ := reference?_eq_some h
  simp

/-- More fuel than there are characters changes nothing. -/
theorem segmentsFrom_congr {m n : Nat} (hm : s.length ≤ m) (hn : s.length ≤ n) :
    segmentsFrom m s = segmentsFrom n s := by
  induction m generalizing n s with
  | zero =>
    obtain rfl := List.eq_nil_of_length_eq_zero (Nat.le_zero.1 hm)
    cases n <;> rfl
  | succ m ih =>
    cases s with
    | nil => cases n <;> rfl
    | cons c s =>
      rw [List.length_cons] at hm hn
      obtain ⟨n, rfl⟩ : ∃ k, n = k + 1 := ⟨n - 1, by omega⟩
      simp only [segmentsFrom]
      split
      · next href =>
        split_ifs at href
        have := reference?_length href
        rw [ih (n := n) (by omega) (by omega)]
      · rw [ih (n := n) (by omega) (by omega)]

theorem slices_nil : slices [] = [] := rfl

/-- A character that starts no placeholder is plain. -/
theorem slices_plain {c : Char} (h : c = '{' → reference? s = none) :
    slices (c :: s) = .plain c :: slices s := by
  have hnone : (if c = '{' then reference? s else none) = none := by
    split_ifs with hc
    · exact h hc
    · rfl
  rw [slices, List.length_cons, segmentsFrom, hnone]
  rfl

/-- A placeholder is one segment. -/
theorem slices_slot {ref : Option Reference} (h : reference? (w ++ t) = some (ref, t)) :
    slices ('{' :: (w ++ t)) = .slot ('{' :: w) ref :: slices t := by
  rw [slices, List.length_cons, segmentsFrom, if_pos rfl, h]
  simp [slices, segmentsFrom_congr (m := w.length + t.length) (n := t.length) (s := t)]

/-- Induction on a text along its segments: it is empty, starts with a plain character, or
starts with a placeholder, which stands there whatever follows it. -/
@[elab_as_elim]
theorem slices_induction {motive : List Char → Prop} (nil : motive [])
    (plain : ∀ c s, (c = '{' → reference? s = none) → motive s → motive (c :: s))
    (slot : ∀ w ref t, (∀ c ∈ w, isSlotChar c = true) →
      (∀ t', reference? (w ++ t') = some (ref, t')) → motive t → motive ('{' :: (w ++ t)))
    (s : List Char) : motive s := by
  induction hn : s.length using Nat.strongRecOn generalizing s with
  | ind n ih =>
    cases s with
    | nil => exact nil
    | cons c s =>
      subst hn
      by_cases hslot : c = '{' ∧ (reference? s).isSome
      · obtain ⟨rfl, hsome⟩ := hslot
        obtain ⟨⟨ref, t⟩, href⟩ := Option.isSome_iff_exists.1 hsome
        obtain ⟨w, rfl, hchars, hw⟩ := reference?_eq_some href
        have hshorter : t.length < ('{' :: (w ++ t)).length := by
          rw [List.length_cons, List.length_append]
          omega
        exact slot w ref t hchars hw (ih t.length hshorter t rfl)
      · refine plain c s (fun hc => ?_) (ih s.length (by simp) s rfl)
        exact Option.not_isSome_iff_eq_none.1 fun hs => hslot ⟨hc, hs⟩

/-- **A text may be cut before any character that no placeholder is made of.** -/
theorem slices_append (ht : ∀ c ∈ t.head?, isSlotChar c = false) :
    slices (s ++ t) = slices s ++ slices t := by
  induction s using slices_induction with
  | nil => rfl
  | plain c s hplain ih =>
    have hplain' : c = '{' → reference? (s ++ t) = none := fun hc => by
      rw [reference?_append ht, hplain hc]
      rfl
    rw [List.cons_append, slices_plain hplain, slices_plain hplain', ih]
    rfl
  | slot w ref u _ hw ih =>
    rw [List.cons_append, List.append_assoc, slices_slot (hw _), slices_slot (hw _), ih]
    rfl

end Slices
end Placeholder
end Errand

/-
# Which JSON a reply yields

SPEC_FULL.md, section 2, item 10, on JSON in fenced replies and in prose.

The JSON of a reply is looked for in three places: the text as a whole, its fenced parts,
and the span between its outermost brackets (`extractChars?_eq`).

The span from the first opening bracket to the last closing one exists exactly when some
opening bracket is followed by a closing one (`span?_eq_none_iff`), and what stands before
the first or after the last does not matter (`span?_amid`).

What is found was read from a contiguous part of the text.  The whole text is taken only if
it is an array or an object, and what starts with a bracket can be nothing else; but a
fenced part is taken whatever it is.  So the reply yields a scalar exactly when its first
fenced part that is JSON is one (`extract?_sound`).
-/

import Errand.Proofs.Json.Woven
import Errand.Reply

namespace Errand
namespace Reply

open Json (Value)

/-- The character that fences are made of. -/
def tick : Char := Char.ofNat 0x60

theorem fence_eq : fence = [tick, tick, tick] := rfl

theorem eq_tick_of_mem_fence {x : Char} (h : x ∈ fence) : x = tick := by
  simpa [fence_eq] using h

/-! ### Spans -/

section Spans

variable {o c : Char} {s a m b t : List Char}

/-- Somewhere in the text stands `o`, and `c` after it. -/
def Bracketed (o c : Char) (s : List Char) : Prop := ∃ a m b, s = a ++ o :: (m ++ c :: b)

/-- What is ahead of the first bracket is dropped, -/
theorem dropWhile_ne_append (ho : o ∉ a) : (a ++ o :: s).dropWhile (· ≠ o) = o :: s := by
  have hdrop : ∀ x ∈ a, decide (x ≠ o) = true := fun x hx =>
    decide_eq_true (fun h => ho (h ▸ hx))
  rw [List.dropWhile_append_of_pos hdrop, List.dropWhile_cons_of_neg (by simp)]

/-- and everything is where there is none. -/
theorem dropWhile_ne_eq_nil (ho : o ∉ s) : s.dropWhile (· ≠ o) = [] := by
  rw [List.dropWhile_eq_nil_iff]
  exact fun x hx => decide_eq_true (fun h => ho (h ▸ hx))

/-- There is no span without an opening bracket, -/
theorem span?_of_unopened (ho : o ∉ s) : span? o c s = none := by
  rw [span?, dropWhile_ne_eq_nil ho]

/-- and none without a closing one behind it. -/
theorem span?_of_unclosed (ho : o ∉ a) (hc : c ∉ s) : span? o c (a ++ o :: s) = none := by
  have hclosing : s.reverse.dropWhile (· ≠ c) = [] := dropWhile_ne_eq_nil (by simpa using hc)
  rw [span?, dropWhile_ne_append ho]
  simp only [hclosing]

/-- A span goes from the first opening bracket to the last closing one, -/
theorem span?_bracketed (ho : o ∉ a) (hc : c ∉ b) :
    span? o c (a ++ o :: (m ++ c :: b)) = some (o :: (m ++ [c])) := by
  have hreverse : (m ++ c :: b).reverse = b.reverse ++ c :: m.reverse := by simp
  have hclosing : (m ++ c :: b).reverse.dropWhile (· ≠ c) = c :: m.reverse := by
    rw [hreverse, dropWhile_ne_append (by simpa using hc)]
  rw [span?, dropWhile_ne_append ho]
  simp only [hclosing, List.reverse_cons, List.reverse_reverse]

/-- The last place where a character stands. -/
theorem eq_append_cons_of_mem_last (h : c ∈ s) : ∃ m b, s = m ++ c :: b ∧ c ∉ b := by
  obtain ⟨b, m, hsplit, hb⟩ := List.eq_append_cons_of_mem (List.mem_reverse.2 h)
  refine ⟨m.reverse, b.reverse, ?_, by simpa using hb⟩
  rw [← List.reverse_reverse s, hsplit]
  simp

/-- **How a text stands to two brackets:** the first is missing, or the second is missing
after it, or there is a span between them. -/
theorem span_cases (o c : Char) (s : List Char) :
    o ∉ s ∨ (∃ a r, s = a ++ o :: r ∧ o ∉ a ∧ c ∉ r) ∨
      ∃ a m b, s = a ++ o :: (m ++ c :: b) ∧ o ∉ a ∧ c ∉ b := by
  by_cases ho : o ∈ s
  · obtain ⟨a, r, rfl, ha⟩ := List.eq_append_cons_of_mem ho
    by_cases hc : c ∈ r
    · obtain ⟨m, b, rfl, hb⟩ := eq_append_cons_of_mem_last hc
      exact .inr (.inr ⟨a, m, b, rfl, ha, hb⟩)
    · exact .inr (.inl ⟨a, r, rfl, ha, hc⟩)
  · exact .inl ho

/-- What follows some place of a character follows its first place as well. -/
theorem suffix_of_first (ho : o ∉ a) (h : a ++ o :: s = b ++ o :: t) : t <:+ s := by
  rcases List.append_eq_append_iff.1 h with ⟨d, -, hd⟩ | ⟨d, hd, hrest⟩
  · cases d with
    | nil => exact ⟨[], (List.cons.inj hd).2.symm⟩
    | cons x d => exact ⟨d ++ [o], by rw [(List.cons.inj hd).2]; simp⟩
  · cases d with
    | nil => exact ⟨[], (List.cons.inj hrest).2⟩
    | cons x d =>
      have hmem : o ∈ a := by
        rw [hd, ← (List.cons.inj hrest).1]
        simp
      exact absurd hmem ho

/-- **There is a span exactly if some opening bracket is closed later.** -/
theorem span?_eq_none_iff : span? o c s = none ↔ ¬Bracketed o c s := by
  constructor
  · rintro hnone ⟨a, m, b, hs⟩
    rcases span_cases o c s with ho | ⟨a', r, hs', ha', hr⟩ | ⟨a', m', b', hs', ha', hb'⟩
    · exact ho (by simp [hs])
    · have htail : m ++ c :: b <:+ r := suffix_of_first ha' (hs'.symm.trans hs)
      exact hr (htail.subset (by simp))
    · rw [hs', span?_bracketed ha' hb'] at hnone
      cases hnone
  · intro hnot
    rcases span_cases o c s with ho | ⟨a, r, rfl, ha, hr⟩ | ⟨a, m, b, rfl, -⟩
    · exact span?_of_unopened ho
    · exact span?_of_unclosed ha hr
    · exact absurd ⟨a, m, b, rfl⟩ hnot

/-- and every span does. -/
theorem span?_eq_some (h : span? o c s = some t) :
    ∃ a m b, s = a ++ o :: (m ++ c :: b) ∧ t = o :: (m ++ [c]) := by
  rcases span_cases o c s with ho | ⟨a, r, rfl, ha, hr⟩ | ⟨a, m, b, rfl, ha, hb⟩
  · rw [span?_of_unopened ho] at h
    cases h
  · rw [span?_of_unclosed ha hr] at h
    cases h
  · rw [span?_bracketed ha hb] at h
    exact ⟨a, m, b, rfl, (Option.some.inj h).symm⟩

/-- **What stands before the first or after the last bracket does not matter.** -/
theorem span?_amid (ho : o ∉ a) (hc : c ∉ b) : span? o c (a ++ (s ++ b)) = span? o c s := by
  have ho' {a' : List Char} (h : o ∉ a') : o ∉ a ++ a' := by
    simp only [List.mem_append, not_or]
    exact ⟨ho, h⟩
  rcases span_cases o c s with hs | ⟨a', r, rfl, ha', hr⟩ | ⟨a', m, b', rfl, ha', hb'⟩
  · rw [span?_of_unopened hs]
    by_cases hb : o ∈ b
    · obtain ⟨d, e, rfl, hd⟩ := List.eq_append_cons_of_mem hb
      have hclosing : c ∉ e := fun h => hc (by simp [h])
      have hopening : o ∉ a ++ (s ++ d) := ho' (by simp [hs, hd])
      have := span?_of_unclosed hopening hclosing
      rwa [List.append_assoc, List.append_assoc] at this
    · exact span?_of_unopened (ho' (by simp [hs, hb]))
  · have hclosing : c ∉ r ++ b := by simp [hr, hc]
    have := span?_of_unclosed (ho' ha') hclosing
    rw [span?_of_unclosed ha' hr, ← this]
    simp
  · have hclosing : c ∉ b' ++ b := by simp [hb', hc]
    have := span?_bracketed (m := m) (ho' ha') hclosing
    rw [span?_bracketed ha' hb', ← this]
    simp

end Spans

/-! ### Fenced parts -/

section Fences

variable {s a r body t : List Char}

/-- Nothing is fenced in a text without a fence. -/
theorem fenced_eq_nil (h : ¬fence <:+: s) : fenced s = [] := by
  unfold fenced
  cases s.length with
  | zero => rfl
  | succ fuel => rw [fencedFrom, Text.cut?_eq_none_iff.2 h]

/-- The first fenced part stands between the first two fences. -/
theorem fenced_eq_cons (hopen : Text.cut? fence s = some (a, r))
    (hclose : Text.cut? fence ((r.dropWhile isTagChar).dropWhile Text.isBlank) = some (body, t)) :
    ∃ bodies, fenced s = body :: bodies := by
  have hlength : s.length ≠ 0 := by
    rw [Text.eq_of_cut?_eq_some hopen, fence_eq]
    simp
  obtain ⟨fuel, hfuel⟩ := Nat.exists_eq_succ_of_ne_zero hlength
  rw [fenced, hfuel, fencedFrom, hopen]
  simp only [hclose]
  exact ⟨_, rfl⟩

/-- **The fenced parts are parts of the text.** -/
theorem infix_of_mem_fencedFrom {fuel : Nat} (h : body ∈ fencedFrom fuel s) : body <:+: s := by
  induction fuel generalizing s with
  | zero => cases h
  | succ fuel ih =>
    unfold fencedFrom at h
    split at h
    · cases h
    · next before rest hopen =>
      have hrest : rest <:+ s := ⟨_, (Text.eq_of_cut?_eq_some hopen).symm⟩
      have hinside : (rest.dropWhile isTagChar).dropWhile Text.isBlank <:+: s :=
        (((List.dropWhile_suffix _).trans (List.dropWhile_suffix _)).trans hrest).isInfix
      split at h
      · cases h
      · next body' after hclose =>
        have heq := Text.eq_of_cut?_eq_some hclose
        rcases List.mem_cons.1 h with rfl | h
        · have hstart : body <+: (rest.dropWhile isTagChar).dropWhile Text.isBlank :=
            ⟨fence ++ after, by rw [heq, List.append_assoc]⟩
          exact hstart.isInfix.trans hinside
        · have htail : after <:+ (rest.dropWhile isTagChar).dropWhile Text.isBlank :=
            ⟨_, heq.symm⟩
          exact (ih h).trans (htail.isInfix.trans hinside)

end Fences

/-! ### The three places -/

/-- The value of the first fenced part that is JSON. -/
def fencedValue? (s : List Char) : Option Value :=
  (fenced s).findSome? fun t => Json.parseChars? (Text.trimChars t)

/-- **Where the JSON of a reply is looked for:** in the whole text, then between fences, then
between brackets. -/
theorem extractChars?_eq (s : List Char) :
    extractChars? s = ((Json.parseChars? s).filter Value.isStructured).or
      ((fencedValue? s).or ((outermost? s).bind Json.parseChars?)) := by
  unfold extractChars? fencedValue?
  split
  · rfl
  · split
    · next hwhole => rw [hwhole, Option.some_or]
    · next hwhole =>
      rw [hwhole, Option.none_or]
      split
      · next hfenced => rw [hfenced, Option.some_or]
      · next hfenced => rw [hfenced, Option.none_or]

/-- What is outermost stands in the text, between brackets. -/
theorem outermost?_eq_some {s t : List Char} (h : outermost? s = some t) :
    ∃ o m c, (o = '[' ∨ o = '\x7b') ∧ t = o :: (m ++ [c]) ∧ t <:+: s := by
  have spanned {o c : Char} (ho : o = '[' ∨ o = '\x7b') (hspan : span? o c s = some t) :
      ∃ o m c, (o = '[' ∨ o = '\x7b') ∧ t = o :: (m ++ [c]) ∧ t <:+: s := by
    obtain ⟨a, m, b, rfl, rfl⟩ := span?_eq_some hspan
    exact ⟨o, m, c, ho, rfl, a, b, by simp⟩
  rcases Option.or_eq_some_iff.1 h with hbraces | ⟨-, hbrackets⟩
  · exact spanned (.inr rfl) hbraces
  · exact spanned (.inl rfl) hbrackets

/-- What starts with a bracket is an array or an object. -/
theorem isStructured_of_opening {o : Char} {s : List Char} {v : Value}
    (ho : o = '[' ∨ o = '\x7b') (h : Json.parseChars? (o :: s) = some v) :
    v.isStructured = true := by
  obtain ⟨r, hread, -⟩ := Json.parseChars?_eq_some.1 h
  exact Json.readValue_isStructured ho hread

/-- **What is found was read from a part of the text.** -/
theorem extractChars?_infix {s : List Char} {v : Value} (h : extractChars? s = some v) :
    ∃ part, part <:+: s ∧ Json.parseChars? part = some v := by
  rw [extractChars?_eq] at h
  rcases Option.or_eq_some_iff.1 h with hwhole | ⟨-, hrest⟩
  · exact ⟨s, List.infix_rfl, (Option.filter_eq_some_iff.1 hwhole).1⟩
  · rcases Option.or_eq_some_iff.1 hrest with hfenced | ⟨-, hspan⟩
    · obtain ⟨body, hbody, hread⟩ := List.exists_of_findSome?_eq_some hfenced
      exact ⟨_, (Text.trimChars_infix body).trans (infix_of_mem_fencedFrom hbody), hread⟩
    · obtain ⟨t, ht, hread⟩ := Option.bind_eq_some_iff.1 hspan
      obtain ⟨_, _, _, -, -, hcopy⟩ := outermost?_eq_some ht
      exact ⟨t, hcopy, hread⟩

/-! ### Scalars -/

/-- The text is neither array nor object as a whole, and nor is the first of its fenced parts
that is JSON. -/
def ScalarFenced (s : List Char) : Prop :=
  (∀ v, Json.parseChars? s = some v → v.isStructured = false) ∧
    ∃ before body after v, fenced s = before ++ body :: after ∧
      (∀ part ∈ before, Json.parseChars? (Text.trimChars part) = none) ∧
        Json.parseChars? (Text.trimChars body) = some v ∧ v.isStructured = false

/-- A scalar is fenced if the text is neither array nor object as a whole, and what its fences
give is neither. -/
theorem scalarFenced_iff {s : List Char} :
    ScalarFenced s ↔ (Json.parseChars? s).filter Value.isStructured = none ∧
      ∃ v, fencedValue? s = some v ∧ v.isStructured = false := by
  have hwhole : (Json.parseChars? s).filter Value.isStructured = none ↔
      ∀ v, Json.parseChars? s = some v → v.isStructured = false := by
    simp [Option.filter_eq_none_iff]
  rw [ScalarFenced, hwhole]
  constructor
  · rintro ⟨hscalar, before, body, after, v, hsplit, hbefore, hread, hv⟩
    exact ⟨hscalar, v, List.findSome?_eq_some_iff.2
      ⟨before, body, after, hsplit, hread, hbefore⟩, hv⟩
  · rintro ⟨hscalar, v, hfenced, hv⟩
    obtain ⟨before, body, after, hsplit, hread, hbefore⟩ := List.findSome?_eq_some_iff.1 hfenced
    exact ⟨hscalar, before, body, after, v, hsplit, hbefore, hread, hv⟩

/-- A reply yields arrays and objects alone unless a scalar is fenced in it. -/
theorem extractChars?_isStructured_iff {s : List Char} :
    (∀ v, extractChars? s = some v → v.isStructured = true) ↔ ¬ScalarFenced s := by
  rw [scalarFenced_iff, extractChars?_eq]
  constructor
  · rintro hall ⟨hwhole, v, hfenced, hv⟩
    have htrue : v.isStructured = true := hall v (by rw [hwhole, hfenced]; rfl)
    rw [hv] at htrue
    cases htrue
  · intro hnot v hv
    rcases Option.or_eq_some_iff.1 hv with hwhole | ⟨hwhole, hrest⟩
    · exact (Option.filter_eq_some_iff.1 hwhole).2
    · rcases Option.or_eq_some_iff.1 hrest with hfenced | ⟨-, hspan⟩
      · by_contra hscalar
        exact hnot ⟨hwhole, v, hfenced, by simpa using hscalar⟩
      · obtain ⟨t, ht, hread⟩ := Option.bind_eq_some_iff.1 hspan
        obtain ⟨o, m, c, ho, rfl, -⟩ := outermost?_eq_some ht
        exact isStructured_of_opening ho hread

/-- **A reply yields what one of its parts spells.**  It is an array or an object unless a
scalar is fenced in the reply, before any fenced array or object. -/
theorem extract?_sound (text : String) :
    (∀ v, extract? text = some v →
      ∃ part, part <:+: text.toList ∧ Json.parseChars? part = some v) ∧
      ((∀ v, extract? text = some v → v.isStructured = true) ↔
        ¬ScalarFenced (Text.trimChars text.toList)) := by
  refine ⟨fun v hv => ?_, extractChars?_isStructured_iff⟩
  obtain ⟨part, hpart, hread⟩ := extractChars?_infix hv
  exact ⟨part, hpart.trans (Text.trimChars_infix text.toList), hread⟩

/-- A fenced number is reported, though it is neither array nor object. -/
theorem extract?_fenced_number :
    extract? "```\n42\n```" = some (.number (.int 42)) ∧
      (Value.number (.int 42)).isStructured = false := by
  constructor
  · decide
  · rfl

end Reply
end Errand

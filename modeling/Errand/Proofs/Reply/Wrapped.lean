/-
# JSON wrapped in a reply

SPEC_FULL.md, section 2, item 10, on JSON in fenced replies and in prose.

A model puts an array or an object into its reply with blanks around it, with prose around
it, or between fences.

Blanks are harmless (`extractChars?_blanks`).  So are fences: the text before the first one
may hold any brackets, because with the backticks and the line break after them it is not
JSON as a whole, and then the fenced part is read before any brackets are looked for
(`extractChars?_inFences`).  Both hold of any text of the value (`extract?_of_text`).

Prose without brackets and backticks leaves it to the outermost brackets of the value's own
text (`extractChars?_prose`).  Braces are looked for first, so an object is always found, but
an array only if none of its braces are closed: of an array of objects the span from the
first object to the last is read in its place (`extract?_prose_iff`).
-/

import Errand.Proofs.Reply.Extract

namespace Errand
namespace Reply

open Json (Enclosed Value)

variable {lead inside trail s t p q a b tag : List Char} {v : Value} {o c : Char}

/-! ### Blanks -/

/-- **Blanks around a text do not change what it yields.** -/
theorem extractChars?_blanks (h : Enclosed t v lead inside trail o c)
    (ha : a.all Text.isBlank = true) (hb : b.all Text.isBlank = true) :
    extractChars? (Text.trimChars (a ++ t ++ b)) = some v := by
  have htrim : Text.trimChars (a ++ t ++ b) = o :: (inside ++ [c]) := calc
    Text.trimChars (a ++ t ++ b) = Text.trimChars t := Text.trimChars_blanks_around ha hb
    _ = Text.trimChars (lead ++ (o :: (inside ++ c :: trail))) := by rw [← h.eq]
    _ = o :: (inside ++ [c]) := Text.trimChars_amid_blanks h.solid.1 h.solid.2
      h.lead_isBlank h.trail_isBlank
  rw [extractChars?_eq, htrim, h.reads, Option.filter_some, if_pos h.isStructured,
    Option.some_or]

/-! ### Prose -/

/-- The text holds no brace, no bracket and no backtick. -/
def Plain (s : List Char) : Prop := ∀ x ∈ ['{', '}', '[', ']', tick], x ∉ s

instance : DecidablePred Plain := fun s => List.decidableBAll (fun x => x ∉ s) _

namespace Plain

/-- Plain texts may be put together. -/
theorem append (hs : Plain s) (ht : Plain t) : Plain (s ++ t) := by
  intro x hx hmem
  rcases List.mem_append.1 hmem with hmem | hmem
  · exact hs x hx hmem
  · exact ht x hx hmem

/-- Blanks are plain. -/
theorem of_blank (h : s.all Text.isBlank = true) : Plain s := by
  have hmarkup : ['{', '}', '[', ']', tick].all (!Text.isBlank ·) = true := rfl
  intro x hx hmem
  have hblank : Text.isBlank x = true := List.all_eq_true.1 h x hmem
  have hsolid := List.all_eq_true.1 hmarkup x hx
  rw [hblank] at hsolid
  cases hsolid

/-- A plain text holds no bracket. -/
theorem not_bracket (hs : Plain s) {x : Char} (hx : x ∈ s) :
    Json.opensValue x = false ∧ Json.closesValue x = false := by
  have hne : ∀ y ∈ ['{', '}', '[', ']', tick], x ≠ y := fun y hy hxy => hs y hy (hxy ▸ hx)
  simp only [Json.opensValue, Json.closesValue, Bool.or_eq_false_iff, beq_eq_false_iff_ne]
  exact ⟨⟨hne _ (by simp), hne _ (by simp)⟩, hne _ (by simp), hne _ (by simp)⟩

end Plain

/-- A fence amid texts without backticks is a fence in what is between them. -/
theorem fence_infix_of_amid (ha : tick ∉ a) (hb : tick ∉ b) (h : fence <:+: a ++ (s ++ b)) :
    fence <:+: s := by
  exact Text.infix_of_infix_amid (by decide) (fun x hx => eq_tick_of_mem_fence hx ▸ ha)
    (fun x hx => eq_tick_of_mem_fence hx ▸ hb) h

/-- Plain prose is outside of all brackets. -/
theorem outermost?_amid (ha : Plain a) (hb : Plain b) :
    outermost? (a ++ (s ++ b)) = outermost? s := by
  rw [outermost?, outermost?, span?_amid (ha _ (by simp)) (hb _ (by simp)),
    span?_amid (ha _ (by simp)) (hb _ (by simp))]

/-- Trimming leaves the outermost brackets. -/
theorem outermost?_trimChars (s : List Char) : outermost? (Text.trimChars s) = outermost? s := by
  have hblanks := Text.blanks_around_trimChars s
  rw [List.append_assoc] at hblanks
  rw [← outermost?_amid (.of_blank (Text.leadingBlanks_blank s))
    (.of_blank (Text.trailingBlanks_blank s)), hblanks]

/-- A text with prose around it is no array or object as a whole. -/
theorem isStructured_wrapped (h : Enclosed t v lead inside trail o c) (hp : Plain p)
    (hq : Plain q) (hprose : ¬(p.all Text.isBlank = true ∧ q.all Text.isBlank = true))
    {w : Value} (hw : Json.parseChars? (Text.trimChars (p ++ (t ++ q))) = some w) :
    w.isStructured = false := by
  have hlead : Plain lead := .of_blank h.lead_isBlank
  have htrail : Plain trail := .of_blank h.trail_isBlank
  have hsplit : p ++ (t ++ q) = (p ++ lead) ++ (o :: (inside ++ c :: (trail ++ q))) := by
    rw [h.eq]
    simp
  have htrim := Text.trimChars_amid (a := p ++ lead) (s := inside) (b := trail ++ q) h.solid.1
    h.solid.2
  rw [Bool.eq_false_iff]
  intro hstructured
  -- The brackets of the whole would be those of the value, with blanks alone around them.
  obtain ⟨lead', inside', trail', o', c', h'⟩ := Json.enclosed_of_parseChars? hw hstructured
  obtain ⟨hleft, hright, -⟩ := h'.around_eq (hsplit ▸ htrim) h.opens h.closes
    (fun z hz => ((hp.append hlead).not_bracket (Text.trimStartChars_subset _ hz)).1)
    fun z hz => ((htrail.append hq).not_bracket (Text.trimEndChars_subset _ hz)).2
  have hbefore := Text.all_isBlank_of_trimStartChars (hleft ▸ h'.lead_isBlank)
  have hafter := Text.all_isBlank_of_trimEndChars (hright ▸ h'.trail_isBlank)
  rw [List.all_append, Bool.and_eq_true] at hbefore hafter
  exact hprose ⟨hbefore.1, hafter.2⟩

/-- **Prose leaves it to the outermost brackets of the text that it wraps.** -/
theorem extractChars?_prose (h : Enclosed t v lead inside trail o c) (hp : Plain p)
    (hq : Plain q) (hprose : ¬(p.all Text.isBlank = true ∧ q.all Text.isBlank = true))
    (hfence : ¬fence <:+: t) :
    extractChars? (Text.trimChars (p ++ (t ++ q))) = (outermost? t).bind Json.parseChars? := by
  have hwhole : (Json.parseChars? (Text.trimChars (p ++ (t ++ q)))).filter Value.isStructured =
      none := by
    rw [Option.filter_eq_none_iff]
    intro w hw
    simp [isStructured_wrapped h hp hq hprose hw]
  have hfenced : fencedValue? (Text.trimChars (p ++ (t ++ q))) = none := by
    have hnone : ¬fence <:+: Text.trimChars (p ++ (t ++ q)) := fun hcopy =>
      hfence (fence_infix_of_amid (hp _ (by simp)) (hq _ (by simp))
        (hcopy.trans (Text.trimChars_infix _)))
    rw [fencedValue?, fenced_eq_nil hnone, List.findSome?_nil]
  have hspan : outermost? (Text.trimChars (p ++ (t ++ q))) = outermost? t := by
    rw [outermost?_trimChars, outermost?_amid hp hq]
  rw [extractChars?_eq, hwhole, hfenced, hspan, Option.none_or, Option.none_or]

/-- The brackets of a value span all of its text. -/
theorem span?_of_enclosed (h : Enclosed t v lead inside trail o c) :
    span? o c t = some (o :: (inside ++ [c])) := by
  have hlead : Plain lead := .of_blank h.lead_isBlank
  have htrail : Plain trail := .of_blank h.trail_isBlank
  rw [h.eq]
  refine span?_bracketed (fun hmem => ?_) fun hmem => ?_
  · have hclash := (hlead.not_bracket hmem).1
    rw [h.opens] at hclash
    cases hclash
  · have hclash := (htrail.not_bracket hmem).2
    rw [h.closes] at hclash
    cases hclash

/-- The bracket that a text starts with is that of its value, if it ends in a bracket too. -/
theorem brackets?_of_opening {m : List Char} (ho : o = '[' ∨ o = '\x7b')
    (hc : Json.closesValue c = true) (hread : Json.parseChars? (o :: (m ++ [c])) = some v) :
    ∃ c', v.brackets? = some (o, c') := by
  have hopens : Json.opensValue o = true := by
    rcases ho with rfl | rfl <;> rfl
  obtain ⟨_, _, _, _, c', h⟩ :=
    Json.enclosed_of_parseChars? hread (isStructured_of_opening ho hread)
  obtain ⟨-, -, rfl⟩ := h.around_eq (a := []) (b := []) rfl hopens hc (by simp) (by simp)
  exact ⟨c', h.brackets⟩

/-- What stands between braces is no array. -/
theorem parseChars?_braces_ne_array (m : List Char) (items : List Value) :
    Json.parseChars? ('{' :: (m ++ ['}'])) ≠ some (.array items) := by
  intro hread
  obtain ⟨c', hbrackets⟩ := brackets?_of_opening (.inr rfl) rfl hread
  rcases Value.brackets?_eq_some hbrackets with ⟨hopening, -⟩ | ⟨-, -, _, hobject⟩
  · cases hopening
  · cases hobject

/-- The outermost brackets of a text are those of its value unless the value is an array with
braces in it. -/
theorem outermost?_reads_iff (h : Enclosed t v lead inside trail o c) :
    (outermost? t).bind Json.parseChars? = some v ↔
      (∃ members, v = .object members) ∨ ¬Bracketed '{' '}' t := by
  have hspan := span?_of_enclosed h
  rcases Value.brackets?_eq_some h.brackets with ⟨rfl, rfl, items, rfl⟩ | ⟨rfl, rfl, members, rfl⟩
  · by_cases hbraces : Bracketed '{' '}' t
    · obtain ⟨u, hu⟩ := Option.ne_none_iff_exists'.1 fun hnone => span?_eq_none_iff.1 hnone hbraces
      obtain ⟨_, m, _, -, rfl⟩ := span?_eq_some hu
      simp [outermost?, hu, parseChars?_braces_ne_array, hbraces]
    · simp [outermost?, span?_eq_none_iff.2 hbraces, hspan, h.reads, hbraces]
  · simp [outermost?, hspan, h.reads]

/-- **Prose around JSON.**  A reply that wraps the text of one array or object in plain prose
yields it if it is an object, or if no brace in its text is closed, and in no other case. -/
theorem extract?_prose_iff {v : Value} {t p q : String} (hv : v.isStructured = true)
    (hread : Json.parse? t = some v) (hfence : ¬fence <:+: t.toList) (hp : Plain p.toList)
    (hq : Plain q.toList)
    (hprose : ¬(Text.isBlankText p = true ∧ Text.isBlankText q = true)) :
    extract? (p ++ t ++ q) = some v ↔
      (∃ members, v = .object members) ∨ ¬Bracketed '{' '}' t.toList := by
  obtain ⟨_, _, _, _, _, h⟩ := Json.enclosed_of_parseChars? hread hv
  rw [extract?, String.toList_append, String.toList_append, List.append_assoc,
    extractChars?_prose h hp hq hprose hfence, outermost?_reads_iff h]

/-- An array of numbers is found in prose. -/
theorem extract?_prose_numbers :
    extract? ("The sizes are " ++ "[3, 4]" ++ " as requested.") =
      some (.array [.number (.int 3), .number (.int 4)]) :=
  (extract?_prose_iff rfl (by decide +kernel) (by decide +kernel) (by decide +kernel)
    (by decide +kernel) (by decide +kernel)).2 (.inr (span?_eq_none_iff.1 (by decide +kernel)))

/-- An array of objects is not: what is read starts in its first object. -/
theorem extract?_prose_objects :
    Json.parse? "[\x7b\"a\":1\x7d,\x7b\"b\":2\x7d]" =
        some (.array [.object [("a", .number (.int 1))], .object [("b", .number (.int 2))]]) ∧
      extract? ("Result: " ++ "[\x7b\"a\":1\x7d,\x7b\"b\":2\x7d]" ++ "") = none := by
  constructor <;> decide +kernel

/-! ### Fences -/

/-- The text `t` on lines of its own between two fences, the first with a tag, amid other
texts. -/
def inFences (p tag t q : List Char) : List Char :=
  p ++ (fence ++ (tag ++ '\n' :: (t ++ '\n' :: (fence ++ q))))

/-- What stands between fences is not trimmed. -/
theorem trimChars_inFences (p tag t q : List Char) :
    Text.trimChars (inFences p tag t q) =
      inFences (Text.trimStartChars p) tag t (Text.trimEndChars q) := by
  have hsolid : Text.isBlank tick = false := rfl
  have htrim := Text.trimChars_amid (a := p)
    (s := tick :: tick :: (tag ++ '\n' :: (t ++ ['\n', tick, tick]))) (b := q) hsolid hsolid
  simpa [inFences, fence_eq] using htrim

/-- No backtick stands in a JSON text outside of its literals. -/
theorem not_isFrame_tick : ¬Json.IsFrame tick := by
  rintro (hspace | (hdigit | hmark) | hword)
  · cases hspace
  · cases hdigit
  · revert hmark
    decide
  · revert hword
    decide

/-- A text with a fence that a line break follows is not JSON. -/
theorem parseChars?_inFences (htag : ∀ x ∈ tag, isTagChar x = true) :
    Json.parseChars? (inFences p tag t q) = none := by
  have hquote : '"' ∉ tag := fun hmem => absurd (htag _ hmem) (by decide)
  have hopen := Json.parseChars?_eq_none_of_open (a := p ++ [tick, tick]) (w := tag)
    (b := t ++ '\n' :: (fence ++ q)) not_isFrame_tick (by decide) hquote
  simpa [inFences, fence_eq] using hopen

/-- A text without backticks is cut at the fence after it. -/
theorem cut?_fence (ha : tick ∉ a) : Text.cut? fence (a ++ (fence ++ b)) = some (a, b) := by
  refine Text.cut?_append (fun hcopy => ha (hcopy.subset (by decide))) fun x hx hmem => ha ?_
  rw [← eq_tick_of_mem_fence hmem]
  exact List.mem_of_getLast? hx

/-- **The fenced part is the text,** without the blanks before it and with a line break after
it. -/
theorem fenced_inFences (h : Enclosed t v lead inside trail o c) (hfence : ¬fence <:+: t)
    (hp : tick ∉ p) (htag : ∀ x ∈ tag, isTagChar x = true) :
    ∃ bodies, fenced (inFences p tag t q) =
      (o :: (inside ++ c :: (trail ++ ['\n']))) :: bodies := by
  have hblank : ('\n' :: lead).all Text.isBlank = true := h.lead_isBlank
  have hafter : ((tag ++ '\n' :: (t ++ '\n' :: (fence ++ q))).dropWhile isTagChar).dropWhile
      Text.isBlank = o :: (inside ++ c :: (trail ++ ['\n'])) ++ (fence ++ q) := by
    have hstart := Text.trimStartChars_append_solid (a := '\n' :: lead)
      (s := inside ++ c :: (trail ++ '\n' :: (fence ++ q))) h.solid.1
    rw [Text.trimStartChars_of_blank hblank, Text.trimStartChars] at hstart
    rw [List.dropWhile_append_of_pos htag, List.dropWhile_cons_of_neg (by decide), h.eq]
    simpa using hstart
  refine fenced_eq_cons (cut?_fence hp) (hafter ▸ Text.cut?_append (fun hcopy => ?_) ?_)
  · have htext : fence <:+: o :: (inside ++ c :: trail) :=
      fence_infix_of_amid (a := []) (b := ['\n']) (by simp) (by decide) (by simpa using hcopy)
    exact hfence (htext.trans ⟨lead, [], by simp [h.eq]⟩)
  · intro x hx
    have hlast : x = '\n' := by
      simpa [List.getLast?_cons, List.getLast?_append] using hx.symm
    rw [hlast]
    decide

/-- The fenced part reads as the text does. -/
theorem fencedValue?_inFences (h : Enclosed t v lead inside trail o c) (hfence : ¬fence <:+: t)
    (hp : tick ∉ p) (htag : ∀ x ∈ tag, isTagChar x = true) :
    fencedValue? (inFences p tag t q) = some v := by
  have htrail : (trail ++ ['\n']).all Text.isBlank = true := by
    rw [List.all_append, h.trail_isBlank]
    rfl
  have htrim : Text.trimChars (o :: (inside ++ c :: (trail ++ ['\n']))) = o :: (inside ++ [c]) :=
    Text.trimChars_amid_blanks (a := []) h.solid.1 h.solid.2 rfl htrail
  obtain ⟨bodies, hbodies⟩ := fenced_inFences (q := q) h hfence hp htag
  rw [fencedValue?, hbodies, List.findSome?_cons, htrim, h.reads]

/-- **A fenced text is read whatever stands around the fences,** as long as no backtick stands
before them. -/
theorem extractChars?_inFences (h : Enclosed t v lead inside trail o c) (hfence : ¬fence <:+: t)
    (hp : tick ∉ p) (htag : ∀ x ∈ tag, isTagChar x = true) :
    extractChars? (Text.trimChars (inFences p tag t q)) = some v := by
  have hbefore : tick ∉ Text.trimStartChars p := fun hmem =>
    hp (Text.trimStartChars_subset p hmem)
  rw [trimChars_inFences, extractChars?_eq, parseChars?_inFences htag,
    fencedValue?_inFences h hfence hbefore htag]
  rfl

/-- **A text of an array or object is read from a reply** that has blanks around it.  If it
holds no fence it is read from between fences as well, with or without a tag, whatever stands
around them; only the text before them must not hold backticks. -/
theorem extract?_of_text {v : Value} {t : String} (hv : v.isStructured = true)
    (hread : Json.parse? t = some v) :
    (∀ a b : String, Text.isBlankText a = true → Text.isBlankText b = true →
      extract? (a ++ t ++ b) = some v) ∧
      (¬fence <:+: t.toList → ∀ p tag q : String, tick ∉ p.toList →
        (∀ c ∈ tag.toList, isTagChar c = true) →
          extract? (p ++ "```" ++ tag ++ "\n" ++ t ++ "\n" ++ "```" ++ q) = some v) := by
  obtain ⟨_, _, _, _, _, h⟩ := Json.enclosed_of_parseChars? hread hv
  constructor
  · intro a b ha hb
    rw [extract?, String.toList_append, String.toList_append]
    exact extractChars?_blanks h ha hb
  · intro hfence p tag q hp htag
    have hfenced := extractChars?_inFences (q := q.toList) h hfence hp htag
    have hticks : "```".toList = fence := by decide
    simpa [extract?, inFences, hticks] using hfenced

/-- An object that holds a bracket in a string, amid prose that holds brackets as well. -/
theorem extract?_of_text_brackets :
    extract? ("\n " ++ "\x7b\"a\": \"[\"\x7d" ++ "\t") = some (.object [("a", .string "[")]) ∧
      extract? ("See \x7bhere\x7d:" ++ "```" ++ "json" ++ "\n" ++ "\x7b\"a\": \"[\"\x7d" ++ "\n" ++
        "```" ++ "] thanks") = some (.object [("a", .string "[")]) := by
  have hread : Json.parse? "\x7b\"a\": \"[\"\x7d" = some (.object [("a", .string "[")]) := by
    decide +kernel
  obtain ⟨hblanks, hfenced⟩ := extract?_of_text rfl hread
  exact ⟨hblanks "\n " "\t" (by decide) (by decide),
    hfenced (by decide +kernel) "See \x7bhere\x7d:" "json" "] thanks" (by decide)
      (List.all_eq_true.1 (by decide))⟩

end Reply
end Errand

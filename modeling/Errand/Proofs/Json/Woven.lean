/-
# The outline of a JSON text

A text that spells an array or an object begins and ends in its brackets, blanks apart, so
its first opening bracket says which of the two it spells (`enclosed_of_parseChars?`).

Inside, a JSON text is woven of literals between quotes and of a few other characters, its
frame: blanks, numerals, the letters of three words, brackets, commas and colons
(`Woven.of_parseChars?`).  So any other character stands in a literal.  A literal holds no
line break, hence some quote follows that character on its line
(`parseChars?_eq_none_of_open`).
-/

import Errand.Proofs.Json.Numeral
import Errand.Proofs.Text.Cut

namespace Errand
namespace Json

/-! ### Brackets -/

/-- The brackets that a value is written between, if it is an array or an object. -/
def Value.brackets? : Value → Option (Char × Char)
  | .array _ => some ('[', ']')
  | .object _ => some ('{', '}')
  | _ => none

/-- The opening brackets. -/
def opensValue (c : Char) : Bool := c == '[' || c == '{'

/-- The closing brackets. -/
def closesValue (c : Char) : Bool := c == ']' || c == '}'

/-- The text is `inside` between the brackets of the value that it spells, with blanks
around. -/
structure Enclosed (s : List Char) (v : Value) (lead inside trail : List Char) (o c : Char) :
    Prop where
  brackets : v.brackets? = some (o, c)
  lead_blank : lead.all isSpace = true
  trail_blank : trail.all isSpace = true
  eq : s = lead ++ (o :: (inside ++ c :: trail))
  reads : parseChars? (o :: (inside ++ [c])) = some v

/-- **An array or object begins and ends in its brackets.** -/
theorem enclosed_of_parseChars? {s : List Char} {v : Value} (h : parseChars? s = some v)
    (hv : v.isStructured = true) : ∃ lead inside trail o c, Enclosed s v lead inside trail o c := by
  obtain ⟨t, ⟨hlead, htrail, ht⟩, rfl⟩ := SpellsText.of_parseChars? covers_literal h
  have hreads {u : List Char} {t : Tree (List Char)} (hu : Spells Literal maxDepth u t) :
      parseChars? u = some (t.value String.ofList) := by
    have hbare : SpellsText Literal ([] ++ (u ++ [])) t := .mk rfl rfl hu
    simpa using hbare.parseChars? reads_literal
  cases ht with
  | @array depth inner inside items hinner hrow =>
    exact ⟨_, inside, _, '[', ']', rfl, hlead, htrail, by simp, hreads (.array hinner hrow)⟩
  | @object depth inner inside members hinner hrow =>
    exact ⟨_, inside, _, '{', '}', rfl, hlead, htrail, by simp, hreads (.object hinner hrow)⟩
  | _ => cases hv

/-- Only arrays and objects have brackets, each its own. -/
theorem Value.brackets?_eq_some {v : Value} {o c : Char} (h : v.brackets? = some (o, c)) :
    (o = '[' ∧ c = ']' ∧ ∃ items, v = .array items) ∨
      (o = '{' ∧ c = '}' ∧ ∃ members, v = .object members) := by
  cases v with
  | array items =>
    cases h
    exact .inl ⟨rfl, rfl, items, rfl⟩
  | object members =>
    cases h
    exact .inr ⟨rfl, rfl, members, rfl⟩
  | _ => cases h

namespace Enclosed

variable {s lead inside trail : List Char} {v : Value} {o c : Char}

theorem opens (h : Enclosed s v lead inside trail o c) : opensValue o = true := by
  rcases Value.brackets?_eq_some h.brackets with ⟨rfl, -⟩ | ⟨rfl, -⟩ <;> rfl

theorem closes (h : Enclosed s v lead inside trail o c) : closesValue c = true := by
  rcases Value.brackets?_eq_some h.brackets with ⟨-, rfl, -⟩ | ⟨-, rfl, -⟩ <;> rfl

/-- Neither bracket is a blank. -/
theorem solid (h : Enclosed s v lead inside trail o c) :
    Text.isBlank o = false ∧ Text.isBlank c = false := by
  rcases Value.brackets?_eq_some h.brackets with ⟨rfl, rfl, -⟩ | ⟨rfl, rfl, -⟩ <;> exact ⟨rfl, rfl⟩

/-- What stands between brackets is an array or an object. -/
theorem isStructured (h : Enclosed s v lead inside trail o c) : v.isStructured = true := by
  rcases Value.brackets?_eq_some h.brackets with ⟨-, -, _, rfl⟩ | ⟨-, -, _, rfl⟩ <;> rfl

/-- What stands before the bracket is blank, -/
theorem lead_isBlank (h : Enclosed s v lead inside trail o c) :
    lead.all Text.isBlank = true :=
  List.all_eq_true.2 fun x hx => isBlank_of_isSpace (List.all_eq_true.1 h.lead_blank x hx)

/-- and so is what stands behind it. -/
theorem trail_isBlank (h : Enclosed s v lead inside trail o c) :
    trail.all Text.isBlank = true :=
  List.all_eq_true.2 fun x hx => isBlank_of_isSpace (List.all_eq_true.1 h.trail_blank x hx)

/-- Blanks are no brackets. -/
theorem not_bracket_of_blank {s : List Char} (hs : s.all isSpace = true) :
    ∀ x ∈ s, opensValue x = false ∧ closesValue x = false := by
  intro x hx
  have hspace : isSpace x = true := List.all_eq_true.1 hs x hx
  simp only [isSpace, Bool.or_eq_true, decide_eq_true_eq] at hspace
  rcases hspace with ((rfl | rfl) | rfl) | rfl <;> exact ⟨rfl, rfl⟩

/-- **What stands around the value is determined by the text:** all before its first opening
bracket and all after its last closing one. -/
theorem around_eq (h : Enclosed s v lead inside trail o c) {a m b : List Char} {x y : Char}
    (hs : s = a ++ (x :: (m ++ y :: b))) (hx : opensValue x = true) (hy : closesValue y = true)
    (ha : ∀ z ∈ a, opensValue z = false) (hb : ∀ z ∈ b, closesValue z = false) :
    a = lead ∧ b = trail ∧ x = o := by
  have hlead : ∀ z ∈ lead, opensValue z = false := fun z hz =>
    (not_bracket_of_blank h.lead_blank z hz).1
  have htrail : ∀ z ∈ trail, closesValue z = false := fun z hz =>
    (not_bracket_of_blank h.trail_blank z hz).2
  obtain ⟨hal, hxo, -⟩ := Text.eq_of_append_eq ha hlead hx h.opens (hs ▸ h.eq)
  have hreverse : b.reverse ++ y :: (a ++ x :: m).reverse =
      trail.reverse ++ c :: (lead ++ o :: inside).reverse := by
    have := congrArg List.reverse (hs.symm.trans h.eq)
    simpa using this
  obtain ⟨hbt, -⟩ := Text.eq_of_append_eq (P := closesValue) (by simpa using hb)
    (by simpa using htrail) hy h.closes hreverse
  exact ⟨hal, List.reverse_injective hbt, hxo⟩

end Enclosed

/-! ### Literals and their frame -/

/-- The characters of the words, and the marks of punctuation. -/
def frameMarks : List Char := "nultrefas[]\x7b\x7d,:".toList

/-- The characters of a JSON text outside its literals. -/
def IsFrame (c : Char) : Prop := isSpace c = true ∨ IsNumeric c ∨ c ∈ frameMarks

/-- The text is made of characters of the frame and of literals between quotes. -/
inductive Woven : List Char → Prop
  | nil : Woven []
  | frame {c : Char} {u : List Char} : IsFrame c → Woven u → Woven (c :: u)
  | literal {w x u : List Char} : Literal w x → Woven u → Woven ('"' :: (w ++ '"' :: u))

theorem isFrame_of_mem {c : Char} (h : c ∈ frameMarks) : IsFrame c := .inr (.inr h)

namespace Woven

variable {u v : List Char}

/-- Woven texts may be put together. -/
theorem append (hu : Woven u) (hv : Woven v) : Woven (u ++ v) := by
  induction hu with
  | nil => exact hv
  | frame hc _ ih => exact .frame hc ih
  | literal hw _ ih =>
    rw [List.cons_append, List.append_assoc, List.cons_append]
    exact .literal hw ih

/-- Characters of the frame are woven, -/
theorem of_frame (h : ∀ c ∈ u, IsFrame c) : Woven u := by
  induction u with
  | nil => exact .nil
  | cons c u ih =>
    obtain ⟨hc, hu⟩ := List.forall_mem_cons.1 h
    exact .frame hc (ih hu)

/-- among them blanks. -/
theorem of_blanks (h : Blanks u) : Woven u :=
  of_frame fun c hc => .inl (List.all_eq_true.1 h c hc)

/-- and marks. -/
theorem of_marks (h : u.all frameMarks.contains = true) : Woven u :=
  of_frame fun c hc => isFrame_of_mem (List.contains_iff_mem.1 (List.all_eq_true.1 h c hc))

end Woven

/-- A row of woven parts is woven, -/
theorem Row.woven {β : Type} {part : List Char → β → Prop} (hpart : ∀ u x, part u x → Woven u)
    {first : Bool} {u : List Char} {xs : List β} (h : Row part first u xs) : Woven u := by
  induction h with
  | close hpad => exact .of_blanks hpad
  | head hpad hx _ ih => exact (Woven.of_blanks hpad).append ((hpart _ _ hx).append ih)
  | next hpad hpad' hx _ ih =>
    have hcomma : IsFrame ',' := isFrame_of_mem (by decide)
    exact (Woven.of_blanks hpad).append
      (.frame hcomma ((Woven.of_blanks hpad').append ((hpart _ _ hx).append ih)))

/-- and so is a member. -/
theorem Entry.woven {β : Type} {part : List Char → β → Prop} (hpart : ∀ u x, part u x → Woven u)
    {u : List Char} {m : List Char × β} (h : Entry Literal part u m) : Woven u := by
  obtain ⟨hk, hpad, hpad', hx⟩ := h
  have hcolon : IsFrame ':' := isFrame_of_mem (by decide)
  exact .literal hk ((Woven.of_blanks hpad).append
    (.frame hcolon ((Woven.of_blanks hpad').append (hpart _ _ hx))))

/-- **A tree is spelt in literals and their frame.** -/
theorem Spells.woven {depth : Nat} {u : List Char} {t : Tree (List Char)}
    (h : Spells Literal depth u t) : Woven u := by
  have bracketed {o c : Char} {u : List Char} (ho : o ∈ frameMarks) (hc : c ∈ frameMarks)
      (hu : Woven u) : Woven (o :: (u ++ [c])) :=
    .frame (isFrame_of_mem ho) (hu.append (.frame (isFrame_of_mem hc) .nil))
  induction h with
  | null | yes | no => exact .of_marks (by decide)
  | @number _ negative u n h =>
    obtain ⟨w, hw, -, hnumeric⟩ := readNumber_taken h
    rw [List.append_nil] at hw
    refine .of_frame (List.forall_mem_append.2 ⟨fun c hc => .inr (.inl ?_), fun c hc => ?_⟩)
    · rw [sign] at hc
      split at hc
      · exact .inr (by simp [List.mem_singleton.1 hc])
      · cases hc
    · exact .inr (.inl (hnumeric c (hw ▸ hc)))
  | string hu => exact .literal hu .nil
  | array _ hrow ih => exact bracketed (by decide) (by decide) (hrow.woven ih)
  | object _ hrow ih =>
    exact bracketed (by decide) (by decide) (hrow.woven fun _ _ hentry => hentry.woven ih)

/-- **A text that is accepted is woven of literals and their frame.** -/
theorem Woven.of_parseChars? {s : List Char} {v : Value} (h : parseChars? s = some v) :
    Woven s := by
  obtain ⟨t, ⟨hpad, htrail, ht⟩, -⟩ := SpellsText.of_parseChars? covers_literal h
  exact (of_blanks hpad).append (ht.woven.append (of_blanks htrail))

/-! ### Line breaks -/

/-- No escape holds a line break. -/
theorem not_isEscape_newline : ¬IsEscape '\n' := by
  rintro (h | h)
  · cases h
  · revert h
    decide

/-- No literal holds a line break. -/
theorem Literal.no_newline {u x : List Char} (h : Literal u x) : '\n' ∉ u := by
  induction h with
  | nil => exact List.not_mem_nil
  | @plain c u x hc _ ih =>
    rintro (_ | ⟨_, hmem⟩)
    · exact absurd hc.not_control (by decide)
    · exact ih hmem
  | @escape c e u x he _ ih =>
    obtain ⟨e', he', -, hescape⟩ := readEscape_taken he
    rw [List.append_nil] at he'
    rintro (_ | ⟨_, hmem⟩)
    rcases List.mem_append.1 hmem with hmem | hmem
    · exact not_isEscape_newline (hescape _ (he' ▸ hmem))
    · exact ih hmem

/-- A character that is not of the frame stands in a literal, whose closing quote follows on
the same line. -/
theorem Woven.closed {s a b : List Char} {c : Char} (hs : Woven s) (hframe : ¬IsFrame c)
    (hquote : c ≠ '"') (h : s = a ++ c :: b) : ∃ x y, b = x ++ '"' :: y ∧ '\n' ∉ x := by
  induction hs generalizing a with
  | nil => simp at h
  | @frame d u hd _ ih =>
    cases a with
    | nil =>
      obtain ⟨rfl, -⟩ := List.cons.inj h
      exact absurd hd hframe
    | cons _ a => exact ih (List.cons.inj h).2
  | @literal w x u hw _ ih =>
    cases a with
    | nil => exact absurd (List.cons.inj h).1.symm hquote
    | cons _ a =>
      have hsplit : w ++ '"' :: u = a ++ c :: b := (List.cons.inj h).2
      rcases List.append_eq_append_iff.1 hsplit with ⟨d, -, hd⟩ | ⟨d, hd, hrest⟩
      · -- The character stands after the literal, or is its closing quote.
        cases d with
        | nil => exact absurd (List.cons.inj hd).1.symm hquote
        | cons _ d => exact ih (List.cons.inj hd).2
      · cases d with
        | nil => exact absurd (List.cons.inj hrest).1 hquote
        | cons _ d =>
          obtain ⟨-, rfl⟩ := List.cons.inj hrest
          refine ⟨d, u, rfl, fun hmem => hw.no_newline ?_⟩
          rw [hd]
          exact List.mem_append_right a (List.mem_cons_of_mem _ hmem)

/-- **A text with an open literal at the end of a line is not JSON.** -/
theorem parseChars?_eq_none_of_open {a w b : List Char} {c : Char} (hframe : ¬IsFrame c)
    (hquote : c ≠ '"') (hw : '"' ∉ w) : parseChars? (a ++ c :: (w ++ '\n' :: b)) = none := by
  refine Option.eq_none_iff_forall_ne_some.2 fun v hv => ?_
  obtain ⟨x, y, hxy, hx⟩ := (Woven.of_parseChars? hv).closed hframe hquote rfl
  rcases List.append_eq_append_iff.1 hxy with ⟨d, rfl, hd⟩ | ⟨d, rfl, hd⟩
  · cases d with
    | nil => exact absurd (List.cons.inj hd).1 (by decide)
    | cons e d =>
      obtain ⟨rfl, -⟩ := List.cons.inj hd
      exact hx (by simp)
  · cases d with
    | nil => exact absurd (List.cons.inj hd).1 (by decide)
    | cons e d =>
      obtain ⟨rfl, -⟩ := List.cons.inj hd
      exact hw (by simp)

end Json
end Errand

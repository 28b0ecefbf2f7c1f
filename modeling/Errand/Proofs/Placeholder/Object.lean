/-
# Templates that are JSON objects

SPEC_FULL.md, section 4.2, step 1, on inserted text that is escaped.

A template that spells an object looks like one, as far as it matters: unless it is
empty it has a quote.  So what is put in is escaped, and the filled text spells the tree
that the template spells, with its literals filled (`substitute_object`).
-/

import Errand.Proofs.Placeholder.Filling

namespace Errand

open Json (Blanks Literal SpellsText Members)

namespace Placeholder

variable {rules : SubstitutionRules} {b : Bindings}

/-- What a literal decodes to, its placeholders standing for themselves. -/
def verbatim (ps : List Segment) : String := .ofList (ps.flatMap Segment.spelling)

/-- What a piece stands for: a placeholder that resolves for its text, and anything else for
itself. -/
def standsFor (rules : SubstitutionRules) (b : Bindings) : Segment → List Char
  | .plain c => [c]
  | .slot spelling none => spelling
  | .slot spelling (some ref) =>
    match resolve? rules b ref with
    | some text => text.toList
    | none => spelling

/-- What a literal decodes to when every placeholder that resolves stands for its text. -/
def filled (rules : SubstitutionRules) (b : Bindings) (ps : List Segment) : String :=
  .ofList (ps.flatMap (standsFor rules b))

/-- Without an escape, a piece is replaced by what it stands for. -/
theorem fillSegment_false : fillSegment rules b false = standsFor rules b := by
  funext piece
  cases piece with
  | plain c => rfl
  | slot spelling ref => cases ref <;> rfl

/-- The inside of a literal that the pieces make when their placeholders are filled. -/
inductive FilledPieces (rules : SubstitutionRules) (b : Bindings) (escape : Bool) :
    List Char → List Segment → Prop
  | mk {u : List Char} {ps : List Segment} : Pieces u ps → Fits rules b escape ps →
      FilledPieces rules b escape (fillChars rules b escape u) ps

/-- A literal in pieces is read as they are spelt, -/
theorem reads_verbatim : Json.Reads Pieces verbatim := fun _ _ h _ => h.literal.readString

/-- and every literal is in pieces. -/
theorem covers_verbatim : Json.Covers Pieces verbatim := by
  intro s x r h
  obtain ⟨u, y, rfl, hu, rfl⟩ := Literal.of_readString h
  obtain ⟨ps, hps, rfl⟩ := Pieces.of_literal hu
  exact ⟨u, ps, rfl, hps, rfl⟩

/-- Filled pieces are read as what they stand for. -/
theorem reads_filled (escape : Bool) :
    Json.Reads (FilledPieces rules b escape) (filled rules b) := by
  rintro _ ps ⟨h, hfits⟩ r
  rw [filled, ← fillSegment_false]
  exact (h.fill hfits).readString

/-- A text that opens with a brace and has a quote looks like an object. -/
theorem looksLikeObject_eq_true {pad s : List Char} (hpad : Blanks pad) (hquote : '"' ∈ s) :
    looksLikeObject (.ofList (pad ++ '{' :: s)) = true := by
  have hblank : pad.all Text.isBlank = true := List.all_eq_true.2 fun c hc =>
    Json.isBlank_of_isSpace (List.all_eq_true.1 hpad c hc)
  have hopen : (Text.trimStartChars (pad ++ '{' :: s)).head? = some '{' := by
    rw [Text.trimStartChars_blank_append hblank]
    rfl
  simp [looksLikeObject, hopen, hquote]

/-- What is put into a text that spells an object is escaped, if anything is put in. -/
theorem fillChars_object {α : Type} {lit : List Char → α → Prop} {s : List Char}
    {members : List (α × Json.Tree α)} (h : SpellsText lit s (.object members)) :
    fillChars rules b (looksLikeObject (.ofList s)) s = fillChars rules b true s := by
  obtain @⟨pad, u, trail, _, hpad, htrail, hobject⟩ := h
  cases hobject with
  | @object _ _ inner _ _ hrow =>
    have hopens := row_opens hrow
    cases hrow with
    | close hinner =>
      -- There is no placeholder in an empty object.
      have hfills (escape : Bool) : Fills rules b escape
          (pad ++ ('{' :: (inner ++ ['\x7d']) ++ trail))
          (pad ++ ('{' :: (inner ++ ['\x7d']) ++ trail)) := by
        have hclose : Fills rules b escape ['\x7d'] ['\x7d'] := .of_no_brace (by simp)
        have hbody := (Fills.blanks hinner).append hclose
        exact (Fills.blanks hpad).append ((hbody.brace hopens).append (.blanks htrail))
      rw [(hfills _).eq, (hfills _).eq]
    | head _ hentry _ =>
      obtain ⟨_, _, _, _⟩ := hentry
      rw [List.cons_append, looksLikeObject_eq_true hpad (by simp)]

/-- **Filling a template that is a JSON object.**  The template spells a tree whose literals
are in pieces.  For every such tree, the value of the template is that of the tree with its
placeholders as they are spelt, and the filled text is JSON again: its value is that of the
same tree with every placeholder that resolves replaced by its text, character by character.
Numbers, truth values, nulls, the lengths of arrays and the nesting belong to the tree, and
so does the order of members, of which the later wins where two keys become equal. -/
theorem substitute_object (rules : SubstitutionRules) (b : Bindings) (template : String)
    (ms : Members) (h : Json.parse? template = some (.object ms)) :
    (∃ tree, SpellsText Pieces template.toList tree) ∧
      ∀ tree, SpellsText Pieces template.toList tree →
        tree.value verbatim = .object ms ∧
          Json.parse? (substitute rules b template) = some (tree.value (filled rules b)) := by
  obtain ⟨tree, htree, -⟩ := SpellsText.of_parseChars? covers_verbatim h
  refine ⟨⟨tree, htree⟩, fun tree htree => ?_⟩
  have hvalue := (SpellsText.parseChars? reads_verbatim htree).symm.trans h
  obtain hvalue : tree.value verbatim = .object ms := Option.some.inj hvalue
  refine ⟨hvalue, ?_⟩
  cases tree with
  | object members =>
    have hfilled : SpellsText (FilledPieces rules b true)
        (fillChars rules b true template.toList) (.object members) :=
      spellsText_fill (fun _ ps hps => .mk hps (fits_escaped ps)) htree
    have hlooks := @fillChars_object rules b _ _ _ _ htree
    rw [String.ofList_toList] at hlooks
    rw [Json.parse?, substitute_eq, hlooks, String.toList_ofList]
    exact SpellsText.parseChars? (reads_filled true) hfilled
  | _ => cases hvalue

namespace Letter

/-- A letter to a name. -/
def template : String := "\x7b\"text\": \"Dear \x7bname\x7d\", \"copies\": [2]\x7d"

/-- A name in quotes. -/
def bindings : Bindings := Bindings.empty.set "name" (.string "\"Ann\"\n")

end Letter

/-- The hypothesis of `substitute_object` is satisfiable: the letter is an object, and so it is
with the name put in, whose quotes end no literal. -/
theorem substitute_object_letter :
    Json.parse? Letter.template = some (.object [("copies", .array [.number (.int 2)]),
        ("text", .string "Dear \x7bname\x7d")]) ∧
      (∃ tree, SpellsText Pieces Letter.template.toList tree) ∧
        ∀ tree, SpellsText Pieces Letter.template.toList tree →
          tree.value verbatim = .object [("copies", .array [.number (.int 2)]),
              ("text", .string "Dear \x7bname\x7d")] ∧
            tree.value (filled {} Letter.bindings) = .object [
              ("copies", .array [.number (.int 2)]), ("text", .string "Dear \"Ann\"\n")] ∧
            Json.parse? (substitute {} Letter.bindings Letter.template) =
              some (tree.value (filled {} Letter.bindings)) := by
  have h : Json.parse? Letter.template = some (.object [("copies", .array [.number (.int 2)]),
      ("text", .string "Dear \x7bname\x7d")]) := rfl
  have hfilled : Json.parse? (substitute {} Letter.bindings Letter.template) =
      some (.object [("copies", .array [.number (.int 2)]),
        ("text", .string "Dear \"Ann\"\n")]) := rfl
  obtain ⟨hspelled, hall⟩ := substitute_object {} Letter.bindings Letter.template _ h
  refine ⟨h, hspelled, fun tree htree => ?_⟩
  obtain ⟨hverbatim, hparse⟩ := hall tree htree
  exact ⟨hverbatim, Option.some.inj (hparse.symm.trans hfilled), hparse⟩

end Placeholder
end Errand

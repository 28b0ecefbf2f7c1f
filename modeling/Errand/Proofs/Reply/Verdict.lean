/-
# Verdicts in plain words

SPEC_FULL.md, section 2, item 10, on completion verdicts.

A checker may answer in words.  Of a text whose first word says yes or no the verdict is
what that word says (`wordVerdict?_of_opensWith`), but the text is searched for JSON first.

A text without braces and backticks can only yield what stands between its outermost square
brackets (`extract?_unbraced`), and between these can stand an array or nothing
(`exists_array_of_brackets`).  An array has no field for a verdict, and the words around it
are not looked at any more.  So the first word decides exactly if no array is found
(`verdict?_ofReply_iff`): brackets, digits and quotes after it do no harm by themselves, but
the number of a footnote takes the verdict away (`verdict?_footnote`).
-/

import Errand.Proofs.Reply.Wrapped
import Errand.Function

namespace Errand
namespace Reply

open Json (Value)

variable {s : List Char} {text word : String} {b : Bool}

/-! ### The first word -/

/-- The first run of letters and digits in the text is the word, whatever its case. -/
def OpensWith (s : List Char) (word : String) : Prop :=
  ∃ lead first rest, s = lead ++ (first ++ rest) ∧ lead.all (!·.isAlphanum) = true ∧
    first ≠ [] ∧ first.all Char.isAlphanum = true ∧ rest.head?.all (!·.isAlphanum) = true ∧
      first.map Char.toLower = word.toList

/-- A text that opens with a word has it, in whatever case, as its first. -/
theorem map_toLower_firstWord (h : OpensWith s word) :
    (firstWord s).map Char.toLower = word.toList := by
  obtain ⟨lead, first, rest, rfl, hlead, hne, hfirst, hrest, hword⟩ := h
  obtain ⟨c, cs, rfl⟩ := List.exists_cons_of_ne_nil hne
  have hfirst := List.all_eq_true.1 hfirst
  have hc : c.isAlphanum = true := hfirst c List.mem_cons_self
  have hskip : (lead ++ (c :: cs ++ rest)).dropWhile (fun x => !x.isAlphanum) =
      c :: cs ++ rest := by
    rw [List.dropWhile_append_of_pos (List.all_eq_true.1 hlead), List.cons_append,
      List.dropWhile_cons_of_neg (by simp [hc])]
  have hend : rest.takeWhile Char.isAlphanum = [] := by
    cases rest with
    | nil => rfl
    | cons x rest =>
      have hx : x.isAlphanum = false := by simpa using hrest
      rw [List.takeWhile_cons_of_neg (by simp [hx])]
  rw [firstWord, hskip, List.takeWhile_append_of_pos hfirst, hend, List.append_nil, hword]

/-- **A text that opens with a word of a verdict gives that verdict.** -/
theorem wordVerdict?_of_opensWith (h : OpensWith text.toList word)
    (hword : (word, b) ∈ verdictWords) : wordVerdict? text = some b := by
  have heach : ∀ entry ∈ verdictWords,
      (verdictWords.find? (·.1.toList == entry.1.toList)).map (·.2) = some entry.2 := by decide
  rw [wordVerdict?, map_toLower_firstWord h]
  exact heach (word, b) hword

/-! ### Arrays in a text -/

/-- The text holds no brace and no backtick. -/
def Unbraced (s : List Char) : Prop := ∀ x ∈ ['{', '}', tick], x ∉ s

instance : DecidablePred Unbraced := fun s => List.decidableBAll (fun x => x ∉ s) _

/-- From its first opening bracket to its last closing one the text spells an array. -/
def HoldsArray (s : List Char) : Prop :=
  ∃ before inside after items, s = before ++ '[' :: (inside ++ ']' :: after) ∧
    '[' ∉ before ∧ ']' ∉ after ∧ Json.parseChars? ('[' :: (inside ++ [']'])) = some (.array items)

/-- What stands between square brackets is an array. -/
theorem exists_array_of_brackets {m : List Char} {v : Value}
    (h : Json.parseChars? ('[' :: (m ++ [']'])) = some v) : ∃ items, v = .array items := by
  obtain ⟨_, hbrackets⟩ := brackets?_of_opening (.inl rfl) rfl h
  rcases Value.brackets?_eq_some hbrackets with ⟨-, -, harray⟩ | ⟨hopening, -⟩
  · exact harray
  · cases hopening

/-- **Without braces and backticks,** a text yields what stands between its outermost
brackets. -/
theorem extract?_unbraced (h : Unbraced text.toList) :
    extract? text = (span? '[' ']' text.toList).bind Json.parseChars? := by
  have htrimmed : Unbraced (Text.trimChars text.toList) := fun x hx hmem =>
    h x hx ((Text.trimChars_infix text.toList).subset hmem)
  have hfence : ¬fence <:+: Text.trimChars text.toList := fun hcopy =>
    htrimmed tick (by simp) (hcopy.subset (by simp [fence_eq]))
  have hfenced : fencedValue? (Text.trimChars text.toList) = none := by
    rw [fencedValue?, fenced_eq_nil hfence, List.findSome?_nil]
  have houtermost : outermost? (Text.trimChars text.toList) = span? '[' ']' text.toList := by
    rw [outermost?_trimChars, outermost?, span?_of_unopened (h '{' (by simp)), Option.none_or]
  rw [extract?, extractChars?_eq, hfenced, ← houtermost, Option.none_or]
  cases hwhole : (Json.parseChars? (Text.trimChars text.toList)).filter Value.isStructured with
  | none => rfl
  | some v =>
    -- The whole text is an array, and what its outermost brackets span is that array.
    obtain ⟨hread, hstructured⟩ := Option.filter_eq_some_iff.1 hwhole
    obtain ⟨_, _, _, _, _, henclosed⟩ := Json.enclosed_of_parseChars? hread hstructured
    have hbraces : ¬Bracketed '{' '}' (Text.trimChars text.toList) := by
      rintro ⟨a, m, b, hsplit⟩
      exact htrimmed '{' (by simp) (by simp [hsplit])
    rw [(outermost?_reads_iff henclosed).2 (.inr hbraces), Option.some_or]

/-- What is found in such a text is an array. -/
theorem exists_array_of_unbraced (h : Unbraced text.toList) {v : Value}
    (hv : extract? text = some v) : ∃ items, v = .array items := by
  rw [extract?_unbraced h] at hv
  obtain ⟨t, ht, hread⟩ := Option.bind_eq_some_iff.1 hv
  obtain ⟨_, m, _, -, rfl⟩ := span?_eq_some ht
  exact exists_array_of_brackets hread

/-- **The array that such a text holds is found.** -/
theorem holdsArray_iff (h : Unbraced text.toList) :
    HoldsArray text.toList ↔ ∃ items, extract? text = some (.array items) := by
  rw [extract?_unbraced h]
  constructor
  · rintro ⟨before, inside, after, items, hsplit, hbefore, hafter, hread⟩
    exact ⟨items, by rw [hsplit, span?_bracketed hbefore hafter, Option.bind_some, hread]⟩
  · rintro ⟨items, hspan⟩
    rcases span_cases '[' ']' text.toList with hs | ⟨a, r, hs, ha, hr⟩ | ⟨a, m, b, hs, ha, hb⟩
    · rw [span?_of_unopened hs] at hspan
      cases hspan
    · rw [hs, span?_of_unclosed ha hr] at hspan
      cases hspan
    · rw [hs, span?_bracketed ha hb, Option.bind_some] at hspan
      exact ⟨a, m, b, items, hs, ha, hb, hspan⟩

/-! ### Verdicts -/

/-- **A verdict in plain words.**  Of a reply without braces and backticks that opens with a
word of a verdict, the verdict is the one that the word gives, exactly if no array stands in
the reply; if one does, there is none. -/
theorem verdict?_ofReply_iff (hplain : Unbraced text.toList) (hopens : OpensWith text.toList word)
    (hword : (word, b) ∈ verdictWords) :
    (verdict? (FunctionOutput.ofReply text).content = some b ↔ ¬HoldsArray text.toList) ∧
      (HoldsArray text.toList → verdict? (FunctionOutput.ofReply text).content = none) := by
  rw [holdsArray_iff hplain]
  cases hfound : extract? text with
  | none =>
    have hcontent : (FunctionOutput.ofReply text).content = .string text := by
      rw [FunctionOutput.ofReply, hfound]
      rfl
    have hverdict : verdict? (.string text) = some b := by
      simp only [verdict?, structured?, hfound]
      exact wordVerdict?_of_opensWith hopens hword
    rw [hcontent, hverdict]
    simp
  | some v =>
    obtain ⟨items, rfl⟩ := exists_array_of_unbraced hplain hfound
    have hnone : verdict? (FunctionOutput.ofReply text).content = none := by
      rw [FunctionOutput.ofReply, hfound]
      rfl
    rw [hnone]
    simp

/-- Brackets, digits and quotes that spell no array leave the verdict to the first word. -/
theorem verdict?_ofReply_iff_open :
    let text := "- No: items [see 3] are still \"open\"."
    Unbraced text.toList ∧ OpensWith text.toList "no" ∧ ¬HoldsArray text.toList ∧
      verdict? (FunctionOutput.ofReply text).content = some false := by
  intro text
  have hplain : Unbraced text.toList := by decide +kernel
  have hopens : OpensWith text.toList "no" := by
    refine ⟨['-', ' '], ['N', 'o'], ": items [see 3] are still \"open\".".toList, ?_⟩
    decide +kernel
  have hnone : extract? text = none := by decide +kernel
  have hnot : ¬HoldsArray text.toList := by
    rw [holdsArray_iff hplain, hnone]
    simp
  exact ⟨hplain, hopens, hnot, (verdict?_ofReply_iff hplain hopens (by decide)).1.2 hnot⟩

/-- **A footnote takes the verdict away:** its number in brackets is an array. -/
theorem verdict?_footnote :
    Unbraced "Yes [1]".toList ∧ OpensWith "Yes [1]".toList "yes" ∧ ("yes", true) ∈ verdictWords ∧
      verdict? (FunctionOutput.ofReply "Yes [1]").content = none := by
  refine ⟨by decide +kernel, ?_, by decide, by decide +kernel⟩
  refine ⟨[], ['Y', 'e', 's'], " [1]".toList, ?_⟩
  decide +kernel

end Reply
end Errand

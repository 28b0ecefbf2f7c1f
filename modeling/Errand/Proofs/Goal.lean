/-
# Keywords in an observation

SPEC_FULL.md, section 4.5 (ReAct), step 5, on keywords.

The observation and the keywords are put into lower case one by one before they are compared,
and only then is the one searched for the others (`isMentioned_iff`).  That goes well as long as
a keyword is lower-cased in the observation as it is alone, which only a capital sigma can
prevent: `Errand.Proofs.Text.Sigma` says for which texts none does.

So a keyword is found wherever it stands, and stays found whatever text is added, exactly if it
settles the form of its own sigmas (`isMentioned_literal_iff`).  The keywords that are looked for
by default have no sigmas at all.  A keyword that ends in one is lost as soon as its word goes on
(`not_isMentioned_continued`).
-/

import Errand.Goal
import Errand.Proofs.Text.Sigma

namespace Errand
namespace Goal

open Text (lower lowerFrom)

variable {observation keyword : String} {keywords : List String}

theorem toList_lower (s : String) : (lower s).toList = lowerFrom [] s.toList := by
  rw [lower, String.toList_ofList]

/-- **What is mentioned:** a keyword whose lower-case form is part of that of the observation. -/
theorem isMentioned_iff : isMentioned observation keywords = true ↔
    ∃ k ∈ keywords, lowerFrom [] k.toList <:+: lowerFrom [] observation.toList := by
  simp only [isMentioned, List.any_eq_true, Text.contains_iff_infix, toList_lower]

/-- A keyword that is found is found by every list that has it. -/
theorem isMentioned_of_mem (hk : keyword ∈ keywords)
    (h : isMentioned observation [keyword] = true) : isMentioned observation keywords = true := by
  obtain ⟨k, hmem, hfound⟩ := isMentioned_iff.1 h
  exact isMentioned_iff.2 ⟨k, List.mem_singleton.1 hmem ▸ hk, hfound⟩

/-- One keyword is mentioned exactly if its lower case stands in that of the observation. -/
theorem isMentioned_singleton_iff : isMentioned observation [keyword] = true ↔
    lowerFrom [] keyword.toList <:+: lowerFrom [] observation.toList := by
  simp [isMentioned_iff]

theorem toList_amid (before s after : String) :
    (before ++ s ++ after).toList = before.toList ++ (s.toList ++ after.toList) := by
  simp

/-- **Text that is added takes nothing away,** if the keywords are firm. -/
theorem isMentioned_amid (hfirm : ∀ k ∈ keywords, Text.IsFirm (lower k).toList)
    (h : isMentioned observation keywords = true) (before after : String) :
    isMentioned (before ++ observation ++ after) keywords = true := by
  obtain ⟨k, hk, hfound⟩ := isMentioned_iff.1 h
  have hkfirm := hfirm k hk
  rw [toList_lower] at hkfirm
  refine isMentioned_iff.2 ⟨k, hk, ?_⟩
  rw [toList_amid]
  exact hkfirm.infix_amid hfound _ _

/-- The keywords looked for by default are firm, as they have no sigmas. -/
example : ∀ k ∈ defaultKeywords, Text.IsFirm (lower k).toList := by
  have hnone : ∀ k ∈ defaultKeywords,
      Text.finalSigma ∉ (lower k).toList ∧ Text.plainSigma ∉ (lower k).toList := by decide +kernel
  exact fun k hk => Text.isFirm_of_not_mem (hnone k hk).1 (hnone k hk).2

/-- **When a keyword is found.**  A copy of it in the observation is, if its sigmas have there
the forms that they have in the keyword alone.  Every copy in every observation is, exactly if
the keyword decides the form of its sigmas; and whatever is taken for a copy, in whatever case,
remains one when text is added before or after, exactly if its lower-case form is firm. -/
theorem isMentioned_literal_iff (keyword : String) :
    (∀ (before after : String) (keywords : List String), keyword ∈ keywords →
      Text.KeepsSigmas before.toList keyword.toList after.toList →
        isMentioned (before ++ keyword ++ after) keywords = true) ∧
      ((∀ (observation : String) (keywords : List String), keyword ∈ keywords →
        keyword.toList <:+: observation.toList → isMentioned observation keywords = true) ↔
          Text.DecidesSigmas keyword.toList) ∧
      ((∀ (before observation after : String) (keywords : List String), keyword ∈ keywords →
        isMentioned observation [keyword] = true →
          isMentioned (before ++ observation ++ after) keywords = true) ↔
            Text.IsFirm (lower keyword).toList) := by
  refine ⟨fun before after keywords hk hkeeps => ?_, ⟨fun h => ?_, fun h => ?_⟩, fun h => ?_,
    fun h => ?_⟩
  · refine isMentioned_iff.2 ⟨keyword, hk, ?_⟩
    rw [toList_amid, ← Text.map_fill_eq_iff_keepsSigmas.2 hkeeps]
    exact Text.infix_lowerFrom_amid ..
  · refine Text.decidesSigmas_iff.2 fun a b => ?_
    have hfound := h (.ofList (a ++ (keyword.toList ++ b))) [keyword] List.mem_cons_self
    rw [isMentioned_singleton_iff, String.toList_ofList] at hfound
    exact hfound ⟨a, b, List.append_assoc ..⟩
  · rintro observation keywords hk ⟨a, b, hcopy⟩
    refine isMentioned_iff.2 ⟨keyword, hk, ?_⟩
    rw [← hcopy, List.append_assoc]
    exact Text.decidesSigmas_iff.1 h a b
  · rw [toList_lower]
    refine (Text.isFirm_iff fun c => Text.isLower_of_mem_lowerFrom).2 fun s a b hfound => ?_
    have hlater := h (.ofList a) (.ofList s) (.ofList b) [keyword] List.mem_cons_self
    rw [isMentioned_singleton_iff, isMentioned_singleton_iff, toList_amid] at hlater
    simp only [String.toList_ofList] at hlater
    exact hlater hfound
  · intro before observation after keywords hk hfound
    have hfirm : ∀ k ∈ [keyword], Text.IsFirm (lower k).toList := by simpa using h
    exact isMentioned_of_mem hk (isMentioned_amid hfirm hfound before after)

/-- A sigma that ends a word within the keyword is no matter of what follows. -/
theorem isMentioned_literal_iff_exclaimed :
    Text.DecidesSigmas "ΤΕΛΟΣ!".toList ∧ "ΤΕΛΟΣ!".toList <:+: "ΟΛΑ:ΤΕΛΟΣ!ΝΑΙ".toList ∧
      isMentioned "ΟΛΑ:ΤΕΛΟΣ!ΝΑΙ" ["ΤΕΛΟΣ!"] = true := by
  have hdecides : Text.DecidesSigmas "ΤΕΛΟΣ!".toList := by decide +kernel
  have hcopy : "ΤΕΛΟΣ!".toList <:+: "ΟΛΑ:ΤΕΛΟΣ!ΝΑΙ".toList :=
    ⟨"ΟΛΑ:".toList, "ΝΑΙ".toList, by decide +kernel⟩
  exact ⟨hdecides, hcopy,
    (isMentioned_literal_iff _).2.1.2 hdecides _ ["ΤΕΛΟΣ!"] List.mem_cons_self hcopy⟩

/-- **A keyword is lost when its word goes on:** its last sigma then has another form. -/
theorem not_isMentioned_continued :
    "ΤΕΛΟΣ".toList <:+: "ΤΕΛΟΣ.ΟΛΑ ΕΤΟΙΜΑ".toList ∧ isMentioned "ΤΕΛΟΣ" ["ΤΕΛΟΣ"] = true ∧
      isMentioned ("ΤΕΛΟΣ" ++ ".ΟΛΑ ΕΤΟΙΜΑ") ["ΤΕΛΟΣ"] = false := by
  refine ⟨⟨[], ".ΟΛΑ ΕΤΟΙΜΑ".toList, by decide +kernel⟩, by decide +kernel, by decide +kernel⟩

end Goal
end Errand

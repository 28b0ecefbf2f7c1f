/-
# JSON texts and the blanks around them

JSON has four blanks of its own around tokens.  They may stand around a text that
spells a value, and no other blank may (`parseChars?_blanks_around`).

A text that spells a string is that string between quotes, with blanks around, and
escapes only shorten it.  Therefore no text spells the string that remains of it when
it is trimmed (`parseChars?_ne_trimmed`).
-/

import Errand.Proofs.Json.Taken
import Errand.Text.Blank

namespace Errand
namespace Json

/-! ### The blanks of JSON among all blanks -/

/-- The four blanks of JSON are blanks. -/
theorem isBlank_of_isSpace {c : Char} (h : isSpace c = true) : Text.isBlank c = true := by
  simp only [isSpace, Bool.or_eq_true, decide_eq_true_eq] at h
  rcases h with ((rfl | rfl) | rfl) | rfl <;> rfl

/-- No blank is a digit. -/
theorem isDigit_of_isBlank {c : Char} (h : Text.isBlank c = true) : c.isDigit = false := by
  rw [Bool.eq_false_iff]
  intro hd
  simp only [Text.isBlank, Bool.or_eq_true, Bool.and_eq_true, decide_eq_true_eq,
    beq_iff_eq] at h
  simp only [Char.isDigit, Bool.and_eq_true, decide_eq_true_eq, UInt32.le_iff_toNat_le,
    ge_iff_le] at hd
  change 48 ≤ c.toNat ∧ c.toNat ≤ 57 at hd
  omega

/-- Blanks end a number. -/
theorem stops_of_blank {t : List Char} (h : t.all Text.isBlank = true) : Stops t := by
  intro c hc
  have hb : Text.isBlank c = true := List.all_eq_true.1 h c (List.mem_of_mem_head? hc)
  refine ⟨isDigit_of_isBlank hb, ?_, ?_, ?_⟩ <;> rintro rfl <;> cases hb

/-- Blanks in front are skipped. -/
theorem skipSpace_append_of_all {s t : List Char} (h : s.all isSpace = true) :
    skipSpace (s ++ t) = skipSpace t :=
  List.dropWhile_append_of_pos (List.all_eq_true.1 h)

/-- All of a text is skipped exactly if it is blank. -/
theorem skipSpace_eq_nil_iff {s : List Char} : skipSpace s = [] ↔ s.all isSpace = true := by
  rw [skipSpace, List.dropWhile_eq_nil_iff, List.all_eq_true]

/-- A value is read the same behind whatever blanks. -/
theorem readValue_congr {depth : Nat} {s u : List Char} (h : skipSpace s = skipSpace u) :
    readValue depth s = readValue depth u := by
  rw [readValue, readValue, h]

/-- A text is a value if one can be read from it and only blanks are left. -/
theorem parseChars?_eq_some {s : List Char} {v : Value} :
    parseChars? s = some v ↔
      ∃ r, readValue maxDepth s = .ok (v, r) ∧ r.all isSpace = true := by
  unfold parseChars? parseChars readWhole
  constructor
  · intro h
    split at h
    · cases h
    · next a r hv =>
      split at h
      · next hr =>
        cases h
        exact ⟨r, hv, skipSpace_eq_nil_iff.1 hr⟩
      · cases h
  · rintro ⟨r, hv, hr⟩
    rw [hv]
    dsimp only
    rw [skipSpace_eq_nil_iff.2 hr]
    rfl

/-- JSON's own blanks may stand before a text. -/
theorem parseChars?_space_append {s : List Char} (h : s.all isSpace = true) (t : List Char) :
    parseChars? (s ++ t) = parseChars? t := by
  unfold parseChars? parseChars readWhole
  rw [readValue_congr (skipSpace_append_of_all h)]

/-- No value starts with a blank. -/
theorem readValue_of_blank {depth : Nat} {s u : List Char} {c : Char} (hs : skipSpace s = c :: u)
    (hc : Text.isBlank c = true) : readValue depth s = failAt .expectedValue (c :: u) := by
  rw [readValue, hs]
  split
  case h_9 =>
    next heq =>
      cases heq
      rw [if_neg (by rw [isDigit_of_isBlank hc]; exact Bool.false_ne_true)]
  all_goals
    next heq =>
      cases heq <;> cases hc

/-- **Blanks around a value.**  JSON's own may stand around a text that spells a value,
and no others. -/
theorem parseChars?_blanks_around {lead s trail : List Char} {v : Value}
    (hl : lead.all Text.isBlank = true) (ht : trail.all Text.isBlank = true)
    (hs : parseChars? s = some v) :
    parseChars? (lead ++ s ++ trail) =
      if (lead ++ trail).all isSpace = true then some v else none := by
  simp only [List.append_assoc, List.all_append, Bool.and_eq_true]
  cases hlead : skipSpace lead with
  | cons c u =>
    have hc : c ∈ lead := List.dropWhile_subset _ (by rw [← skipSpace, hlead]; simp)
    have hnot : ¬lead.all isSpace = true := by
      rw [← skipSpace_eq_nil_iff, hlead]
      exact List.cons_ne_nil c u
    have hfail : readValue maxDepth (lead ++ (s ++ trail)) = _ :=
      readValue_of_blank (skipSpace_append hlead) (List.all_eq_true.1 hl c hc)
    rw [if_neg fun h => hnot h.1, parseChars?, parseChars, readWhole, hfail]
    rfl
  | nil =>
    have hlead := skipSpace_eq_nil_iff.1 hlead
    obtain ⟨r, hr, hspace⟩ := parseChars?_eq_some.1 hs
    have hread := readValue_extends (stops_of_blank ht) maxDepth hr
    rw [parseChars?_space_append hlead]
    split
    · next h => exact parseChars?_eq_some.2 ⟨_, hread, by rw [List.all_append, hspace, h.2]; rfl⟩
    · next h =>
      refine Option.eq_none_iff_forall_ne_some.2 fun w hw => ?_
      obtain ⟨r', hr', hspace'⟩ := parseChars?_eq_some.1 hw
      cases hread.symm.trans hr'
      rw [List.all_append, Bool.and_eq_true] at hspace'
      exact h ⟨hlead, hspace'.2⟩

/-! ### Strings and their quotes -/

section Strings

variable {s r : List Char}

/-- What is read up to a closing quote is no longer than what spells it: an escape takes
more than the one character that it stands for. -/
theorem readStringFrom_eq_ok {n : Nat} {acc : List Char} {x : String}
    (h : readStringFrom n acc s = .ok (x, r)) :
    ∃ body, s = body ++ '"' :: r ∧ x.length ≤ acc.length + body.length := by
  induction n generalizing acc s with
  | zero => cases h
  | succ n ih =>
    cases s with
    | nil => cases h
    | cons c s =>
      unfold readStringFrom at h
      split_ifs at h with hquote hback hctrl
      · cases h
        exact ⟨[], by rw [hquote]; rfl, by simp⟩
      · split at h
        · cases h
        · next d u hesc =>
          obtain ⟨skipped, rfl, -⟩ := readEscape_taken hesc
          obtain ⟨body, rfl, hlen⟩ := ih h
          refine ⟨c :: (skipped ++ body), by simp, ?_⟩
          simp only [List.length_cons, List.length_append] at hlen ⊢
          omega
      · cases h
      · obtain ⟨body, rfl, hlen⟩ := ih h
        refine ⟨c :: body, rfl, ?_⟩
        simp only [List.length_cons] at hlen ⊢
        omega

end Strings

/-- A literal has its one value. -/
theorem readLiteral_eq_ok {α : Type} {value a : α} {cs s r : List Char}
    (h : readLiteral value cs s = .ok (a, r)) : a = value := by
  induction cs generalizing s with
  | nil =>
    cases h
    rfl
  | cons c cs ih =>
    cases s with
    | nil => cases h
    | cons d s =>
      unfold readLiteral at h
      split at h
      · exact ih h
      · cases h

/-- What a reader gives is passed on through the function. -/
theorem Reader.map_eq_ok {α β : Type} {f : α → β} {reader : Reader α} {s r : List Char} {b : β} :
    Reader.map f reader s = .ok (b, r) ↔ ∃ a, reader s = .ok (a, r) ∧ f a = b := by
  unfold Reader.map
  constructor
  · intro h
    split at h
    · cases h
    · next ha =>
      cases h
      exact ⟨_, ha, rfl⟩
  · rintro ⟨a, ha, rfl⟩
    rw [ha]

/-- A value that is a string was read from between quotes. -/
theorem readValue_eq_string {depth : Nat} {s r : List Char} {x : String}
    (h : readValue depth s = .ok (.string x, r)) :
    ∃ u, skipSpace s = '"' :: u ∧ readString u = .ok (x, r) := by
  unfold readValue at h
  split at h
  · cases h
  · cases readLiteral_eq_ok h
  · cases readLiteral_eq_ok h
  · cases readLiteral_eq_ok h
  · next u hs =>
    obtain ⟨x', hx, heq⟩ := Reader.map_eq_ok.1 h
    cases heq
    exact ⟨u, hs, hx⟩
  · split at h
    · cases h
    · obtain ⟨_, -, heq⟩ := Reader.map_eq_ok.1 h
      cases heq
  · split at h
    · cases h
    · obtain ⟨_, -, heq⟩ := Reader.map_eq_ok.1 h
      cases heq
  · obtain ⟨_, -, heq⟩ := Reader.map_eq_ok.1 h
    cases heq
  · split at h
    · obtain ⟨_, -, heq⟩ := Reader.map_eq_ok.1 h
      cases heq
    · cases h

/-- A value read from a text that starts like an array or an object is one. -/
theorem readValue_isStructured {depth : Nat} {c : Char} {s r : List Char} {v : Value}
    (hc : c = '[' ∨ c = '{') (h : readValue depth (c :: s) = .ok (v, r)) :
    v.isStructured = true := by
  cases depth with
  | zero => rcases hc with rfl | rfl <;> cases h
  | succ depth =>
    rcases hc with rfl | rfl
    · have h : Reader.map Value.array (readItems (readValue depth) _ true) s = .ok (v, r) := h
      obtain ⟨_, -, rfl⟩ := Reader.map_eq_ok.1 h
      rfl
    · have h : Reader.map Value.ofPairs (readMembers (readValue depth) _ true) s = .ok (v, r) := h
      obtain ⟨_, -, rfl⟩ := Reader.map_eq_ok.1 h
      rfl

/-- **No text spells the string that remains of it when it is trimmed:** the quotes would
remain as well. -/
theorem parseChars?_ne_trimmed {s : List Char} {x : String}
    (h : parseChars? s = some (.string x)) : x.toList ≠ Text.trimChars s := by
  obtain ⟨r, hv, hr⟩ := parseChars?_eq_some.1 h
  obtain ⟨u, hs, hx⟩ := readValue_eq_string hv
  obtain ⟨body, rfl, hlen⟩ := readStringFrom_eq_ok hx
  have blank {t : List Char} (ht : t.all isSpace = true) : t.all Text.isBlank = true :=
    List.all_eq_true.2 fun c hc => isBlank_of_isSpace (List.all_eq_true.1 ht c hc)
  have hsplit : s = s.takeWhile isSpace ++ ('"' :: body ++ ['"']) ++ r := calc
    s = s.takeWhile isSpace ++ skipSpace s := List.takeWhile_append_dropWhile.symm
    _ = s.takeWhile isSpace ++ ('"' :: body ++ ['"']) ++ r := by simp [hs]
  have hsolid : Text.trimChars ('"' :: body ++ ['"']) = '"' :: body ++ ['"'] := by
    refine Text.trimChars_of_solid ?_ ?_
    · rintro c ⟨⟩
      rfl
    · intro c hc
      rw [List.getLast?_append] at hc
      cases hc
      rfl
  intro heq
  rw [hsplit, Text.trimChars_blanks_around (blank List.all_takeWhile) (blank hr), hsolid] at heq
  have := congrArg List.length heq
  simp only [String.length_toList, List.length_append, List.length_cons,
    List.length_nil] at this hlen
  omega

end Json
end Errand

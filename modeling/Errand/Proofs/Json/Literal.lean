/-
# What stands between quotes

The inside of a literal stands for characters: a plain one for itself, and an escape for
the one that it names (`Literal`).  The reader reads what is spelt so up to the closing
quote (`Literal.readString`), and reads nothing else (`Literal.of_readString`).

Every text can be written as the inside of a literal, by escaping it
(`literal_escapeChars`), and insides of literals may be put one after the other.
Therefore an escaped text can be put anywhere into a literal where none of its escapes is
cut in two.
-/

import Errand.Json.Printer
import Errand.Proofs.Json.Taken

namespace Errand
namespace Json

/-- The character stands for itself inside a literal. -/
structure IsPlain (c : Char) : Prop where
  not_quote : c ≠ '"'
  not_backslash : c ≠ '\\'
  not_control : 0x20 ≤ c.toNat

/-- The inside of a literal, and the characters that it stands for. -/
inductive Literal : List Char → List Char → Prop
  | nil : Literal [] []
  | plain {c : Char} {u x : List Char} : IsPlain c → Literal u x → Literal (c :: u) (c :: x)
  | escape {c : Char} {e u x : List Char} : readEscape e = .ok (c, []) → Literal u x →
      Literal ('\\' :: (e ++ u)) (c :: x)

namespace Literal

variable {u v x y s r : List Char}

/-- Literals may be put together. -/
theorem append (h : Literal u x) (h' : Literal v y) : Literal (u ++ v) (x ++ y) := by
  induction h with
  | nil => exact h'
  | plain hc _ ih => exact .plain hc ih
  | escape he _ ih =>
    rw [List.cons_append, List.append_assoc]
    exact .escape he ih

/-- Plain characters stand for themselves. -/
theorem of_plain (h : ∀ c ∈ u, IsPlain c) : Literal u u := by
  induction u with
  | nil => exact .nil
  | cons c u ih =>
    obtain ⟨hc, hu⟩ := List.forall_mem_cons.1 h
    exact .plain hc (ih hu)

/-- Plain characters at the start stand for themselves, and the others for the rest. -/
theorem of_plain_append (hu : ∀ c ∈ u, IsPlain c) (h : Literal (u ++ v) x) :
    ∃ y, x = u ++ y ∧ Literal v y := by
  induction u generalizing x with
  | nil => exact ⟨x, rfl, h⟩
  | cons c u ih =>
    obtain ⟨hc, hu⟩ := List.forall_mem_cons.1 hu
    rw [List.cons_append] at h
    generalize hw : u ++ v = w at h
    cases h with
    | plain _ h =>
      obtain ⟨y, rfl, hy⟩ := ih hu (hw ▸ h)
      exact ⟨y, rfl, hy⟩
    | escape => exact absurd rfl hc.not_backslash

/-! ### Reading -/

/-- **A literal is read as what it stands for,** up to the quote that ends it. -/
theorem readStringFrom (h : Literal u x) {fuel : Nat} (hfuel : u.length < fuel)
    (acc : List Char) : Json.readStringFrom fuel acc (u ++ '"' :: r) =
      .ok (.ofList (acc.reverse ++ x), r) := by
  induction h generalizing fuel acc with
  | nil =>
    obtain ⟨fuel, rfl⟩ : ∃ k, fuel = k + 1 := ⟨fuel - 1, by omega⟩
    simp [Json.readStringFrom]
  | @plain c u x hc _ ih =>
    obtain ⟨fuel, rfl⟩ : ∃ k, fuel = k + 1 := ⟨fuel - 1, by omega⟩
    have hrest := @ih fuel (by simp at hfuel; omega) (c :: acc)
    have hlow : ¬c.toNat < 0x20 := by
      have := hc.not_control
      omega
    rw [List.cons_append, Json.readStringFrom, if_neg hc.not_quote, if_neg hc.not_backslash,
      if_neg hlow, hrest]
    simp
  | @escape c e u x he _ ih =>
    obtain ⟨fuel, rfl⟩ : ∃ k, fuel = k + 1 := ⟨fuel - 1, by omega⟩
    have hrest := @ih fuel (by simp at hfuel; omega) (c :: acc)
    have he : readEscape (e ++ (u ++ '"' :: r)) = .ok (c, u ++ '"' :: r) := readEscape_extends he
    rw [List.cons_append, List.append_assoc, Json.readStringFrom, if_neg (by decide), if_pos rfl,
      he]
    dsimp only
    rw [hrest]
    simp

/-- **The inside of a literal is read up to the closing quote.** -/
theorem readString (h : Literal u x) : Json.readString (u ++ '"' :: r) = .ok (.ofList x, r) := by
  refine h.readStringFrom ?_ []
  simp only [List.length_append, List.length_cons]
  omega

/-- Whatever is read as a string is a literal. -/
theorem of_readStringFrom {fuel : Nat} {acc : List Char} {t : String}
    (h : Json.readStringFrom fuel acc s = .ok (t, r)) :
    ∃ u x, s = u ++ '"' :: r ∧ Literal u x ∧ .ofList (acc.reverse ++ x) = t := by
  induction fuel generalizing acc s with
  | zero => cases h
  | succ fuel ih =>
    cases s with
    | nil => cases h
    | cons c s =>
      unfold Json.readStringFrom at h
      split_ifs at h with hquote hback hctrl
      · cases h
        exact ⟨[], [], by rw [hquote]; rfl, .nil, by simp⟩
      · split at h
        · cases h
        · next d s' hesc =>
          obtain ⟨e, rfl, he, -⟩ := readEscape_taken hesc
          obtain ⟨u, x, rfl, hu, rfl⟩ := ih h
          exact ⟨_, _, by simp [hback], .escape he hu, by simp⟩
      · cases h
      · obtain ⟨u, x, rfl, hu, rfl⟩ := ih h
        exact ⟨_, _, rfl, .plain ⟨hquote, hback, by omega⟩ hu, by simp⟩

/-- **What is read up to a closing quote is the inside of a literal.** -/
theorem of_readString {t : String} (h : Json.readString s = .ok (t, r)) :
    ∃ u x, s = u ++ '"' :: r ∧ Literal u x ∧ .ofList x = t :=
  of_readStringFrom h

end Literal

/-! ### Escaping -/

/-- A hexadecimal digit has the value it was written for. -/
theorem hexValue?_hexDigit : ∀ n < 16, hexValue? (hexDigit n) = some n := by
  decide

/-- A control character by its code. -/
theorem readEscape_code {n : Nat} (hn : n < 0x20) :
    readEscape ['u', '0', '0', hexDigit (n / 16), hexDigit (n % 16)] = .ok (Char.ofNat n, []) := by
  have hhigh := hexValue?_hexDigit (n / 16) (by omega)
  have hlow := hexValue?_hexDigit (n % 16) (by omega)
  have hzero : hexValue? '0' = some 0 := rfl
  have hcode : ((0 * 16 + 0) * 16 + n / 16) * 16 + n % 16 = n := by omega
  have hread : readCodeEscape ['0', '0', hexDigit (n / 16), hexDigit (n % 16)] =
      .ok (Char.ofNat n, []) := by
    simp only [readCodeEscape, readHex4, hzero, hhigh, hlow, hcode]
    rw [if_neg (by omega), if_neg (by omega)]
  exact hread

/-- However a character is escaped, it stands for itself. -/
theorem literal_escapeChar (c : Char) : Literal (escapeChar c) [c] := by
  have escaped {e : List Char} (he : readEscape e = .ok (c, [])) : Literal ('\\' :: e) [c] := by
    simpa using Literal.escape he .nil
  unfold escapeChar
  split_ifs with hquote hback hb hf hn hr ht hctrl
  · exact escaped (by rw [hquote]; rfl)
  · exact escaped (by rw [hback]; rfl)
  · exact escaped (by rw [← Char.ofNat_toNat c, hb]; rfl)
  · exact escaped (by rw [← Char.ofNat_toNat c, hf]; rfl)
  · exact escaped (by rw [hn]; rfl)
  · exact escaped (by rw [hr]; rfl)
  · exact escaped (by rw [ht]; rfl)
  · exact escaped (by rw [readEscape_code hctrl, Char.ofNat_toNat])
  · exact .plain ⟨hquote, hback, by omega⟩ .nil

/-- **An escaped text is the inside of a literal that stands for the text.** -/
theorem literal_escapeChars (t : List Char) : Literal (escapeChars t) t := by
  induction t with
  | nil => exact .nil
  | cons c t ih => exact (literal_escapeChar c).append ih

end Json
end Errand

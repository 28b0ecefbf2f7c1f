/-
# Numbers and their numerals

A number is written in the characters of numerals, with no blank among them
(`Number.chars_numeric`).

An integer of 64 bits is read back from its numeral as itself.  Of a double this cannot
be said of all: the reader multiplies or divides by a power of ten and rounds twice, so
that some numerals name a double next to the one they were written for.  A number that
reads back is legible (`Number.Legible`).
-/

import Errand.Json.Printer
import Errand.Proofs.Json.Literal
import Errand.Proofs.Json.Syntax

namespace Errand
namespace Json

/-! ### The characters of numerals -/

/-- Numbers are written in digits, -/
theorem decimalChars_isDigit (n : Nat) : ∀ c ∈ decimalChars n, c.isDigit = true := fun _ hc =>
  Nat.isDigit_of_mem_toDigits (by decide) (by decide) hc

/-- which may stand in a number, -/
theorem decimalChars_numeric (n : Nat) : ∀ c ∈ decimalChars n, IsNumeric c := fun c hc =>
  .inl (decimalChars_isDigit n c hc)

/-- as may zeros. -/
theorem zeros_numeric (n : Nat) : ∀ c ∈ zeros n, IsNumeric c := by
  intro c hc
  obtain rfl := List.eq_of_mem_replicate hc
  exact .inl rfl

/-- and exponents. -/
theorem exponentChars_numeric (e : Int) : ∀ c ∈ exponentChars e, IsNumeric c := by
  refine List.forall_mem_cons.2 ⟨?_, decimalChars_numeric _⟩
  split <;> exact .inr (by simp)

/-- A decimal is written with characters of numbers alone. -/
theorem decimalText_numeric (style : RealStyle) (d : Number.Decimal) :
    ∀ c ∈ decimalText style d, IsNumeric c := by
  have hdigits := decimalChars_numeric d.digits
  have hpoint : IsNumeric '.' := .inr (by simp)
  have hmark : IsNumeric 'e' := .inr (by simp)
  have hzero : IsNumeric '0' := .inl rfl
  unfold decimalText
  dsimp only
  split_ifs
  · simp only [List.forall_mem_append, List.forall_mem_cons]
    exact ⟨⟨hdigits, zeros_numeric _⟩, hpoint, hzero, by simp⟩
  · refine List.forall_mem_append.2 ⟨fun c hc => hdigits c (List.mem_of_mem_take hc), ?_⟩
    exact List.forall_mem_cons.2 ⟨hpoint, fun c hc => hdigits c (List.mem_of_mem_drop hc)⟩
  · simp only [List.forall_mem_append, List.forall_mem_cons]
    exact ⟨⟨hzero, hpoint, zeros_numeric _⟩, hdigits⟩
  · refine List.forall_mem_append.2 ⟨?_, List.forall_mem_cons.2 ⟨hmark, exponentChars_numeric _⟩⟩
    intro c hc
    generalize decimalChars d.digits = ds at hdigits hc
    split at hc
    · exact hdigits c hc
    · rcases List.mem_cons.1 hc with rfl | hc
      · exact hdigits _ List.mem_cons_self
      rcases List.mem_cons.1 hc with rfl | hc
      · exact hpoint
      · exact hdigits c (List.mem_cons_of_mem _ hc)
    · cases hc

/-- **A number is written in the characters of numerals.** -/
theorem Number.chars_numeric (n : Number) : ∀ c ∈ n.chars, IsNumeric c := by
  have hminus : IsNumeric '-' := .inr (by simp)
  cases n with
  | int i =>
    simp only [Number.chars, intChars]
    split_ifs
    · exact List.forall_mem_cons.2 ⟨hminus, decimalChars_numeric _⟩
    · exact decimalChars_numeric _
  | real x =>
    have hbody : ∀ c ∈ (if x.isZero then ['0', '.', '0'] else decimalText realStyle
        (Number.Format.binary64.shortest x.mantissa x.exponent)), IsNumeric c := by
      split_ifs
      · simp [IsNumeric]
      · exact decimalText_numeric _ _
    simp only [Number.chars, realChars]
    split_ifs at hbody ⊢
    all_goals first | exact hbody | exact List.forall_mem_cons.2 ⟨hminus, hbody⟩

/-- No character of a number is a blank. -/
theorem isSpace_of_isNumeric {c : Char} (h : IsNumeric c) : isSpace c = false := by
  rcases h with h | h
  · exact (isDigit_begins h).1
  · simp only [List.mem_cons, List.not_mem_nil, or_false] at h
    rcases h with rfl | rfl | rfl | rfl | rfl <;> rfl

/-! ### Integers -/

/-- More digits make a number no smaller. -/
theorem le_ofDigitChars (ds : List Char) (m : Nat) : m ≤ Nat.ofDigitChars 10 ds m := by
  induction ds generalizing m with
  | nil => exact Nat.le_refl m
  | cons c ds ih =>
    rw [Nat.ofDigitChars_cons]
    have := ih (10 * m + (c.toNat - '0'.toNat))
    omega

/-- Digits are read as the number that they spell, as long as that can be kept. -/
theorem readIntegerDigits_digits {negative : Bool} {ds : List Char} {m : Nat}
    (hds : ∀ c ∈ ds, c.isDigit = true) (hmax : Nat.ofDigitChars 10 ds m ≤ maxSignificand) :
    readIntegerDigits negative m ds =
      .ok (integerNumber negative (Nat.ofDigitChars 10 ds m), []) := by
  induction ds generalizing m with
  | nil => rfl
  | cons c ds ih =>
    obtain ⟨hc, hds⟩ := List.forall_mem_cons.1 hds
    rw [Nat.ofDigitChars_cons] at hmax ⊢
    have hle : 10 * m + digitValue c ≤ maxSignificand := (le_ofDigitChars ds _).trans hmax
    rw [readIntegerDigits, if_pos hc]
    dsimp only
    rw [if_neg (Nat.not_lt.2 hle)]
    exact ih hds hmax

/-- A numeral of a positive number does not start with a zero. -/
theorem decimalChars_head {n : Nat} (hn : 0 < n) : '0' ∉ (decimalChars n).head? := by
  induction n using Nat.strongRecOn with
  | ind n ih =>
    unfold decimalChars at ih ⊢
    rw [Nat.toDigits_eq_if (by decide)]
    split_ifs with hlt
    · intro h
      simp at h
      omega
    · have hhead := ih (n / 10) (by omega) (by omega)
      cases hds : Nat.toDigits 10 (n / 10) with
      | nil => exact absurd hds Nat.toDigits_ne_nil
      | cons c ds =>
        rw [hds] at hhead
        exact hhead

/-- **A natural number is read from its numeral.** -/
theorem readNumber_decimalChars {negative : Bool} {n : Nat} (hn : n ≤ maxSignificand) :
    readNumber negative (decimalChars n) = .ok (integerNumber negative n, []) := by
  rcases Nat.eq_zero_or_pos n with rfl | hpos
  · rfl
  · have hhead := decimalChars_head hpos
    have hdigits := decimalChars_isDigit n
    have hvalue : Nat.ofDigitChars 10 (decimalChars n) 0 = n :=
      Nat.ofDigitChars_toDigits (by decide) (by decide)
    cases hds : decimalChars n with
    | nil => exact absurd hds Nat.toDigits_ne_nil
    | cons c ds =>
      rw [hds] at hhead hdigits hvalue
      obtain ⟨hc, hds⟩ := List.forall_mem_cons.1 hdigits
      have hc0 : c ≠ '0' := fun h => hhead (by simp [h])
      have hfirst : Nat.ofDigitChars 10 ds (digitValue c) = n := by
        rw [Nat.ofDigitChars_cons] at hvalue
        simpa [digitValue] using hvalue
      rw [readNumber.eq_4 _ _ _ hc0, if_pos hc, readIntegerDigits_digits hds (by omega), hfirst]

/-! ### Legible numbers -/

/-- The number reads back as itself.  An integer has to be one of 64 bits, as any integer
is that was read. -/
def Number.Legible : Number → Prop
  | .int i => -Nat.pow 2 63 ≤ i ∧ i < Nat.pow 2 64
  | .real x => parseChars? (realChars x) = some (.number (.real x))

/-- The number is read from a numeral, written out. -/
def Number.IsRead (n : Number) : Prop :=
  ∃ negative u, n.chars = sign negative ++ u ∧ readNumber negative u = .ok (n, [])

/-- An integer that is legible is read from its digits. -/
theorem isRead_int {i : Int} (h : (Number.int i).Legible) : (Number.int i).IsRead := by
  obtain ⟨hlow, hhigh⟩ := h
  have hpow : Nat.pow 2 63 = 9223372036854775808 ∧ Nat.pow 2 64 = 18446744073709551616 := by
    decide
  have hmax : i.natAbs ≤ maxSignificand := by
    rw [maxSignificand]
    omega
  have hread (negative : Bool) : readNumber negative (decimalChars i.natAbs) =
      .ok (integerNumber negative i.natAbs, []) := readNumber_decimalChars hmax
  by_cases hi : i < 0
  · refine ⟨true, decimalChars i.natAbs, if_pos hi, ?_⟩
    rw [hread, integerNumber, if_pos rfl, if_neg (by omega)]
    congr
    omega
  · refine ⟨false, decimalChars i.natAbs, if_neg hi, ?_⟩
    rw [hread, integerNumber, if_neg Bool.false_ne_true]
    congr
    omega

/-- What consists of characters of numbers holds no blank. -/
theorem blanks_eq_nil {s : List Char} (h : Blanks s) (hs : ∀ c ∈ s, IsNumeric c) : s = [] := by
  cases s with
  | nil => rfl
  | cons c s =>
    have hc := List.all_eq_true.1 h c List.mem_cons_self
    rw [isSpace_of_isNumeric (hs c List.mem_cons_self)] at hc
    cases hc

/-- Between quotes the reader reads literals. -/
theorem reads_literal : Reads Literal String.ofList := fun _ _ h _ => h.readString

/-- Between quotes the reader reads nothing but literals. -/
theorem covers_literal : Covers Literal String.ofList := fun _ _ _ => Literal.of_readString

/-- A numeral that spells its number is a numeral as a whole, with no blanks around it. -/
theorem isRead_of_parseChars? {n : Number} (h : parseChars? n.chars = some (.number n)) :
    n.IsRead := by
  have hchars := n.chars_numeric
  obtain ⟨t, ht, hvalue⟩ := SpellsText.of_parseChars? covers_literal h
  unfold Number.IsRead
  generalize n.chars = chars at ht hchars ⊢
  obtain ⟨hpad, htrail, hspells⟩ := ht
  simp only [List.forall_mem_append] at hchars
  obtain ⟨hpadchars, -, htrailchars⟩ := hchars
  rw [blanks_eq_nil hpad hpadchars, blanks_eq_nil htrail htrailchars]
  cases hspells with
  | @number _ negative u n hu =>
    cases hvalue
    exact ⟨negative, u, by simp, hu⟩
  | _ => cases hvalue

/-- **A legible number is read from its own numeral.** -/
theorem Number.Legible.isRead {n : Number} (h : n.Legible) : n.IsRead := by
  cases n with
  | int i => exact isRead_int h
  | real x => exact isRead_of_parseChars? h

end Json
end Errand

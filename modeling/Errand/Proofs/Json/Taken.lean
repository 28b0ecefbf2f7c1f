/-
# What a reader takes

A reader takes the first characters of a text and leaves the others.  The characters that
it takes are enough: from them alone it reads the same and leaves nothing (`Taken`).
Together with locality this cuts a text exactly where one thing ends and the next
begins, whatever comes next.

Which characters a numeral, a word or an escape is made of is kept as well, so that who
changes a text elsewhere knows that it leaves them alone.
-/

import Errand.Proofs.Json.Locality
import Mathlib.Data.List.TakeWhile

namespace Errand
namespace Json

/-- `f` reads `a` from the first characters of `s`, all in `p`, needs no others, and
leaves `r`. -/
def Taken {α : Type} (p : Char → Prop) (f : Reader α) (s : List Char) (a : α)
    (r : List Char) : Prop :=
  ∃ u, s = u ++ r ∧ f u = .ok (a, []) ∧ ∀ c ∈ u, p c

namespace Taken

variable {α : Type} {p : Char → Prop} {f g : Reader α} {s r : List Char} {a : α}

/-- Nothing is taken where the end would do as well. -/
theorem nil (h : f [] = .ok (a, [])) : Taken p f s a s := ⟨[], rfl, h, by simp⟩

/-- One character more is taken by a reader that passes over it. -/
theorem cons {c : Char} (hc : p c) (hg : ∀ u, g (c :: u) = f u) (h : Taken p f s a r) :
    Taken p g (c :: s) a r := by
  obtain ⟨u, rfl, hu, hp⟩ := h
  exact ⟨c :: u, rfl, (hg u).trans hu, List.forall_mem_cons.2 ⟨hc, hp⟩⟩

/-- A reader takes what another takes with which it agrees on every start of the text. -/
theorem congr (hg : ∀ u, u <+: s → g u = f u) (h : Taken p f s a r) : Taken p g s a r := by
  obtain ⟨u, rfl, hu, hp⟩ := h
  exact ⟨u, rfl, (hg u (List.prefix_append u r)).trans hu, hp⟩

end Taken

/-- What starts where characters of one kind end is left over after them. -/
theorem dropWhile_takeWhile_append {p : Char → Bool} {s u : List Char}
    (hu : u <+: s.dropWhile p) : (s.takeWhile p ++ u).dropWhile p = u := by
  induction s with
  | nil =>
    obtain rfl := List.prefix_nil.1 hu
    rfl
  | cons c s ih =>
    by_cases hc : p c = true
    · rw [List.dropWhile_cons_of_pos hc] at hu
      rw [List.takeWhile_cons_of_pos hc, List.cons_append, List.dropWhile_cons_of_pos hc, ih hu]
    · rw [List.dropWhile_cons_of_neg hc] at hu
      rw [List.takeWhile_cons_of_neg hc, List.nil_append]
      rcases List.prefix_cons_iff.1 hu with rfl | ⟨u, rfl, -⟩
      · rfl
      · exact List.dropWhile_cons_of_neg hc

/-! ### Numbers -/

/-- The characters of numerals. -/
def IsNumeric (c : Char) : Prop := c.isDigit = true ∨ c ∈ ['.', 'e', 'E', '+', '-']

section Numbers

variable {negative : Bool} {s r : List Char} {n : Number}

/-- A double takes nothing more when its digits are read. -/
theorem finishReal_eq_ok {m : Nat} {e : Int} (h : finishReal negative m e s = .ok (n, r)) :
    r = s ∧ finishReal negative m e [] = .ok (n, []) := by
  unfold finishReal at h ⊢
  split at h
  · cases h
    exact ⟨rfl, rfl⟩
  · cases h

/-- The digits of an exponent are taken, and would be alone. -/
theorem readExponentDigits_taken {m : Nat} {start : Int} {down : Bool} {e : Nat}
    (h : readExponentDigits negative m start down e s = .ok (n, r)) :
    Taken IsNumeric (readExponentDigits negative m start down e) s n r := by
  induction s generalizing e with
  | nil =>
    obtain ⟨rfl, hn⟩ := finishReal_eq_ok h
    exact .nil hn
  | cons c s ih =>
    unfold readExponentDigits at h
    split at h
    · next hd =>
      dsimp only at h
      split at h
      · next hm =>
        split at h
        · cases h
        · next hz =>
          cases h
          refine ⟨c :: (s.takeWhile Char.isDigit ++ []), ?_, ?_, ?_⟩
          · rw [List.append_nil, List.cons_append, List.takeWhile_append_dropWhile]
          · rw [readExponentDigits, if_pos hd]
            dsimp only
            rw [if_pos hm, if_neg hz, dropWhile_takeWhile_append List.nil_prefix]
          · rw [List.append_nil]
            exact List.forall_mem_cons.2 ⟨.inl hd, fun c hc => .inl (List.mem_takeWhile_imp hc)⟩
      · next hm =>
        refine .cons (.inl hd) (fun u => ?_) (ih h)
        rw [readExponentDigits, if_pos hd]
        exact if_neg hm
    · obtain ⟨rfl, hn⟩ := finishReal_eq_ok h
      exact .nil hn

/-- So is the exponent, -/
theorem readUnsignedExponent_taken {m : Nat} {start : Int} {down : Bool}
    (h : readUnsignedExponent negative m start down s = .ok (n, r)) :
    Taken IsNumeric (readUnsignedExponent negative m start down) s n r := by
  cases s with
  | nil => cases h
  | cons c s =>
    simp only [readUnsignedExponent] at h
    split at h
    · next hd =>
      exact .cons (.inl hd) (fun u => if_pos hd) (readExponentDigits_taken h)
    · cases h

/-- with its sign, -/
theorem readExponent_taken {m : Nat} {start : Int}
    (h : readExponent negative m start s = .ok (n, r)) :
    Taken IsNumeric (readExponent negative m start) s n r := by
  unfold readExponent at h
  split at h
  · exact .cons (.inr (by simp)) (fun _ => rfl) (readUnsignedExponent_taken h)
  · exact .cons (.inr (by simp)) (fun _ => rfl) (readUnsignedExponent_taken h)
  · next hplus hminus =>
    refine .congr (fun u hu => ?_) (readUnsignedExponent_taken h)
    obtain ⟨t, rfl⟩ := hu
    exact readExponent.eq_3 _ _ _ _ (fun _ heq => hplus _ (by rw [heq]; rfl))
      fun _ heq => hminus _ (by rw [heq]; rfl)

/-- if there is one, -/
theorem readRealEnd_taken {m : Nat} {e : Int} (h : readRealEnd negative m e s = .ok (n, r)) :
    Taken IsNumeric (readRealEnd negative m e) s n r := by
  unfold readRealEnd at h
  split at h
  · exact .cons (.inr (by simp)) (fun _ => rfl) (readExponent_taken h)
  · exact .cons (.inr (by simp)) (fun _ => rfl) (readExponent_taken h)
  · obtain ⟨rfl, hn⟩ := finishReal_eq_ok h
    exact .nil hn

/-- What ends a double after its digits does so after the digits of its fraction. -/
theorem readFraction_end {m : Nat} {e : Int} {c : Char} (hd : ¬c.isDigit = true) {u : List Char}
    (hu : u <+: c :: s) : readFraction negative true m e u = readRealEnd negative m e u := by
  rcases List.prefix_cons_iff.1 hu with rfl | ⟨u, rfl, -⟩
  · rfl
  · rw [readFraction, if_neg hd, if_pos rfl]

/-- behind the digits of a fraction. -/
theorem readFraction_taken {any : Bool} {m : Nat} {e : Int}
    (h : readFraction negative any m e s = .ok (n, r)) :
    Taken IsNumeric (readFraction negative any m e) s n r := by
  induction s generalizing any m e with
  | nil =>
    unfold readFraction at h
    split at h
    · next hany =>
      obtain ⟨rfl, hn⟩ := finishReal_eq_ok h
      exact .nil ((if_pos hany).trans hn)
    · cases h
  | cons c s ih =>
    unfold readFraction at h
    split at h
    · next hd =>
      dsimp only at h
      split at h
      · next hm =>
        -- Digits beyond the greatest significand are dropped before the end is read.
        obtain ⟨u, hs, hu, hp⟩ := readRealEnd_taken h
        have hdrop : (s.takeWhile Char.isDigit ++ u).dropWhile Char.isDigit = u :=
          dropWhile_takeWhile_append (hs ▸ List.prefix_append u r)
        refine ⟨c :: (s.takeWhile Char.isDigit ++ u), ?_, ?_, ?_⟩
        · rw [List.cons_append, List.append_assoc, ← hs, List.takeWhile_append_dropWhile]
        · rw [readFraction, if_pos hd]
          dsimp only
          rw [if_pos hm, hdrop, hu]
        · refine List.forall_mem_cons.2 ⟨.inl hd, List.forall_mem_append.2 ⟨?_, hp⟩⟩
          exact fun c hc => .inl (List.mem_takeWhile_imp hc)
      · next hm =>
        refine .cons (.inl hd) (fun u => ?_) (ih h)
        rw [readFraction, if_pos hd]
        exact if_neg hm
    · next hd =>
      split at h
      · next hany =>
        subst hany
        exact .congr (fun u hu => readFraction_end hd hu) (readRealEnd_taken h)
      · cases h

/-- or of an integer that is too long. -/
theorem readLongInteger_taken {m : Nat} {e : Int}
    (h : readLongInteger negative m e s = .ok (n, r)) :
    Taken IsNumeric (readLongInteger negative m e) s n r := by
  induction s generalizing e with
  | nil =>
    obtain ⟨rfl, hn⟩ := finishReal_eq_ok h
    exact .nil hn
  | cons c s ih =>
    unfold readLongInteger at h
    split at h
    · next hd => exact .cons (.inl hd) (fun u => if_pos hd) (ih h)
    · next hd =>
      split at h
      · next hp =>
        subst hp
        exact .cons (.inr (by simp)) (fun _ => rfl) (readFraction_taken h)
      · next hp =>
        refine .congr (fun u hu => ?_) (readRealEnd_taken h)
        rcases List.prefix_cons_iff.1 hu with rfl | ⟨u, rfl, -⟩
        · rfl
        · rw [readLongInteger, if_neg hd, if_neg hp]

/-- What follows an integer is taken, and would be alone. -/
theorem readIntegerEnd_taken {m : Nat} (h : readIntegerEnd negative m s = .ok (n, r)) :
    Taken IsNumeric (readIntegerEnd negative m) s n r := by
  unfold readIntegerEnd at h
  split at h
  · exact .cons (.inr (by simp)) (fun _ => rfl) (readFraction_taken h)
  · exact .cons (.inr (by simp)) (fun _ => rfl) (readExponent_taken h)
  · exact .cons (.inr (by simp)) (fun _ => rfl) (readExponent_taken h)
  · cases h
    exact .nil rfl

/-- The digits of an integer are taken, and would be alone. -/
theorem readIntegerDigits_taken {m : Nat} (h : readIntegerDigits negative m s = .ok (n, r)) :
    Taken IsNumeric (readIntegerDigits negative m) s n r := by
  induction s generalizing m with
  | nil =>
    cases h
    exact .nil rfl
  | cons c s ih =>
    unfold readIntegerDigits at h
    split at h
    · next hd =>
      dsimp only at h
      split at h
      · next hm =>
        refine .cons (.inl hd) (fun u => ?_) (readLongInteger_taken h)
        rw [readIntegerDigits, if_pos hd]
        exact if_pos hm
      · next hm =>
        refine .cons (.inl hd) (fun u => ?_) (ih h)
        rw [readIntegerDigits, if_pos hd]
        exact if_neg hm
    · next hd =>
      refine .congr (fun u hu => ?_) (readIntegerEnd_taken h)
      rcases List.prefix_cons_iff.1 hu with rfl | ⟨u, rfl, -⟩
      · rfl
      · rw [readIntegerDigits, if_neg hd]

/-- **A number is read from its numeral alone.** -/
theorem readNumber_taken (h : readNumber negative s = .ok (n, r)) :
    Taken IsNumeric (readNumber negative) s n r := by
  rcases s with _ | ⟨c, s⟩
  · cases h
  · by_cases hc : c = '0'
    · subst hc
      rcases s with _ | ⟨d, s⟩
      · cases h
        exact .cons (.inl rfl) (f := fun u => readNumber negative ('0' :: u)) (fun _ => rfl)
          (.nil rfl)
      · simp only [readNumber] at h
        split at h
        · cases h
        · next hd =>
          refine .cons (.inl rfl) (fun _ => rfl) (.congr (fun u hu => ?_) (readIntegerEnd_taken h))
          rcases List.prefix_cons_iff.1 hu with rfl | ⟨u, rfl, -⟩
          · rfl
          · exact if_neg hd
    · rw [readNumber.eq_4 _ _ _ hc] at h
      split at h
      · next hd =>
        refine .cons (.inl hd) (fun u => ?_) (readIntegerDigits_taken h)
        rw [readNumber.eq_4 _ _ _ hc, if_pos hd]
      · cases h

end Numbers

/-! ### Escapes -/

/-- The characters of escapes after the backslash. -/
def IsEscape (c : Char) : Prop := (hexValue? c).isSome ∨ c ∈ ['"', '\\', '/', 'n', 'r', 't', 'u']

section Escapes

variable {s r : List Char} {c : Char}

/-- Hexadecimal digits are taken, -/
theorem readHex4_taken {n : Nat} (h : readHex4 s = .ok (n, r)) :
    Taken IsEscape readHex4 s n r := by
  unfold readHex4 at h
  split at h
  · next a b c d r' =>
    split at h
    · next hw hx hy hz =>
      cases h
      refine ⟨[a, b, c, d], rfl, by simp [readHex4, hw, hx, hy, hz], ?_⟩
      simp [IsEscape, hw, hx, hy, hz]
    · cases h
  · split at h <;> cases h

/-- and so are those of a second surrogate. -/
theorem readLowSurrogate_taken {high : Nat} (h : readLowSurrogate high s = .ok (c, r)) :
    Taken IsEscape (readLowSurrogate high) s c r := by
  unfold readLowSurrogate at h
  split at h
  · cases h
  · split at h
    · cases h
    · split at h
      · cases h
      · next hex =>
        split at h
        · next hlow =>
          obtain ⟨rfl, rfl⟩ := Prod.mk.inj (Except.ok.inj h)
          obtain ⟨u, rfl, hu, hp⟩ := readHex4_taken hex
          refine ⟨'\\' :: 'u' :: u, rfl, ?_, ?_⟩
          · simp only [readLowSurrogate, hu, if_pos hlow]
          · exact List.forall_mem_cons.2 ⟨.inr (by simp),
              List.forall_mem_cons.2 ⟨.inr (by simp), hp⟩⟩
        · cases h
    · cases h
  · cases h

/-- and those of any escaped code. -/
theorem readCodeEscape_taken (h : readCodeEscape s = .ok (c, r)) :
    Taken IsEscape readCodeEscape s c r := by
  unfold readCodeEscape at h
  split at h
  · cases h
  · next n r' hex =>
    obtain ⟨u, rfl, hu, hp⟩ := readHex4_taken hex
    split_ifs at h with hlow hhigh
    · cases h
    · obtain ⟨w, rfl, hw, hq⟩ := readLowSurrogate_taken h
      refine ⟨u ++ w, by simp, ?_, List.forall_mem_append.2 ⟨hp, hq⟩⟩
      have hex : readHex4 (u ++ w) = .ok (n, [] ++ w) := readHex4_extends hu
      simp only [readCodeEscape, hex, if_neg hlow, if_pos hhigh, List.nil_append, hw]
    · cases h
      exact ⟨u, rfl, by simp only [readCodeEscape, hu, if_neg hlow, if_neg hhigh], hp⟩

/-- An escape of one character takes that character. -/
theorem Taken.single {d : Char} (hd : IsEscape d) (h : readEscape [d] = .ok (c, [])) :
    Taken IsEscape readEscape (d :: s) c s :=
  ⟨[d], rfl, h, by simpa using hd⟩

/-- **An escape is read from its own characters alone.** -/
theorem readEscape_taken (h : readEscape s = .ok (c, r)) : Taken IsEscape readEscape s c r := by
  cases s with
  | nil => cases h
  | cons d s =>
    simp only [readEscape] at h
    split_ifs at h with hself hb hf hn hr ht hu
    · cases h
      rcases hself with rfl | rfl | rfl <;> exact .single (.inr (by simp)) rfl
    · cases h
      exact .single (.inl (by rw [hb]; rfl)) (by rw [hb]; rfl)
    · cases h
      exact .single (.inl (by rw [hf]; rfl)) (by rw [hf]; rfl)
    · cases h
      exact .single (.inr (by simp [hn])) (by rw [hn]; rfl)
    · cases h
      exact .single (.inr (by simp [hr])) (by rw [hr]; rfl)
    · cases h
      exact .single (.inr (by simp [ht])) (by rw [ht]; rfl)
    · subst hu
      exact .cons (.inr (by simp)) (fun _ => rfl) (readCodeEscape_taken h)
    · cases h

end Escapes
end Json
end Errand

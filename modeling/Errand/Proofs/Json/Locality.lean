/-
# Reading is local

What a reader reads depends on no character beyond it: with more text after it, the
same is read, and the additional text is left over (`Reader.Extends`).  A number alone
looks at what follows, since more digits, a point or an exponent would continue it, so
the text after it must not start with one (`Stops`).  The main result is
`readValue_extends`.

Loops take as fuel the length of what is left, which the additional text makes greater.
Therefore locality is a relation between a reader and the same reader with more fuel.
-/

import Errand.Json.Reader
import Mathlib.Tactic.SplitIfs

namespace Errand
namespace Json

/-- No number before the text goes on in it. -/
def Stops (t : List Char) : Prop :=
  ∀ c ∈ t.head?, c.isDigit = false ∧ c ≠ '.' ∧ c ≠ 'e' ∧ c ≠ 'E'

/-- What `f` reads from a text, `g` reads from the text with `t` after it, and leaves
`t` as well. -/
def Reader.Extends {α : Type} (t : List Char) (f g : Reader α) : Prop :=
  ∀ ⦃s : List Char⦄ ⦃a : α⦄ ⦃r : List Char⦄, f s = .ok (a, r) → g (s ++ t) = .ok (a, r ++ t)

variable {t : List Char}

/-- What is dropped of a text is dropped with more behind it, unless that begins the same way. -/
theorem dropWhile_append_of_head {p : Char → Bool} (ht : ∀ c ∈ t.head?, p c = false)
    (s : List Char) : (s ++ t).dropWhile p = s.dropWhile p ++ t := by
  induction s with
  | nil =>
    cases t with
    | nil => rfl
    | cons c t => simp [List.dropWhile, ht c rfl]
  | cons c s ih =>
    simp only [List.cons_append, List.dropWhile_cons]
    split
    · exact ih
    · rfl

/-- What starts with `x` starts with it already before the end. -/
theorem eq_cons_of_append_eq_cons {x : Char} {s r : List Char} (hx : x ∉ t.head?)
    (h : s ++ t = x :: r) : s = x :: s.tail := by
  cases s with
  | nil =>
    rw [List.nil_append] at h
    exact absurd (by rw [h]; rfl) hx
  | cons c s =>
    cases h
    rfl

/-- Behind digits nothing is dropped that stops them. -/
theorem Stops.dropDigits (ht : Stops t) (s : List Char) :
    (s ++ t).dropWhile Char.isDigit = s.dropWhile Char.isDigit ++ t :=
  dropWhile_append_of_head (fun c hc => (ht c hc).1) s

/-! ### Numbers -/

section Numbers

variable (negative : Bool)

/-- A double is finished without another look at the text. -/
theorem finishReal_extends (m : Nat) (e : Int) :
    Reader.Extends t (finishReal negative m e) (finishReal negative m e) := by
  intro s a r h
  unfold finishReal at h ⊢
  split at h <;> cases h
  rfl

/-- Where the digits stop, the exponent is complete. -/
theorem readExponentDigits_stop (ht : Stops t) (m : Nat) (start : Int)
    (down : Bool) (e : Nat) : readExponentDigits negative m start down e t =
      finishReal negative m (if down then start - e else start + e) t := by
  cases t with
  | nil => rfl
  | cons c t => simp [readExponentDigits, (ht c rfl).1]

/-- So the digits of an exponent are read with more behind them, -/
theorem readExponentDigits_extends (ht : Stops t) (m : Nat) (start : Int)
    (down : Bool) (e : Nat) :
    Reader.Extends t (readExponentDigits negative m start down e)
      (readExponentDigits negative m start down e) := by
  intro s a r h
  induction s generalizing e with
  | nil =>
    rw [List.nil_append, readExponentDigits_stop negative ht]
    exact finishReal_extends _ _ _ h
  | cons c s ih =>
    rw [List.cons_append]
    unfold readExponentDigits at h ⊢
    split at h
    · next hd =>
      dsimp only at h ⊢
      split at h
      · next hm =>
        split at h
        · cases h
        · next hz =>
          cases h
          rw [if_pos hd, if_pos hm, if_neg hz, ht.dropDigits]
      · next hm =>
        rw [if_pos hd, if_neg hm]
        exact ih _ h
    · next hd =>
      rw [if_neg hd]
      exact finishReal_extends _ _ _ h

/-- the exponent with them, -/
theorem readUnsignedExponent_extends (ht : Stops t) (m : Nat) (start : Int) (down : Bool) :
    Reader.Extends t (readUnsignedExponent negative m start down)
      (readUnsignedExponent negative m start down) := by
  intro s a r h
  cases s with
  | nil => cases h
  | cons c s =>
    rw [List.cons_append]
    simp only [readUnsignedExponent] at h ⊢
    split at h
    · next hd =>
      rw [if_pos hd]
      exact readExponentDigits_extends _ ht _ _ _ _ h
    · cases h

/-- and its sign. -/
theorem readExponent_extends (ht : Stops t) (m : Nat) (start : Int) :
    Reader.Extends t (readExponent negative m start) (readExponent negative m start) := by
  intro s a r h
  rcases s with _ | ⟨c, s⟩
  · cases h
  · rw [List.cons_append]
    unfold readExponent at h
    split at h
    · next heq =>
      cases heq
      exact readUnsignedExponent_extends _ ht _ _ _ h
    · next heq =>
      cases heq
      exact readUnsignedExponent_extends _ ht _ _ _ h
    · next hp hm =>
      rw [readExponent.eq_3 _ _ _ _ (fun _ heq => by cases heq; exact hp _ rfl)
        (fun _ heq => by cases heq; exact hm _ rfl)]
      exact readUnsignedExponent_extends _ ht _ _ _ h

/-- Where no exponent follows, the double is complete. -/
theorem readRealEnd_stop (ht : Stops t) (m : Nat) (e : Int) :
    readRealEnd negative m e t = finishReal negative m e t :=
  readRealEnd.eq_3 _ _ _ _ (fun _ heq => (ht 'e' (by rw [heq]; rfl)).2.2.1 rfl)
    (fun _ heq => (ht 'E' (by rw [heq]; rfl)).2.2.2 rfl)

/-- An exponent or none: with more behind them both are read the same. -/
theorem readRealEnd_extends (ht : Stops t) (m : Nat) (e : Int) :
    Reader.Extends t (readRealEnd negative m e) (readRealEnd negative m e) := by
  intro s a r h
  unfold readRealEnd at h
  split at h
  · exact readExponent_extends _ ht _ _ h
  · exact readExponent_extends _ ht _ _ h
  · next he hE =>
    rw [readRealEnd.eq_3 _ _ _ _
      (fun _ heq => he _ (eq_cons_of_append_eq_cons (fun hc => (ht _ hc).2.2.1 rfl) heq))
      (fun _ heq => hE _ (eq_cons_of_append_eq_cons (fun hc => (ht _ hc).2.2.2 rfl) heq))]
    exact finishReal_extends _ _ _ h

/-- So are the digits of a fraction, -/
theorem readFraction_extends (ht : Stops t) (any : Bool) (m : Nat) (e : Int) :
    Reader.Extends t (readFraction negative any m e) (readFraction negative any m e) := by
  intro s a r h
  induction s generalizing any m e with
  | nil =>
    cases any with
    | false => cases h
    | true =>
      have hstop : readFraction negative true m e t = readRealEnd negative m e t := by
        cases t with
        | nil => rfl
        | cons c t => simp [readFraction, (ht c rfl).1]
      rw [List.nil_append, hstop, readRealEnd_stop _ ht]
      exact finishReal_extends _ _ _ h
  | cons c s ih =>
    rw [List.cons_append]
    unfold readFraction at h ⊢
    split at h
    · next hd =>
      dsimp only at h ⊢
      rw [if_pos hd]
      split at h
      · next hm =>
        rw [if_pos hm, ht.dropDigits]
        exact readRealEnd_extends _ ht _ _ h
      · next hm =>
        rw [if_neg hm]
        exact ih _ _ _ h
    · next hd =>
      rw [if_neg hd]
      split at h
      · next hany =>
        rw [if_pos hany]
        exact readRealEnd_extends _ ht _ _ h
      · cases h

/-- those of an integer that is too long, -/
theorem readLongInteger_extends (ht : Stops t) (m : Nat) (e : Int) :
    Reader.Extends t (readLongInteger negative m e) (readLongInteger negative m e) := by
  intro s a r h
  induction s generalizing e with
  | nil =>
    have hstop : readLongInteger negative m e t = readRealEnd negative m e t := by
      cases t with
      | nil => rfl
      | cons c t => simp [readLongInteger, (ht c rfl).1, (ht c rfl).2.1]
    rw [List.nil_append, hstop, readRealEnd_stop _ ht]
    exact finishReal_extends _ _ _ h
  | cons c s ih =>
    rw [List.cons_append]
    unfold readLongInteger at h ⊢
    split at h
    · next hd =>
      rw [if_pos hd]
      exact ih _ h
    · next hd =>
      rw [if_neg hd]
      split at h
      · next hp =>
        rw [if_pos hp]
        exact readFraction_extends _ ht _ _ _ h
      · next hp =>
        rw [if_neg hp]
        exact readRealEnd_extends _ ht _ _ h

/-- what may follow an integer, -/
theorem readIntegerEnd_extends (ht : Stops t) (m : Nat) :
    Reader.Extends t (readIntegerEnd negative m) (readIntegerEnd negative m) := by
  intro s a r h
  unfold readIntegerEnd at h
  split at h
  · exact readFraction_extends _ ht _ _ _ h
  · exact readExponent_extends _ ht _ _ h
  · exact readExponent_extends _ ht _ _ h
  · next hp he hE =>
    cases h
    exact readIntegerEnd.eq_4 _ _ _
      (fun _ heq => hp _ (eq_cons_of_append_eq_cons (fun hc => (ht _ hc).2.1 rfl) heq))
      (fun _ heq => he _ (eq_cons_of_append_eq_cons (fun hc => (ht _ hc).2.2.1 rfl) heq))
      (fun _ heq => hE _ (eq_cons_of_append_eq_cons (fun hc => (ht _ hc).2.2.2 rfl) heq))

/-- and the digits of an integer. -/
theorem readIntegerDigits_extends (ht : Stops t) (m : Nat) :
    Reader.Extends t (readIntegerDigits negative m) (readIntegerDigits negative m) := by
  intro s a r h
  induction s generalizing m with
  | nil =>
    have hstop : readIntegerDigits negative m t = readIntegerEnd negative m t := by
      cases t with
      | nil => rfl
      | cons c t => simp [readIntegerDigits, (ht c rfl).1]
    rw [List.nil_append, hstop]
    exact @readIntegerEnd_extends _ negative ht m [] _ _ h
  | cons c s ih =>
    rw [List.cons_append]
    unfold readIntegerDigits at h ⊢
    split at h
    · next hd =>
      dsimp only at h ⊢
      rw [if_pos hd]
      split at h
      · next hm =>
        rw [if_pos hm]
        exact readLongInteger_extends _ ht _ _ h
      · next hm =>
        rw [if_neg hm]
        exact ih _ h
    · next hd =>
      rw [if_neg hd]
      exact readIntegerEnd_extends _ ht _ h

/-- **A number is read with more behind it,** if that stops the number. -/
theorem readNumber_extends (ht : Stops t) :
    Reader.Extends t (readNumber negative) (readNumber negative) := by
  intro s a r h
  rcases s with _ | ⟨c, s⟩
  · cases h
  · rw [List.cons_append]
    by_cases hc : c = '0'
    · subst hc
      rcases s with _ | ⟨d, s⟩
      · have hstop : readNumber negative ('0' :: t) = readIntegerEnd negative 0 t := by
          cases t with
          | nil => rfl
          | cons d t => simp [readNumber, (ht d rfl).1]
        rw [List.nil_append, hstop]
        exact @readIntegerEnd_extends _ negative ht 0 [] _ _ h
      · rw [List.cons_append]
        simp only [readNumber] at h ⊢
        split at h
        · cases h
        · next hd =>
          rw [if_neg hd]
          exact readIntegerEnd_extends negative ht 0 h
    · rw [readNumber.eq_4 _ _ _ hc] at h ⊢
      split at h
      · next hd =>
        rw [if_pos hd]
        exact readIntegerDigits_extends _ ht _ h
      · cases h

end Numbers

/-! ### Literals and strings -/

/-- A literal is read whatever follows. -/
theorem readLiteral_extends {α : Type} (value : α) (cs : List Char) :
    Reader.Extends t (readLiteral value cs) (readLiteral value cs) := by
  intro s a r h
  induction cs generalizing s with
  | nil =>
    cases h
    rfl
  | cons c cs ih =>
    cases s with
    | nil => cases h
    | cons d s =>
      rw [List.cons_append]
      simp only [readLiteral] at h ⊢
      split at h
      · next hc =>
        rw [if_pos hc]
        exact ih h
      · cases h

/-- Four hexadecimal digits are read whatever follows, -/
theorem readHex4_extends : Reader.Extends t readHex4 readHex4 := by
  intro s a r h
  unfold readHex4 at h
  split at h
  · split at h
    · next hw hx hy hz =>
      cases h
      simp [readHex4, hw, hx, hy, hz]
    · cases h
  · split at h <;> cases h

/-- so is a second surrogate, -/
theorem readLowSurrogate_extends (high : Nat) :
    Reader.Extends t (readLowSurrogate high) (readLowSurrogate high) := by
  intro s a r h
  unfold readLowSurrogate at h
  split at h
  · cases h
  · split at h
    · cases h
    · split at h
      · cases h
      · next hex =>
        simp only [List.cons_append, readLowSurrogate, readHex4_extends hex]
        split at h
        · next hlow =>
          obtain ⟨rfl, rfl⟩ := Prod.mk.inj (Except.ok.inj h)
          rw [if_pos hlow]
        · cases h
    · cases h
  · cases h

/-- an escaped code, -/
theorem readCodeEscape_extends : Reader.Extends t readCodeEscape readCodeEscape := by
  intro s a r h
  unfold readCodeEscape at h
  split at h
  · cases h
  · next hex =>
    simp only [readCodeEscape, readHex4_extends hex]
    split at h
    · cases h
    · next hlow =>
      rw [if_neg hlow]
      split at h
      · next hhigh =>
        rw [if_pos hhigh]
        exact readLowSurrogate_extends _ h
      · next hhigh =>
        cases h
        rw [if_neg hhigh]

/-- any escape, -/
theorem readEscape_extends : Reader.Extends t readEscape readEscape := by
  intro s a r h
  cases s with
  | nil => cases h
  | cons c s =>
    simp only [List.cons_append, readEscape] at h ⊢
    split_ifs at h ⊢ <;> first | exact readCodeEscape_extends h | (cases h; rfl) | cases h

/-- and a string up to its quote. -/
theorem readStringFrom_extends {n n' : Nat} (hn : n ≤ n') (acc : List Char) :
    Reader.Extends t (readStringFrom n acc) (readStringFrom n' acc) := by
  intro s a r h
  induction n generalizing n' acc s with
  | zero => cases h
  | succ n ih =>
    obtain ⟨n', rfl⟩ : ∃ k, n' = k + 1 := ⟨n' - 1, by omega⟩
    have hn := Nat.le_of_succ_le_succ hn
    cases s with
    | nil => cases h
    | cons c s =>
      simp only [List.cons_append, readStringFrom] at h ⊢
      split at h
      · next hq =>
        cases h
        rw [if_pos hq]
      · next hq =>
        rw [if_neg hq]
        split at h
        · next hb =>
          rw [if_pos hb]
          split at h
          · cases h
          · next hesc =>
            rw [readEscape_extends hesc]
            exact ih hn _ h
        · next hb =>
          rw [if_neg hb]
          split at h
          · cases h
          · next hctrl =>
            rw [if_neg hctrl]
            exact ih hn _ h

/-- **A string is read whatever follows.**. -/
theorem readString_extends : Reader.Extends t readString readString := fun _ _ _ h =>
  readStringFrom_extends (by simp) _ h

/-! ### Arrays and objects -/

/-- Blanks end at the same character with more behind it. -/
theorem skipSpace_append {s r : List Char} {c : Char} (h : skipSpace s = c :: r) :
    skipSpace (s ++ t) = c :: (r ++ t) := by
  unfold skipSpace at h ⊢
  rw [List.dropWhile_append, h]
  rfl

section Containers

variable {α : Type} {f g : Reader α}

/-- An item and those after it are read with more behind them if each is. -/
theorem readItemThen_extends (hfg : Reader.Extends t f g) {more more' : Reader (List α)}
    (hmore : Reader.Extends t more more') :
    Reader.Extends t (readItemThen f more) (readItemThen g more') := by
  intro s as r h
  unfold readItemThen at h ⊢
  split at h
  · cases h
  · next ha =>
    rw [hfg ha]
    dsimp only
    split at h
    · cases h
    · next has =>
      cases h
      rw [hmore has]

/-- Items are read whatever follows their bracket, by induction on how many may come. -/
theorem readItems_extends (hfg : Reader.Extends t f g) {n n' : Nat} (hn : n ≤ n')
    (first : Bool) : Reader.Extends t (readItems f n first) (readItems g n' first) := by
  intro s as r h
  induction n generalizing n' first s as r with
  | zero => cases h
  | succ n ih =>
    obtain ⟨n', rfl⟩ : ∃ k, n' = k + 1 := ⟨n' - 1, by omega⟩
    have next := readItemThen_extends hfg fun _ _ _ h => ih (Nat.le_of_succ_le_succ hn) false h
    unfold readItems at h
    split at h
    · cases h
    · next hs =>
      cases h
      rw [readItems, skipSpace_append hs]
      rfl
    · next c u hne hs =>
      have hc : c ≠ ']' := hne
      rw [readItems, skipSpace_append hs]
      split
      · next heq => cases heq
      · next heq =>
        cases heq
        exact absurd rfl hc
      · next heq =>
        cases heq
        split_ifs at h ⊢ with hcomma hfirst
        · cases hu : skipSpace u with
          | nil =>
            rw [hu] at h
            cases h
          | cons d u' =>
            rw [hu] at h
            rw [skipSpace_append hu]
            split at h
            · cases h
            · cases h
            · next hclose =>
              split
              · next heq => cases heq
              · next heq =>
                cases heq
                exact absurd rfl (hclose _)
              · exact next h
        · exact next h
        · cases h

/-- A colon is read whatever follows, -/
theorem readColon_append {s r : List Char} (h : readColon s = .ok r) :
    readColon (s ++ t) = .ok (r ++ t) := by
  unfold readColon at h
  split at h
  · cases h
  · next hs =>
    cases h
    rw [readColon, skipSpace_append hs]
    rfl
  · cases h

/-- so is a key, -/
theorem readKey_extends (first : Bool) :
    Reader.Extends t (readKey first) (readKey first) := by
  intro s k r h
  have key {s : List Char} (h : readKey.key s = .ok (k, r)) :
      readKey.key (s ++ t) = .ok (k, r ++ t) := by
    unfold readKey.key at h ⊢
    split at h
    · cases h
    · next hk =>
      cases h
      rw [readString_extends hk]
  unfold readKey at h
  split at h
  · cases h
  · next hs =>
    cases h
    rw [readKey, skipSpace_append hs]
    rfl
  · next c u hne hs =>
    rw [readKey, skipSpace_append hs]
    split
    · next heq => cases heq
    · next heq =>
      cases heq
      exact absurd rfl hne
    · next heq =>
      cases heq
      split_ifs at h ⊢ with hcomma hfirst hquote
      · split at h
        · cases h
        · next hu =>
          rw [skipSpace_append hu]
          exact key h
        · cases h
        · cases h
      · exact key h
      · cases h
      · cases h

/-- and members are read whatever follows their brace. -/
theorem readMembers_extends (hfg : Reader.Extends t f g) {n n' : Nat} (hn : n ≤ n')
    (first : Bool) : Reader.Extends t (readMembers f n first) (readMembers g n' first) := by
  intro s ms r h
  induction n generalizing n' first s ms r with
  | zero => cases h
  | succ n ih =>
    obtain ⟨n', rfl⟩ : ∃ k, n' = k + 1 := ⟨n' - 1, by omega⟩
    unfold readMembers at h
    split at h
    · cases h
    · next hkey =>
      cases h
      rw [readMembers, readKey_extends first hkey]
    · next hkey =>
      rw [readMembers, readKey_extends first hkey]
      dsimp only
      split at h
      · cases h
      · next hcolon =>
        rw [readColon_append hcolon]
        dsimp only
        split at h
        · cases h
        · next hvalue =>
          rw [hfg hvalue]
          dsimp only
          split at h
          · cases h
          · next hms =>
            cases h
            rw [ih (Nat.le_of_succ_le_succ hn) _ hms]

end Containers

/-! ### Values -/

/-- What is made of a result makes no difference. -/
theorem Reader.Extends.map {α β : Type} {f g : Reader α} (h : Reader.Extends t f g)
    (make : α → β) : Reader.Extends t (Reader.map make f) (Reader.map make g) := by
  intro s b r hb
  unfold Reader.map at hb ⊢
  split at hb
  · cases hb
  · next ha =>
    cases hb
    rw [h ha]

/-- A value that starts like a number is one. -/
theorem readValue_digit {depth : Nat} {s u : List Char} {c : Char} (hs : skipSpace s = c :: u)
    (hc : c.isDigit = true) :
    readValue depth s = Reader.map .number (readNumber false) (c :: u) := by
  rw [readValue, hs]
  split
  case h_9 =>
    next heq =>
      cases heq
      rw [if_pos hc]
  all_goals
    next heq =>
      cases heq <;> cases hc

/-- **Reading a value is local.**  What follows a value does not change it, provided that
it cannot be taken for more of a number. -/
theorem readValue_extends (ht : Stops t) (depth : Nat) :
    Reader.Extends t (readValue depth) (readValue depth) := by
  induction depth using Nat.strongRecOn with
  | ind depth ih =>
    intro s v r h
    unfold readValue at h
    split at h
    · cases h
    · next hs =>
      rw [readValue, skipSpace_append hs]
      exact readLiteral_extends _ _ h
    · next hs =>
      rw [readValue, skipSpace_append hs]
      exact readLiteral_extends _ _ h
    · next hs =>
      rw [readValue, skipSpace_append hs]
      exact readLiteral_extends _ _ h
    · next hs =>
      rw [readValue, skipSpace_append hs]
      exact readString_extends.map _ h
    · next hs =>
      rw [readValue, skipSpace_append hs]
      split at h
      · cases h
      · next depth =>
        refine (readItems_extends (ih depth (Nat.lt_succ_self depth)) ?_ true).map _ h
        simp
    · next hs =>
      rw [readValue, skipSpace_append hs]
      split at h
      · cases h
      · next depth =>
        refine (readMembers_extends (ih depth (Nat.lt_succ_self depth)) ?_ true).map _ h
        simp
    · next hs =>
      rw [readValue, skipSpace_append hs]
      exact (readNumber_extends _ ht).map _ h
    · next hs =>
      split_ifs at h with hd
      · rw [readValue_digit (skipSpace_append hs) hd]
        exact (readNumber_extends _ ht).map _ h
      · cases h

end Json
end Errand

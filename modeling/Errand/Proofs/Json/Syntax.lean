/-
# The syntax of JSON

A text spells a tree: null, a truth value, a number, a literal, or an array or object of
trees.  What stands between the quotes of a literal is left to a relation, so that one
grammar serves for the strings that literals decode to and for the pieces that a literal
is made of.  Keys are literals too, and an object keeps all its members in the order of
the text.

The grammar has no fuel and no position, only the depth that remains for nesting.  The
reader accepts the texts that spell a tree (`SpellsText.parseChars?`) and no others
(`SpellsText.of_parseChars?`).  What it reads is the value of the tree, in which of equal
keys the later wins.
-/

import Errand.Proofs.Json.Blanks
import Errand.Proofs.Json.Taken
import Mathlib.Data.List.Induction

namespace Errand
namespace Json

/-! ### Trees -/

/-- What a text spells, its literals being of type `α`. -/
inductive Tree (α : Type) where
  | null
  | bool (b : Bool)
  | number (n : Number)
  | string (literal : α)
  | array (items : List (Tree α))
  | object (members : List (α × Tree α))

namespace Tree

variable {α : Type}

mutual

/-- The value of a tree whose literals stand for strings. -/
def value (f : α → String) : Tree α → Value
  | .null => .null
  | .bool b => .bool b
  | .number n => .number n
  | .string a => .string (f a)
  | .array items => .array (Tree.values f items)
  | .object members => .ofPairs (Tree.pairs f members)

/-- The values of the items of an array. -/
def values (f : α → String) : List (Tree α) → List Value
  | [] => []
  | t :: r => t.value f :: Tree.values f r

/-- The keys and values of the members of an object. -/
def pairs (f : α → String) : List (α × Tree α) → List (String × Value)
  | [] => []
  | (a, t) :: r => (f a, t.value f) :: Tree.pairs f r

end

theorem values_eq_map (f : α → String) (items : List (Tree α)) :
    values f items = items.map (value f) := by
  induction items with
  | nil => rfl
  | cons t r ih => rw [values, List.map_cons, ih]

theorem pairs_eq_map (f : α → String) (members : List (α × Tree α)) :
    pairs f members = members.map fun m => (f m.1, m.2.value f) := by
  induction members with
  | nil => rfl
  | cons m r ih => rw [pairs, List.map_cons, ih]

end Tree

/-- **Of equal keys the later wins.** -/
theorem Members.find?_ofList (pairs : List (String × Value)) (key : String) :
    (Members.ofList pairs).find? key = (pairs.reverse.find? fun p => p.1 = key).map (·.2) := by
  induction pairs using List.reverseRecOn with
  | nil => rfl
  | append_singleton pairs p ih =>
    have hsnoc : Members.ofList (pairs ++ [p]) = (Members.ofList pairs).insert p.1 p.2 := by
      simp [Members.ofList]
    rw [hsnoc, List.reverse_concat, List.find?_cons]
    by_cases hp : p.1 = key
    · subst hp
      simp
    · rw [find?_insert_of_ne (Ne.symm hp), ih]
      simp [hp]

/-! ### The grammar -/

/-- The text is nothing but blanks. -/
abbrev Blanks (s : List Char) : Prop := s.all isSpace = true

/-- The sign of a numeral. -/
def sign (negative : Bool) : List Char := if negative then ['-'] else []

variable {α β γ : Type}

/-- The parts between two brackets: commas separate them, and blanks may stand around
them.  The mark says that no part stands before. -/
inductive Row (part : List Char → β → Prop) : Bool → List Char → List β → Prop
  | close {first : Bool} {pad : List Char} : Blanks pad → Row part first pad []
  | head {pad u rest : List Char} {x : β} {xs : List β} : Blanks pad → part u x →
      Row part false rest xs → Row part true (pad ++ (u ++ rest)) (x :: xs)
  | next {pad pad' u rest : List Char} {x : β} {xs : List β} : Blanks pad → Blanks pad' →
      part u x → Row part false rest xs →
        Row part false (pad ++ ',' :: (pad' ++ (u ++ rest))) (x :: xs)

/-- A key, a colon, and the part that stands under the key. -/
inductive Entry (lit : List Char → α → Prop) (part : List Char → β → Prop) :
    List Char → α × β → Prop
  | mk {k pad pad' u : List Char} {a : α} {x : β} : lit k a → Blanks pad → Blanks pad' →
      part u x → Entry lit part ('"' :: (k ++ '"' :: (pad ++ ':' :: (pad' ++ u)))) (a, x)

/-- The text spells the tree, with no blanks around it and at most `depth` levels of
arrays and objects in it.  The relation `inner` is any part of this very relation: it says
what the items of an array or the members of an object spell. -/
inductive Spells (lit : List Char → α → Prop) : (depth : Nat) → List Char → Tree α → Prop
  | null {depth : Nat} : Spells lit depth ['n', 'u', 'l', 'l'] .null
  | yes {depth : Nat} : Spells lit depth ['t', 'r', 'u', 'e'] (.bool true)
  | no {depth : Nat} : Spells lit depth ['f', 'a', 'l', 's', 'e'] (.bool false)
  | number {depth : Nat} {negative : Bool} {u : List Char} {n : Number} :
      readNumber negative u = .ok (n, []) → Spells lit depth (sign negative ++ u) (.number n)
  | string {depth : Nat} {u : List Char} {a : α} : lit u a →
      Spells lit depth ('"' :: (u ++ ['"'])) (.string a)
  | array {depth : Nat} {inner : List Char → Tree α → Prop} {u : List Char}
      {items : List (Tree α)} : (∀ w t, inner w t → Spells lit depth w t) →
        Row inner true u items → Spells lit (depth + 1) ('[' :: (u ++ [']'])) (.array items)
  | object {depth : Nat} {inner : List Char → Tree α → Prop} {u : List Char}
      {members : List (α × Tree α)} : (∀ w t, inner w t → Spells lit depth w t) →
        Row (Entry lit inner) true u members →
          Spells lit (depth + 1) ('{' :: (u ++ ['}'])) (.object members)

/-- The whole text spells the tree, with blanks around it. -/
inductive SpellsText (lit : List Char → α → Prop) : List Char → Tree α → Prop
  | mk {pad u trail : List Char} {t : Tree α} : Blanks pad → Blanks trail →
      Spells lit maxDepth u t → SpellsText lit (pad ++ (u ++ trail)) t

/-! ### What is spelt is read -/

/-- Blanks after blanks are blanks. -/
theorem Blanks.append {s t : List Char} (hs : Blanks s) (ht : Blanks t) : Blanks (s ++ t) := by
  rw [Blanks, List.all_append, hs, ht]
  rfl

/-- Blanks are passed over, up to what is none. -/
theorem skipSpace_blanks {pad s : List Char} {c : Char} (hpad : Blanks pad)
    (hc : isSpace c = false) : skipSpace (pad ++ c :: s) = c :: s := by
  rw [skipSpace_append_of_all hpad, skipSpace, List.dropWhile_cons_of_neg (by simp [hc])]

/-- The text starts like a part: neither with a blank nor with a closing bracket. -/
def Begins (u : List Char) : Prop :=
  ∃ c v, u = c :: v ∧ isSpace c = false ∧ c ≠ ']'

/-- A number begins with a digit. -/
theorem readNumber_begins {negative : Bool} {s r : List Char} {n : Number}
    (h : readNumber negative s = .ok (n, r)) : ∃ c u, s = c :: u ∧ c.isDigit = true := by
  rcases s with _ | ⟨c, s⟩
  · cases h
  · refine ⟨c, s, rfl, ?_⟩
    by_cases hc : c = '0'
    · rw [hc]
      rfl
    · rw [readNumber.eq_4 _ _ _ hc] at h
      split at h
      · assumption
      · cases h

/-- A digit is neither a blank nor a closing bracket. -/
theorem isDigit_begins {c : Char} (hc : c.isDigit = true) : isSpace c = false ∧ c ≠ ']' := by
  refine ⟨?_, ?_⟩
  · rw [Bool.eq_false_iff]
    intro hs
    rw [isDigit_of_isBlank (isBlank_of_isSpace hs)] at hc
    cases hc
  · rintro rfl
    cases hc

/-- What spells a tree begins with neither. -/
theorem Spells.begins {lit : List Char → α → Prop} {depth : Nat} {u : List Char} {t : Tree α}
    (h : Spells lit depth u t) : Begins u := by
  cases h with
  | @number _ negative u n h =>
    cases negative with
    | true => exact ⟨'-', u, rfl, rfl, by decide⟩
    | false =>
      obtain ⟨c, v, rfl, hc⟩ := readNumber_begins h
      exact ⟨c, v, rfl, isDigit_begins hc⟩
  | _ => exact ⟨_, _, rfl, rfl, by decide⟩

/-- Blanks before what stops a number stop it too. -/
theorem Stops.blanks {pad s : List Char} (hpad : Blanks pad) (hs : Stops s) :
    Stops (pad ++ s) := by
  cases pad with
  | nil => exact hs
  | cons c pad =>
    have hblank : (c :: pad).all Text.isBlank = true :=
      List.all_eq_true.2 fun d hd => isBlank_of_isSpace (List.all_eq_true.1 hpad d hd)
    exact fun d hd => stops_of_blank hblank d hd

/-- A row goes on with nothing that could continue a number. -/
theorem Row.stops {part : List Char → β → Prop} {u s : List Char} {xs : List β}
    (h : Row part false u xs) (hs : Stops s) : Stops (u ++ s) := by
  cases h with
  | close hpad => exact hs.blanks hpad
  | next hpad _ _ _ =>
    rw [List.append_assoc]
    refine Stops.blanks hpad fun c hc => ?_
    cases hc
    decide

theorem readItemThen_eq_ok {item : Reader γ} {more : Reader (List γ)} {s r : List Char}
    {ys : List γ} : readItemThen item more s = .ok (ys, r) ↔
      ∃ y s' ys', item s = .ok (y, s') ∧ more s' = .ok (ys', r) ∧ y :: ys' = ys := by
  unfold readItemThen
  constructor
  · intro h
    split at h
    · cases h
    · next hy =>
      split at h
      · cases h
      · next hys =>
        cases h
        exact ⟨_, _, _, hy, hys, rfl⟩
  · rintro ⟨y, s', ys', hy, hys, rfl⟩
    simp only [hy, hys]

section Steps

variable {item : Reader γ} {fuel : Nat} {s v w : List Char} {c : Char}

/-- The first item is read where one begins, -/
theorem readItems_first (hs : skipSpace s = c :: v) (hc : c ≠ ']') :
    readItems item (fuel + 1) true s = readItemThen item (readItems item fuel false) (c :: v) := by
  rw [readItems, hs]
  split
  · next heq => cases heq
  · next heq =>
    cases heq
    exact absurd rfl hc
  · next heq => rw [if_neg (by simp), if_pos rfl, ← heq]

/-- and so is an item behind a comma. -/
theorem readItems_comma (hs : skipSpace s = ',' :: v) (hv : skipSpace v = c :: w) (hc : c ≠ ']') :
    readItems item (fuel + 1) false s = readItemThen item (readItems item fuel false) (c :: w) := by
  rw [readItems, hs]
  split
  · next heq => cases heq
  · next heq => cases heq
  · next heq =>
    cases heq
    rw [if_pos ⟨rfl, rfl⟩, hv]
    split
    · next heq => cases heq
    · next heq =>
      cases heq
      exact absurd rfl hc
    · rfl

/-- The first key is read at its quote, -/
theorem readKey_first (hs : skipSpace s = '"' :: v) : readKey true s = readKey.key v := by
  rw [readKey, hs]
  rfl

/-- and so is a key behind a comma. -/
theorem readKey_comma (hs : skipSpace s = ',' :: v) (hv : skipSpace v = '"' :: w) :
    readKey false s = readKey.key w := by
  rw [readKey, hs]
  split
  · next heq => cases heq
  · next heq => cases heq
  · next heq =>
    cases heq
    rw [if_pos ⟨rfl, rfl⟩, hv]
    rfl

/-- A key is a string. -/
theorem readKey.key_eq_ok {k : Option String} {r : List Char} :
    readKey.key s = .ok (k, r) ↔ ∃ x, readString s = .ok (x, r) ∧ some x = k := by
  unfold readKey.key
  constructor
  · intro h
    split at h
    · cases h
    · next hx =>
      cases h
      exact ⟨_, hx, rfl⟩
  · rintro ⟨x, hx, rfl⟩
    rw [hx]

/-- A member is a key, a colon and a value, with the other members after it. -/
theorem readMembers_eq_ok {first : Bool} {r : List Char} {ms : List (String × γ)} :
    readMembers item (fuel + 1) first s = .ok (ms, r) ↔
      (readKey first s = .ok (none, r) ∧ ms = []) ∨
        ∃ k y s₁ s₂ s₃ ms', readKey first s = .ok (some k, s₁) ∧ readColon s₁ = .ok s₂ ∧
          item s₂ = .ok (y, s₃) ∧ readMembers item fuel false s₃ = .ok (ms', r) ∧
            (k, y) :: ms' = ms := by
  rw [readMembers]
  constructor
  · intro h
    split at h
    · cases h
    · next hk =>
      cases h
      exact .inl ⟨hk, rfl⟩
    · next hk =>
      split at h
      · cases h
      · next hc =>
        split at h
        · cases h
        · next hy =>
          split at h
          · cases h
          · next hms =>
            cases h
            exact .inr ⟨_, _, _, _, _, _, hk, hc, hy, hms, rfl⟩
  · rintro (⟨hk, rfl⟩ | ⟨k, y, s₁, s₂, s₃, ms', hk, hc, hy, hms, rfl⟩)
    · rw [hk]
    · simp only [hk, hc, hy, hms]

end Steps

/-- The items of a spelt array are read. -/
theorem Row.readItems {part : List Char → β → Prop} {item : Reader γ} {g : β → γ}
    (hitem : ∀ u x r, part u x → Stops r → item (u ++ r) = .ok (g x, r))
    (hpart : ∀ u x, part u x → Begins u) {first : Bool} {u : List Char} {xs : List β}
    (h : Row part first u xs) {fuel : Nat} (hfuel : u.length < fuel) (r : List Char) :
    Json.readItems item fuel first (u ++ ']' :: r) = .ok (xs.map g, r) := by
  have hclose : Stops (']' :: r) := by
    rintro _ ⟨⟩
    decide
  induction h generalizing fuel with
  | close hpad =>
    obtain ⟨fuel, rfl⟩ : ∃ k, fuel = k + 1 := ⟨fuel - 1, by omega⟩
    rw [Json.readItems, skipSpace_blanks hpad rfl]
    rfl
  | @head pad u rest x xs hpad hx hrest ih =>
    obtain ⟨fuel, rfl⟩ : ∃ k, fuel = k + 1 := ⟨fuel - 1, by omega⟩
    have hthis := hitem u x _ hx (hrest.stops hclose)
    obtain ⟨c, v, rfl, hc, hne⟩ := hpart u x hx
    have hthen := @ih fuel (by simp at hfuel; omega)
    rw [List.append_assoc, List.append_assoc, List.cons_append,
      readItems_first (skipSpace_blanks hpad hc) hne]
    exact readItemThen_eq_ok.2 ⟨_, _, _, hthis, hthen, rfl⟩
  | @next pad pad' u rest x xs hpad hpad' hx hrest ih =>
    obtain ⟨fuel, rfl⟩ : ∃ k, fuel = k + 1 := ⟨fuel - 1, by omega⟩
    have hthis := hitem u x _ hx (hrest.stops hclose)
    obtain ⟨c, v, rfl, hc, hne⟩ := hpart u x hx
    have hthen := @ih fuel (by simp at hfuel; omega)
    rw [List.append_assoc, List.cons_append, List.append_assoc, List.append_assoc,
      List.cons_append, readItems_comma (skipSpace_blanks hpad rfl) (skipSpace_blanks hpad' hc) hne]
    exact readItemThen_eq_ok.2 ⟨_, _, _, hthis, hthen, rfl⟩

/-- Between the quotes of a spelt literal stands what is read as `f` says. -/
def Reads (lit : List Char → α → Prop) (f : α → String) : Prop :=
  ∀ u a, lit u a → ∀ r, readString (u ++ '"' :: r) = .ok (f a, r)

/-- After the last part only blanks are left. -/
theorem Row.blanks_of_nil {part : List Char → β → Prop} {first : Bool} {u : List Char}
    (h : Row part first u []) : Blanks u := by
  cases h with
  | close hpad => exact hpad

/-- The first member of a row: its key and its colon are read, and what it is spelt by stands
next, with the members after it. -/
theorem Row.readKey_member {lit : List Char → α → Prop} {f : α → String} (hlit : Reads lit f)
    {part : List Char → β → Prop} {first : Bool} {u : List Char} {a : α} {x : β}
    {xs : List (α × β)} (h : Row (Entry lit part) first u ((a, x) :: xs)) :
    ∃ colon pad w rest, Blanks pad ∧ part w x ∧ Row (Entry lit part) false rest xs ∧
      rest.length < u.length ∧ ∀ r,
        readKey first (u ++ r) = .ok (some (f a), colon ++ (rest ++ r)) ∧
          readColon (colon ++ (rest ++ r)) = .ok (pad ++ (w ++ (rest ++ r))) := by
  have hkey {k s : List Char} (hk : lit k a) :
      readKey.key (k ++ '"' :: s) = .ok (some (f a), s) :=
    readKey.key_eq_ok.2 ⟨_, hlit k a hk s, rfl⟩
  have hcolon {pad s t : List Char} (hpad : Blanks pad) (ht : t = pad ++ ':' :: s) :
      readColon t = .ok s := by
    rw [ht, readColon, skipSpace_blanks hpad rfl]
    rfl
  cases h with
  | @head pad _ rest _ _ hpad hx hrest =>
    obtain @⟨k, pad₁, pad₂, w, _, _, hk, hpad₁, hpad₂, hw⟩ := hx
    refine ⟨pad₁ ++ ':' :: (pad₂ ++ w), pad₂, w, rest, hpad₂, hw, hrest, by simp; omega,
      fun r => ⟨?_, hcolon hpad₁ (by simp)⟩⟩
    rw [List.append_assoc, List.append_assoc, List.cons_append,
      readKey_first (skipSpace_blanks hpad rfl), List.append_assoc]
    exact hkey hk
  | @next pad pad' _ rest _ _ hpad hpad' hx hrest =>
    obtain @⟨k, pad₁, pad₂, w, _, _, hk, hpad₁, hpad₂, hw⟩ := hx
    refine ⟨pad₁ ++ ':' :: (pad₂ ++ w), pad₂, w, rest, hpad₂, hw, hrest, by simp; omega,
      fun r => ⟨?_, hcolon hpad₁ (by simp)⟩⟩
    rw [List.append_assoc, List.cons_append, List.append_assoc, List.append_assoc,
      List.cons_append, readKey_comma (skipSpace_blanks hpad rfl) (skipSpace_blanks hpad' rfl),
      List.append_assoc]
    exact hkey hk

/-- The members of a spelt object are read. -/
theorem Row.readMembers {lit : List Char → α → Prop} {f : α → String} (hlit : Reads lit f)
    {part : List Char → β → Prop} {item : Reader γ} {g : β → γ}
    (hitem : ∀ pad u x r, Blanks pad → part u x → Stops r →
      item (pad ++ (u ++ r)) = .ok (g x, r))
    {first : Bool} {u : List Char} {xs : List (α × β)}
    (h : Row (Entry lit part) first u xs) {fuel : Nat} (hfuel : u.length < fuel)
    (r : List Char) :
    Json.readMembers item fuel first (u ++ '}' :: r) =
      .ok (xs.map fun m => (f m.1, g m.2), r) := by
  have hclose : Stops ('}' :: r) := by
    rintro _ ⟨⟩
    decide
  induction xs generalizing first u fuel with
  | nil =>
    obtain ⟨fuel, rfl⟩ : ∃ k, fuel = k + 1 := ⟨fuel - 1, by omega⟩
    refine readMembers_eq_ok.2 (.inl ⟨?_, rfl⟩)
    rw [readKey, skipSpace_blanks h.blanks_of_nil rfl]
    rfl
  | cons m xs ih =>
    obtain ⟨fuel, rfl⟩ : ∃ k, fuel = k + 1 := ⟨fuel - 1, by omega⟩
    obtain ⟨colon, pad, w, rest, hpad, hw, hrest, hlength, hread⟩ := h.readKey_member hlit
    obtain ⟨hkey, hcolon⟩ := hread ('}' :: r)
    have hvalue := hitem pad w m.2 _ hpad hw (hrest.stops hclose)
    exact readMembers_eq_ok.2
      (.inr ⟨_, _, _, _, _, _, hkey, hcolon, hvalue, ih hrest (by omega), rfl⟩)

/-- Blanks before a value are passed over. -/
theorem readValue_blanks {depth : Nat} {pad s : List Char} (hpad : Blanks pad) :
    readValue depth (pad ++ s) = readValue depth s :=
  readValue_congr (skipSpace_append_of_all hpad)

/-- A literal is read where it stands. -/
theorem readLiteral_append {value : γ} (cs r : List Char) :
    readLiteral value cs (cs ++ r) = .ok (value, r) := by
  induction cs with
  | nil => rfl
  | cons c cs ih => rw [List.cons_append, readLiteral, if_pos rfl, ih]

/-- **A text that spells a tree is read as its value.** -/
theorem Spells.readValue {lit : List Char → α → Prop} {f : α → String} (hlit : Reads lit f)
    {depth : Nat} {u : List Char} {t : Tree α} (h : Spells lit depth u t) {r : List Char}
    (hr : Stops r) : Json.readValue depth (u ++ r) = .ok (t.value f, r) := by
  induction h generalizing r with
  | null =>
    rw [Json.readValue]
    exact readLiteral_append ['u', 'l', 'l'] r
  | yes =>
    rw [Json.readValue]
    exact readLiteral_append ['r', 'u', 'e'] r
  | no =>
    rw [Json.readValue]
    exact readLiteral_append ['a', 'l', 's', 'e'] r
  | @number _ negative u n h =>
    have hn : readNumber negative (u ++ r) = .ok (n, r) := readNumber_extends _ hr h
    cases negative with
    | true =>
      rw [Json.readValue]
      exact Reader.map_eq_ok.2 ⟨n, hn, rfl⟩
    | false =>
      obtain ⟨c, v, rfl, hc⟩ := readNumber_begins h
      have hskip : skipSpace (c :: v ++ r) = c :: (v ++ r) :=
        @skipSpace_blanks [] _ _ rfl (isDigit_begins hc).1
      exact (readValue_digit hskip hc).trans (Reader.map_eq_ok.2 ⟨n, hn, rfl⟩)
  | @string _ u a ha =>
    rw [List.cons_append, List.append_assoc, Json.readValue]
    exact Reader.map_eq_ok.2 ⟨f a, hlit u a ha r, rfl⟩
  | @array depth inner u items hin hrow ih =>
    rw [List.cons_append, List.append_assoc, Json.readValue, Tree.value, Tree.values_eq_map]
    refine Reader.map_eq_ok.2 ⟨_, hrow.readItems (g := Tree.value f) ?_ ?_ ?_ r, rfl⟩
    · exact fun w t r hw hr => ih w t hw hr
    · exact fun w t hw => (hin w t hw).begins
    · simp only [List.length_append, List.length_cons]
      omega
  | @object depth inner u members hin hrow ih =>
    rw [List.cons_append, List.append_assoc, Json.readValue, Tree.value, Tree.pairs_eq_map]
    refine Reader.map_eq_ok.2 ⟨_, hrow.readMembers hlit (g := Tree.value f) ?_ ?_ r, rfl⟩
    · exact fun pad w t r hpad hw hr => (readValue_blanks hpad).trans (ih w t hw hr)
    · simp only [List.length_append, List.length_cons]
      omega

/-! ### What is read is spelt -/

/-- What is read from between quotes is spelt there by some literal. -/
def Covers (lit : List Char → α → Prop) (f : α → String) : Prop :=
  ∀ s x r, readString s = .ok (x, r) → ∃ u a, s = u ++ '"' :: r ∧ lit u a ∧ f a = x

/-- What is skipped are blanks. -/
theorem blanks_skipSpace (s : List Char) : ∃ pad, Blanks pad ∧ s = pad ++ skipSpace s :=
  ⟨s.takeWhile isSpace, List.all_takeWhile, List.takeWhile_append_dropWhile.symm⟩

/-- A literal that was read stood there. -/
theorem readLiteral_spelt {value a : γ} {cs s r : List Char}
    (h : readLiteral value cs s = .ok (a, r)) : s = cs ++ r := by
  induction cs generalizing s with
  | nil =>
    cases h
    rfl
  | cons c cs ih =>
    cases s with
    | nil => cases h
    | cons d s =>
      unfold readLiteral at h
      split at h
      · next hc => rw [← hc, ih h, List.cons_append]
      · cases h

/-- What `item` reads is spelt as a part with blanks before it. -/
def Finds (part : List Char → β → Prop) (item : Reader γ) (g : β → γ) : Prop :=
  ∀ s y r, item s = .ok (y, r) → ∃ pad u x, Blanks pad ∧ s = pad ++ (u ++ r) ∧ part u x ∧ g x = y

/-- Items that are read are a row. -/
theorem Row.of_readItems {part : List Char → β → Prop} {item : Reader γ} {g : β → γ}
    (hitem : Finds part item g) {fuel : Nat} {first : Bool} {s r : List Char} {ys : List γ}
    (h : Json.readItems item fuel first s = .ok (ys, r)) :
    ∃ u xs, s = u ++ ']' :: r ∧ Row part first u xs ∧ xs.map g = ys := by
  induction fuel generalizing first s ys with
  | zero => cases h
  | succ fuel ih =>
    obtain ⟨pad, hpad, hs⟩ := blanks_skipSpace s
    unfold Json.readItems at h
    split at h
    · cases h
    · next hskip =>
      cases h
      exact ⟨pad, [], by rw [hs, hskip], .close hpad, rfl⟩
    · next c v hne hskip =>
      split_ifs at h with hcomma hfirst
      · obtain ⟨rfl, rfl⟩ := hcomma
        obtain ⟨pad', hpad', hv⟩ := blanks_skipSpace v
        split at h
        · cases h
        · cases h
        · obtain ⟨y, s', ys', hy, hys, rfl⟩ := readItemThen_eq_ok.1 h
          obtain ⟨pad₂, u, x, hpad₂, hu, hx, rfl⟩ := hitem _ _ _ hy
          obtain ⟨rest, xs, rfl, hrest, rfl⟩ := ih hys
          refine ⟨pad ++ ',' :: ((pad' ++ pad₂) ++ (u ++ rest)), x :: xs, ?_,
            .next hpad (hpad'.append hpad₂) hx hrest, rfl⟩
          rw [hs, hskip, hv, hu]
          simp
      · subst hfirst
        obtain ⟨y, s', ys', hy, hys, rfl⟩ := readItemThen_eq_ok.1 h
        obtain ⟨pad₂, u, x, hpad₂, hu, hx, rfl⟩ := hitem _ _ _ hy
        obtain ⟨rest, xs, rfl, hrest, rfl⟩ := ih hys
        refine ⟨(pad ++ pad₂) ++ (u ++ rest), x :: xs, ?_, .head (hpad.append hpad₂) hx hrest, rfl⟩
        rw [hs, hskip, hu]
        simp
      · cases h

/-- How a row goes on that a key was read in. -/
theorem readKey_spelt {first : Bool} {s r : List Char} {k : Option String}
    (h : readKey first s = .ok (k, r)) :
    (k = none ∧ ∃ pad, Blanks pad ∧ s = pad ++ '}' :: r) ∨
      ∃ x v, k = some x ∧ readString v = .ok (x, r) ∧ ∃ pad, Blanks pad ∧
        ((first = true ∧ s = pad ++ '"' :: v) ∨
          (first = false ∧ ∃ pad', Blanks pad' ∧ s = pad ++ ',' :: (pad' ++ '"' :: v))) := by
  obtain ⟨pad, hpad, hs⟩ := blanks_skipSpace s
  unfold readKey at h
  split at h
  · cases h
  · next hskip =>
    cases h
    exact .inl ⟨rfl, pad, hpad, by rw [hs, hskip]⟩
  · next c v hne hskip =>
    split_ifs at h with hcomma hfirst hquote
    · obtain ⟨rfl, rfl⟩ := hcomma
      obtain ⟨pad', hpad', hv⟩ := blanks_skipSpace v
      split at h
      · cases h
      · next w hskip' =>
        obtain ⟨x, hx, rfl⟩ := readKey.key_eq_ok.1 h
        exact .inr ⟨x, w, rfl, hx, pad, hpad,
          .inr ⟨rfl, pad', hpad', by rw [hs, hskip, hv, hskip']⟩⟩
      · cases h
      · cases h
    · subst hfirst hquote
      obtain ⟨x, hx, rfl⟩ := readKey.key_eq_ok.1 h
      exact .inr ⟨x, v, rfl, hx, pad, hpad, .inl ⟨rfl, by rw [hs, hskip]⟩⟩
    · cases h
    · cases h

/-- A colon that was read stood there, behind blanks. -/
theorem readColon_spelt {s r : List Char} (h : readColon s = .ok r) :
    ∃ pad, Blanks pad ∧ s = pad ++ ':' :: r := by
  obtain ⟨pad, hpad, hs⟩ := blanks_skipSpace s
  unfold readColon at h
  split at h
  · cases h
  · next hskip =>
    cases h
    exact ⟨pad, hpad, by rw [hs, hskip]⟩
  · cases h

/-- Members that are read are a row of entries. -/
theorem Row.of_readMembers {lit : List Char → α → Prop} {f : α → String} (hlit : Covers lit f)
    {part : List Char → β → Prop} {item : Reader γ} {g : β → γ} (hitem : Finds part item g)
    {fuel : Nat} {first : Bool} {s r : List Char} {ms : List (String × γ)}
    (h : Json.readMembers item fuel first s = .ok (ms, r)) :
    ∃ u xs, s = u ++ '}' :: r ∧ Row (Entry lit part) first u xs ∧
      xs.map (fun m => (f m.1, g m.2)) = ms := by
  induction fuel generalizing first s ms with
  | zero => cases h
  | succ fuel ih =>
    obtain ⟨hk, rfl⟩ | ⟨k, y, s₁, s₂, s₃, ms', hk, hc, hy, hms, rfl⟩ := readMembers_eq_ok.1 h
    · obtain ⟨-, pad, hpad, rfl⟩ | ⟨_, _, hk, -⟩ := readKey_spelt hk
      · exact ⟨pad, [], rfl, .close hpad, rfl⟩
      · cases hk
    · obtain ⟨hk, -⟩ | ⟨x, v, hx, hv, pad, hpad, hs⟩ := readKey_spelt hk
      · cases hk
      · cases hx
        obtain ⟨w, a, rfl, ha, rfl⟩ := hlit _ _ _ hv
        obtain ⟨pad₁, hpad₁, rfl⟩ := readColon_spelt hc
        obtain ⟨pad₂, u, x, hpad₂, rfl, hx, rfl⟩ := hitem _ _ _ hy
        obtain ⟨rest, xs, rfl, hrest, rfl⟩ := ih hms
        have hentry := Entry.mk ha hpad₁ hpad₂ hx
        obtain ⟨rfl, rfl⟩ | ⟨rfl, pad', hpad', rfl⟩ := hs
        · exact ⟨_, (a, x) :: xs, by simp, .head hpad hentry hrest, rfl⟩
        · exact ⟨_, (a, x) :: xs, by simp, .next hpad hpad' hentry hrest, rfl⟩

/-- A number that was read stood there, and is read alone. -/
theorem readNumber_spelt {negative : Bool} {s r : List Char} {n : Number}
    (h : readNumber negative s = .ok (n, r)) :
    ∃ u, s = u ++ r ∧ readNumber negative u = .ok (n, []) := by
  obtain ⟨u, hs, hu, -⟩ := readNumber_taken h
  exact ⟨u, hs, hu⟩

/-- **A value that is read is that of a tree which the text spells.** -/
theorem Spells.of_readValue {lit : List Char → α → Prop} {f : α → String} (hlit : Covers lit f)
    (depth : Nat) : Finds (Spells lit depth) (Json.readValue depth) (Tree.value f) := by
  induction depth using Nat.strongRecOn with
  | ind depth ih =>
    intro s v r h
    obtain ⟨pad, hpad, hs⟩ := blanks_skipSpace s
    have found {u : List Char} {t : Tree α} (hu : skipSpace s = u ++ r)
        (ht : Spells lit depth u t) (hv : t.value f = v) :
        ∃ pad u t, Blanks pad ∧ s = pad ++ (u ++ r) ∧ Spells lit depth u t ∧ t.value f = v :=
      ⟨pad, u, t, hpad, hu ▸ hs, ht, hv⟩
    unfold Json.readValue at h
    split at h
    · cases h
    · next hskip =>
      exact found (by rw [hskip, readLiteral_spelt h]; rfl) .null (readLiteral_eq_ok h).symm
    · next hskip =>
      exact found (by rw [hskip, readLiteral_spelt h]; rfl) .yes (readLiteral_eq_ok h).symm
    · next hskip =>
      exact found (by rw [hskip, readLiteral_spelt h]; rfl) .no (readLiteral_eq_ok h).symm
    · next hskip =>
      obtain ⟨x, hx, rfl⟩ := Reader.map_eq_ok.1 h
      obtain ⟨u, a, rfl, ha, rfl⟩ := hlit _ _ _ hx
      exact found (by simp [hskip]) (.string ha) rfl
    · next hskip =>
      split at h
      · cases h
      · next depth =>
        obtain ⟨ys, hys, rfl⟩ := Reader.map_eq_ok.1 h
        obtain ⟨u, items, rfl, hrow, rfl⟩ := Row.of_readItems (ih depth (by omega)) hys
        refine found (by simp [hskip]) (.array (fun _ _ h => h) hrow) ?_
        rw [Tree.value, Tree.values_eq_map]
    · next hskip =>
      split at h
      · cases h
      · next depth =>
        obtain ⟨ms, hms, rfl⟩ := Reader.map_eq_ok.1 h
        obtain ⟨u, members, rfl, hrow, rfl⟩ := Row.of_readMembers hlit (ih depth (by omega)) hms
        refine found (by simp [hskip]) (.object (fun _ _ h => h) hrow) ?_
        rw [Tree.value, Tree.pairs_eq_map]
    · next hskip =>
      obtain ⟨n, hn, rfl⟩ := Reader.map_eq_ok.1 h
      obtain ⟨u, rfl, hu⟩ := readNumber_spelt hn
      exact found (by rw [hskip]; rfl) (@Spells.number _ _ _ true _ _ hu) rfl
    · next hskip =>
      split_ifs at h with hd
      · obtain ⟨n, hn, rfl⟩ := Reader.map_eq_ok.1 h
        obtain ⟨u, hu, hread⟩ := readNumber_spelt hn
        exact found (by rw [hskip, hu]; rfl) (@Spells.number _ _ _ false _ _ hread) rfl
      · cases h

/-- **A text that spells a tree is accepted.** -/
theorem SpellsText.parseChars? {lit : List Char → α → Prop} {f : α → String}
    (hlit : Reads lit f) {s : List Char} {t : Tree α} (h : SpellsText lit s t) :
    Json.parseChars? s = some (t.value f) := by
  obtain ⟨hpad, htrail, ht⟩ := h
  have hstops : Stops _ := stops_of_blank (List.all_eq_true.2 fun c hc =>
    isBlank_of_isSpace (List.all_eq_true.1 htrail c hc))
  refine parseChars?_eq_some.2 ⟨_, ?_, htrail⟩
  rw [readValue_blanks hpad]
  exact ht.readValue hlit hstops

/-- **A text that is accepted spells a tree.** -/
theorem SpellsText.of_parseChars? {lit : List Char → α → Prop} {f : α → String}
    (hlit : Covers lit f) {s : List Char} {v : Value} (h : Json.parseChars? s = some v) :
    ∃ t, SpellsText lit s t ∧ t.value f = v := by
  obtain ⟨trail, hv, htrail⟩ := parseChars?_eq_some.1 h
  obtain ⟨pad, u, t, hpad, rfl, ht, rfl⟩ := Spells.of_readValue hlit _ _ _ _ hv
  exact ⟨t, .mk hpad htrail ht, rfl⟩

end Json
end Errand

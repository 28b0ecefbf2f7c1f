/-
# Written forms and what is read from them

The compact form of a value and its pretty form differ in blanks alone (`IsForm`).  What can be
said of the one can be said of the other.  A form spells the tree of its value
(`IsForm.spells`), and a legible value is read from it (`IsForm.readValue`).

No other value is.  A reader that comes through a form takes each part of it for a part of the
value: the brackets, commas and quotes say where one ends, and no numeral is cut short, because
what follows it bars it from going on (`Bars`).  So the parts that are read stand in the places
of those that were written (`Returns`), by induction on the depth that is left; and where each
is what was written, each numeral is read as the number that it was written for
(`IsForm.returns`).
-/

import Errand.Proofs.Json.ReadBack
import Mathlib.Data.List.Forall2

namespace Errand
namespace Json

variable {α β γ : Type}

/-! ### The layout -/

/-- A new line and its indent are blanks. -/
theorem blanks_newline (depth : Nat) : Blanks (newline depth) := by
  refine List.all_eq_true.2 fun c hc => ?_
  rcases List.mem_cons.1 hc with rfl | hc
  · rfl
  · rw [List.eq_of_mem_replicate hc]
    rfl

/-- Parts after the first, and what stands before the closing bracket. -/
def lines (write : β → List Char) (pad pad' : List Char) (xs : List β) : List Char :=
  xs.flatMap (fun x => ',' :: (pad ++ write x)) ++ pad'

/-- One line more begins with a comma. -/
theorem lines_cons (write : β → List Char) (pad pad' : List Char) (x : β) (xs : List β) :
    lines write pad pad' (x :: xs) = ',' :: (pad ++ (write x ++ lines write pad pad' xs)) := by
  simp [lines]

/-- A member, with what stands after its colon. -/
def memberLine (gap : List Char) (write : β → List Char) (m : String × β) : List Char :=
  quoteChars m.1.toList ++ ':' :: (gap ++ write m.2)

/-- The line of a member is its key between quotes, a colon, and its value. -/
theorem memberLine_append (gap : List Char) (write : β → List Char) (m : String × β)
    (s : List Char) : memberLine gap write m ++ s =
      '"' :: (escapeChars m.1.toList ++ '"' :: ':' :: (gap ++ (write m.2 ++ s))) := by
  simp [memberLine, quoteChars]

/-- The items of a pretty array stand on a line each. -/
theorem prettyItems_cons (depth : Nat) (v : Value) (r : List Value) (pad : List Char) :
    Value.prettyItems depth (v :: r) ++ pad = newline depth ++
      (v.prettyChars depth ++ lines (Value.prettyChars depth) (newline depth) pad r) := by
  induction r generalizing v with
  | nil => simp [Value.prettyItems, lines]
  | cons w r ih =>
    rw [Value.prettyItems, lines_cons, ← ih]
    · simp
    · exact List.cons_ne_nil w r

/-- The members of a pretty object stand on a line each. -/
theorem prettyMembers_cons (depth : Nat) (m : String × Value) (r : List (String × Value))
    (pad : List Char) : Value.prettyMembers depth (m :: r) ++ pad = newline depth ++
      (memberLine [' '] (Value.prettyChars depth) m ++
        lines (memberLine [' '] (Value.prettyChars depth)) (newline depth) pad r) := by
  induction r generalizing m with
  | nil => simp [Value.prettyMembers, memberLine, lines]
  | cons n r ih =>
    rw [Value.prettyMembers, lines_cons, ← ih]
    · simp [memberLine]
    · exact List.cons_ne_nil n r

/-- A pretty array is brackets around its lines. -/
theorem prettyChars_array (depth : Nat) (v : Value) (r : List Value) :
    (Value.array (v :: r)).prettyChars depth = '[' :: (newline (depth + 1) ++
      (v.prettyChars (depth + 1) ++ lines (Value.prettyChars (depth + 1)) (newline (depth + 1))
        (newline depth) r) ++ [']']) := by
  rw [Value.prettyChars, ← prettyItems_cons]
  · simp
  · exact List.cons_ne_nil v r

/-- A pretty object is braces around its lines. -/
theorem prettyChars_object (depth : Nat) (m : String × Value) (r : List (String × Value)) :
    (Value.object (m :: r)).prettyChars depth = '{' :: (newline (depth + 1) ++
      (memberLine [' '] (Value.prettyChars (depth + 1)) m ++
        lines (memberLine [' '] (Value.prettyChars (depth + 1))) (newline (depth + 1))
          (newline depth) r) ++ ['}']) := by
  rw [Value.prettyChars, ← prettyMembers_cons]
  · simp
  · exact List.cons_ne_nil m r

/-- Whether a value has items or members. -/
def Value.hasParts : Value → Bool
  | .array (_ :: _) | .object (_ :: _) => true
  | _ => false

/-- A form of values: before each item of an array, and each member of an object, stand the
blanks `pad k`, and `pad' k` after the last, where `k` says how many levels in the array stands;
after the colon of a member stand the blanks `gap`.  Whatever has no items or members is written
as in the compact form. -/
structure IsForm (write : Nat → Value → List Char) (gap : List Char) (pad pad' : Nat → List Char) :
    Prop where
  gap_blank : Blanks gap
  pad_blank : ∀ k, Blanks (pad k) ∧ Blanks (pad' k)
  plain : ∀ k v, v.hasParts = false → write k v = v.compactChars
  array : ∀ k v r, write k (.array (v :: r)) = '[' :: (pad k ++ (write (k + 1) v ++
    lines (write (k + 1)) (pad k) (pad' k) r) ++ [']'])
  object : ∀ k m r, write k (.object (m :: r)) = '{' :: (pad k ++
    (memberLine gap (write (k + 1)) m ++
      lines (memberLine gap (write (k + 1))) (pad k) (pad' k) r) ++ ['}'])

/-- The pretty form. -/
theorem pretty_isForm :
    IsForm Value.prettyChars [' '] (fun k => newline (k + 1)) newline where
  gap_blank := rfl
  pad_blank k := ⟨blanks_newline _, blanks_newline _⟩
  plain k v hv := by
    cases v with
    | null | number | string => rfl
    | bool b => cases b <;> rfl
    | array items =>
      cases items with
      | nil => rfl
      | cons v r => cases hv
    | object members =>
      cases members with
      | nil => rfl
      | cons m r => cases hv
  array := prettyChars_array
  object := prettyChars_object

/-- The compact form. -/
theorem compact_isForm : IsForm (fun _ => Value.compactChars) [] (fun _ => []) fun _ => [] where
  gap_blank := rfl
  pad_blank _ := ⟨rfl, rfl⟩
  plain _ _ _ := rfl
  array _ v r := by
    rw [Value.compactChars, compactItems_cons]
    simp [lines]
  object _ m r := by
    rw [Value.compactChars, compactMembers_cons]
    simp [lines, memberLine, memberChars]

/-! ### What a form spells -/

/-- Parts on lines of their own make a row. -/
theorem Row.of_lines {part : List Char → β → Prop} {write : γ → List Char} {make : γ → β}
    {pad pad' : List Char} (hpad : Blanks pad) (hpad' : Blanks pad') {xs : List γ}
    (h : ∀ x ∈ xs, part (write x) (make x)) :
    Row part false (lines write pad pad' xs) (xs.map make) := by
  induction xs with
  | nil => exact .close hpad'
  | cons x xs ih =>
    obtain ⟨hx, hxs⟩ := List.forall_mem_cons.1 h
    rw [lines_cons]
    exact @Row.next _ _ [] pad _ _ _ _ rfl hpad hx (ih hxs)

/-- The numbers of the value are legible, and it nests no deeper.  Its members may stand in any
order. -/
inductive Value.Writable : (depth : Nat) → Value → Prop
  | null {depth : Nat} : Writable depth .null
  | bool {depth : Nat} {b : Bool} : Writable depth (.bool b)
  | number {depth : Nat} {n : Number} : n.Legible → Writable depth (.number n)
  | string {depth : Nat} {s : String} : Writable depth (.string s)
  | array {depth : Nat} {items : List Value} : (∀ v ∈ items, Writable depth v) →
      Writable (depth + 1) (.array items)
  | object {depth : Nat} {members : Members} : (∀ m ∈ members, Writable depth m.2) →
      Writable (depth + 1) (.object members)

/-- What can be read back can be written. -/
theorem Value.Legible.writable {depth : Nat} {v : Value} (h : v.Legible depth) :
    v.Writable depth := by
  induction h with
  | null => exact .null
  | bool => exact .bool
  | number hn => exact .number hn
  | string => exact .string
  | array _ ih => exact .array ih
  | object _ _ ih => exact .object ih

section Forms

variable {write : Nat → Value → List Char} {gap : List Char} {pad pad' : Nat → List Char}

/-- **A form spells the tree of the value,** with its members in the order in which they stand. -/
theorem IsForm.spells (hf : IsForm write gap pad pad') {depth : Nat} {v : Value}
    (h : v.Writable depth) (k : Nat) :
    Spells Literal depth (write k v) (Tree.ofValue String.toList v) := by
  induction h generalizing k with
  | null =>
    rw [hf.plain k .null rfl]
    exact .null
  | @bool _ b =>
    rw [hf.plain k (.bool b) rfl]
    cases b <;> first | exact .yes | exact .no
  | number hn =>
    obtain ⟨negative, u, hchars, hread⟩ := hn.isRead
    rw [hf.plain k (.number _) rfl, Value.compactChars, hchars]
    exact .number hread
  | @string _ s =>
    rw [hf.plain k (.string _) rfl]
    exact .string (literal_escapeChars s.toList)
  | @array depth items _ ih =>
    rw [Tree.ofValue, Tree.ofItems_eq_map]
    cases items with
    | nil =>
      rw [hf.plain k (.array []) rfl]
      exact .array (u := []) (fun _ _ h => h) (.close rfl)
    | cons v r =>
      obtain ⟨hv, hr⟩ := List.forall_mem_cons.1 ih
      rw [hf.array]
      exact .array (fun _ _ h => h) (.head (hf.pad_blank k).1 (hv _)
        (.of_lines (hf.pad_blank k).1 (hf.pad_blank k).2 fun w hw => hr w hw _))
  | @object depth members _ ih =>
    have hline : ∀ m ∈ members, Entry Literal (Spells Literal depth)
        (memberLine gap (write (k + 1)) m)
        (m.1.toList, Tree.ofValue String.toList m.2) := fun m hm => by
      have hentry := @Entry.mk _ _ _ _ _ [] gap _ _ _ (literal_escapeChars m.1.toList) rfl
        hf.gap_blank (ih m hm (k + 1))
      simpa [memberLine, quoteChars] using hentry
    rw [Tree.ofValue, Tree.ofMembers_eq_map]
    cases members with
    | nil =>
      rw [hf.plain k (.object []) rfl]
      exact .object (u := []) (fun _ _ h => h) (.close rfl)
    | cons m r =>
      obtain ⟨hm, hr⟩ := List.forall_mem_cons.1 hline
      rw [hf.object]
      exact .object (fun _ _ h => h) (.head (hf.pad_blank k).1 hm
        (.of_lines (hf.pad_blank k).1 (hf.pad_blank k).2 hr))

/-- A value that can be written is spelt by its form. -/
theorem IsForm.spellsText (hf : IsForm write gap pad pad') {v : Value} (h : v.Writable maxDepth)
    (k : Nat) : SpellsText Literal (write k v) (Tree.ofValue String.toList v) := by
  have htext := @SpellsText.mk _ _ [] _ [] _ rfl rfl (hf.spells h k)
  rwa [List.nil_append, List.append_nil] at htext

/-- **A legible value is read from its forms.** -/
theorem IsForm.readValue (hf : IsForm write gap pad pad') {depth : Nat} {v : Value}
    (h : v.Legible depth) (k : Nat) {s : List Char} (hs : Stops s) :
    Json.readValue depth (write k v ++ s) = .ok (v, s) := by
  rw [(hf.spells h.writable k).readValue reads_literal hs,
    h.value_ofValue fun k _ => String.ofList_toList,
    h.mapStrings_eq_self fun s => String.ofList_toList]

end Forms

/-! ### Where numerals end -/

/-- No numeral goes on in the text. -/
def Bars (s : List Char) : Prop := ∀ c ∈ s.head?, ¬IsNumeric c

/-- What bars a number from going on stops its digits. -/
theorem Bars.stops {s : List Char} (h : Bars s) : Stops s := by
  intro c hc
  have hnot := h c hc
  refine ⟨?_, ?_, ?_, ?_⟩
  · rw [Bool.eq_false_iff]
    exact fun hd => hnot (.inl hd)
  all_goals
    rintro rfl
    exact hnot (.inr (by simp))

/-- A character that is no part of a number bars it. -/
theorem Bars.cons {c : Char} (hc : ¬IsNumeric c) (s : List Char) : Bars (c :: s) := by
  intro d hd
  cases hd
  exact hc

/-- So do blanks before something that bars it. -/
theorem Bars.blanks {pad s : List Char} (hpad : Blanks pad) (hs : Bars s) : Bars (pad ++ s) := by
  cases pad with
  | nil => exact hs
  | cons c pad =>
    refine Bars.cons (fun hc => ?_) _
    have hspace := List.all_eq_true.1 hpad c List.mem_cons_self
    rw [isSpace_of_isNumeric hc] at hspace
    cases hspace

/-- So do blanks alone. -/
theorem Bars.of_blanks {s : List Char} (hs : Blanks s) : Bars s := by
  have hnil : Bars [] := fun c hc => by cases hc
  simpa using Bars.blanks hs hnil

/-- So does what follows an item. -/
theorem bars_lines {write : β → List Char} {pad pad' s : List Char} {c : Char}
    (hpad' : Blanks pad') (hc : ¬IsNumeric c) (xs : List β) :
    Bars (lines write pad pad' xs ++ c :: s) := by
  cases xs with
  | nil => exact Bars.blanks hpad' (.cons hc s)
  | cons x xs =>
    rw [lines_cons]
    exact .cons (by simp [IsNumeric]) _

/-- A numeral ends where one is barred. -/
theorem numeral_eq {u v s r : List Char} (hu : ∀ c ∈ u, IsNumeric c) (hv : ∀ c ∈ v, IsNumeric c)
    (hs : Bars s) (hr : Bars r) (h : u ++ r = v ++ s) : u = v ∧ r = s := by
  induction u generalizing v with
  | nil =>
    cases v with
    | nil => exact ⟨rfl, h⟩
    | cons c v =>
      rw [List.nil_append] at h
      exact absurd (hv c List.mem_cons_self) (hr c (by rw [h]; rfl))
  | cons c u ih =>
    obtain ⟨hc, hu⟩ := List.forall_mem_cons.1 hu
    cases v with
    | nil =>
      rw [List.nil_append] at h
      exact absurd hc (hs c (by rw [← h]; rfl))
    | cons d v =>
      obtain ⟨rfl, hrest⟩ := List.cons.inj h
      obtain ⟨rfl, hrs⟩ := ih hu (List.forall_mem_cons.1 hv).2 hrest
      exact ⟨rfl, hrs⟩

/-- A decimal has a text, -/
theorem decimalText_ne_nil (style : RealStyle) (d : Number.Decimal) : decimalText style d ≠ [] := by
  unfold decimalText
  dsimp only
  split_ifs <;> simp

/-- and so has every number. -/
theorem Number.chars_ne_nil (n : Number) : n.chars ≠ [] := by
  have hdecimal (k : Nat) : decimalChars k ≠ [] := Nat.toDigits_ne_nil
  cases n with
  | int i =>
    rw [Number.chars, intChars]
    split_ifs
    · exact List.cons_ne_nil _ _
    · exact hdecimal _
  | real x =>
    rw [Number.chars, realChars]
    split_ifs
    · exact List.cons_ne_nil _ _
    · exact List.cons_ne_nil _ _
    · exact List.cons_ne_nil _ _
    · exact decimalText_ne_nil _ _

/-- A number that is read from its own numeral is legible. -/
theorem Number.IsRead.legible {n : Number} (h : n.IsRead) : n.Legible := by
  obtain ⟨negative, u, hchars, hread⟩ := h
  cases n with
  | int i => exact readNumber_legible hread
  | real x =>
    have hspells : Spells Literal maxDepth (realChars x) (.number (.real x)) := by
      have := @Spells.number _ Literal maxDepth negative u _ hread
      rwa [← hchars] at this
    have htext := @SpellsText.mk _ _ [] _ [] _ rfl rfl hspells
    rw [List.nil_append, List.append_nil] at htext
    exact htext.parseChars? reads_literal

/-- A number is read from the characters of numerals, its sign among them. -/
theorem numeral_numeric {negative : Bool} {u : List Char} {n : Number}
    (h : readNumber negative u = .ok (n, [])) : ∀ c ∈ sign negative ++ u, IsNumeric c := by
  obtain ⟨v, hv, -, hnumeric⟩ := readNumber_taken h
  rw [List.append_nil] at hv
  refine List.forall_mem_append.2 ⟨fun c hc => ?_, hv ▸ hnumeric⟩
  rw [sign] at hc
  split at hc
  · exact .inr (by simp [List.mem_singleton.1 hc])
  · cases hc

/-- What is read from a numeral takes all of it, and if it is the number that was written, that
number is legible. -/
theorem readValue_number {depth : Nat} {n : Number} {s r : List Char} {w : Value} (hs : Bars s)
    (hr : Bars r) (h : readValue depth (n.chars ++ s) = .ok (w, r)) :
    r = s ∧ (w = .number n → n.Legible) := by
  have hchars := n.chars_numeric
  obtain ⟨c, cs, hcs⟩ := List.exists_cons_of_ne_nil n.chars_ne_nil
  obtain ⟨pad, u, t, hpad, hsplit, hspells, rfl⟩ := Spells.of_readValue covers_literal depth _ _ _ h
  have hc : IsNumeric c := hchars c (by rw [hcs]; exact List.mem_cons_self)
  obtain rfl : pad = [] := by
    cases pad with
    | nil => rfl
    | cons d pad =>
      rw [hcs] at hsplit
      obtain ⟨rfl, -⟩ := List.cons.inj hsplit
      have hspace := List.all_eq_true.1 hpad c List.mem_cons_self
      rw [isSpace_of_isNumeric hc] at hspace
      cases hspace
  rw [List.nil_append] at hsplit
  cases hspells with
  | @number _ negative u m hm =>
    obtain ⟨hu, hrs⟩ := numeral_eq (numeral_numeric hm) hchars hs hr hsplit.symm
    refine ⟨hrs, fun hw => ?_⟩
    cases hw
    exact Number.IsRead.legible ⟨negative, u, hu.symm, hm⟩
  | _ =>
    rw [hcs] at hsplit
    obtain ⟨rfl, -⟩ := List.cons.inj hsplit
    simp [IsNumeric] at hc

/-! ### What stands where something was written -/

/-- Where no numeral goes on, the reader takes just what was written for `x`, and reads something
that is related to it. -/
def Returns (item : Reader γ) (write : β → List Char) (R : β → γ → Prop) : Prop :=
  ∀ ⦃x s y r⦄, Bars s → Bars r → item (write x ++ s) = .ok (y, r) → r = s ∧ R x y

/-- A text bars a number if its first character beyond the blanks does. -/
theorem bars_of_skipSpace {s u : List Char} {c : Char} (h : skipSpace s = c :: u)
    (hc : ¬IsNumeric c) : Bars s := by
  obtain ⟨pad, hpad, hs⟩ := blanks_skipSpace s
  rw [hs, h]
  exact Bars.blanks hpad (.cons hc u)

section Begins

variable {item : Reader γ} {fuel : Nat} {pad u s t v : List Char}

/-- What begins a value is no blank. -/
theorem Begins.skipSpace (h : Begins u) (hpad : Blanks pad) :
    Json.skipSpace (pad ++ (u ++ t)) = u ++ t := by
  obtain ⟨c, w, rfl, hc, -⟩ := h
  exact skipSpace_blanks hpad hc

/-- The first item of an array is read where a value begins. -/
theorem Begins.readItems_first (h : Begins u) (hs : Json.skipSpace s = u ++ t) :
    readItems item (fuel + 1) true s = readItemThen item (readItems item fuel false) (u ++ t) := by
  obtain ⟨c, w, rfl, -, hne⟩ := h
  exact Json.readItems_first hs hne

/-- So is the item behind a comma. -/
theorem Begins.readItems_comma (h : Begins u) (hs : Json.skipSpace s = ',' :: v)
    (hv : Json.skipSpace v = u ++ t) :
    readItems item (fuel + 1) false s = readItemThen item (readItems item fuel false) (u ++ t) := by
  obtain ⟨c, w, rfl, -, hne⟩ := h
  exact Json.readItems_comma hs hv hne

end Begins

/-- What goes on in an array goes on with no numeral. -/
theorem bars_of_readItems {item : Reader γ} {fuel : Nat} {s r : List Char} {ys : List γ}
    (h : readItems item fuel false s = .ok (ys, r)) : Bars s := by
  cases fuel with
  | zero => cases h
  | succ fuel =>
    unfold readItems at h
    split at h
    · cases h
    · next hskip => exact bars_of_skipSpace hskip (by simp [IsNumeric])
    · next hskip =>
      split_ifs at h with hcomma hfirst
      · obtain ⟨rfl, -⟩ := hcomma
        exact bars_of_skipSpace hskip (by simp [IsNumeric])
      · cases hfirst
      · cases h

/-- What goes on in an object goes on with no numeral. -/
theorem bars_of_readMembers {item : Reader γ} {fuel : Nat} {s r : List Char}
    {ms : List (String × γ)} (h : readMembers item fuel false s = .ok (ms, r)) : Bars s := by
  have bars_of_readKey {k : Option String} {r : List Char} (hk : readKey false s = .ok (k, r)) :
      Bars s := by
    obtain ⟨-, pad, hpad, rfl⟩ | ⟨x, v, -, -, pad, hpad, ⟨hfirst, -⟩ | ⟨-, pad', -, rfl⟩⟩ :=
      readKey_spelt hk
    · exact Bars.blanks hpad (.cons (by simp [IsNumeric]) _)
    · cases hfirst
    · exact Bars.blanks hpad (.cons (by simp [IsNumeric]) _)
  cases fuel with
  | zero => cases h
  | succ fuel =>
    obtain ⟨hk, -⟩ | ⟨_, _, _, _, _, _, hk, -⟩ := readMembers_eq_ok.1 h <;>
      exact bars_of_readKey hk

namespace Returns

variable {item : Reader γ} {write : β → List Char} {R : β → γ → Prop} {gap pad pad' : List Char}
  {fuel : Nat} {s r : List Char}

/-- One item and those after it, once its first character is known. -/
theorem readItemThen (h : Returns item write R) {more : Reader (List γ)} {x : β} {ys : List γ}
    (hs : Bars s) (hmore : ∀ t zs, more t = .ok (zs, r) → Bars t)
    (hread : Json.readItemThen item more (write x ++ s) = .ok (ys, r)) :
    ∃ y zs, R x y ∧ more s = .ok (zs, r) ∧ y :: zs = ys := by
  obtain ⟨y, s', zs, hy, hzs, rfl⟩ := readItemThen_eq_ok.1 hread
  obtain ⟨rfl, hxy⟩ := h hs (hmore _ _ hzs) hy
  exact ⟨y, zs, hxy, hzs, rfl⟩

/-- The items of an array that is read stand in the places of those that were written. -/
theorem readItems_lines (h : Returns item write R) (hbegins : ∀ x, Begins (write x))
    (hpad : Blanks pad) (hpad' : Blanks pad') {xs : List β} {ys : List γ}
    (hread : readItems item fuel false (lines write pad pad' xs ++ ']' :: s) = .ok (ys, r)) :
    r = s ∧ List.Forall₂ R xs ys := by
  induction xs generalizing fuel ys with
  | nil =>
    rcases fuel with _ | fuel
    · cases hread
    have hclose : skipSpace (lines write pad pad' [] ++ ']' :: s) = ']' :: s :=
      skipSpace_blanks hpad' rfl
    rw [readItems, hclose] at hread
    cases hread
    exact ⟨rfl, .nil⟩
  | cons x xs ih =>
    rcases fuel with _ | fuel
    · cases hread
    have hrest : Bars (lines write pad pad' xs ++ ']' :: s) :=
      bars_lines hpad' (by simp [IsNumeric]) xs
    rw [lines_cons, List.cons_append, List.append_assoc, List.append_assoc,
      (hbegins x).readItems_comma rfl ((hbegins x).skipSpace hpad)] at hread
    obtain ⟨y, zs, hxy, hzs, rfl⟩ :=
      h.readItemThen hrest (fun _ _ => bars_of_readItems) hread
    obtain ⟨rfl, hall⟩ := ih hzs
    exact ⟨rfl, .cons hxy hall⟩

/-- **Items that were written are read one by one,** each as it is read by itself, and nothing
beyond the closing bracket is taken. -/
theorem readItems (h : Returns item write R) (hbegins : ∀ x, Begins (write x))
    (hpad : Blanks pad) (hpad' : Blanks pad') {x : β} {xs : List β} {ys : List γ}
    (hread : Json.readItems item fuel true
      (pad ++ (write x ++ (lines write pad pad' xs ++ ']' :: s))) = .ok (ys, r)) :
    r = s ∧ List.Forall₂ R (x :: xs) ys := by
  rcases fuel with _ | fuel
  · cases hread
  have hrest : Bars (lines write pad pad' xs ++ ']' :: s) :=
    bars_lines hpad' (by simp [IsNumeric]) xs
  rw [(hbegins x).readItems_first ((hbegins x).skipSpace hpad)] at hread
  obtain ⟨y, zs, hxy, hzs, rfl⟩ := h.readItemThen hrest (fun _ _ => bars_of_readItems) hread
  obtain ⟨rfl, hall⟩ := h.readItems_lines hbegins hpad hpad' hzs
  exact ⟨rfl, .cons hxy hall⟩

/-- One member and those after it, once its opening quote is known. -/
theorem readMember (h : Returns item write R) (hgap : ∀ t, item (gap ++ t) = item t)
    {first : Bool} {t : List Char} {m : String × β} {ms : List (String × γ)} (hs : Bars s)
    (hkey : readKey first t =
      readKey.key (escapeChars m.1.toList ++ '"' :: ':' :: (gap ++ (write m.2 ++ s))))
    (hread : readMembers item (fuel + 1) first t = .ok (ms, r)) :
    ∃ y ns, R m.2 y ∧ readMembers item fuel false s = .ok (ns, r) ∧ (m.1, y) :: ns = ms := by
  have hliteral := (literal_escapeChars m.1.toList).readString
    (r := ':' :: (gap ++ (write m.2 ++ s)))
  rw [String.ofList_toList] at hliteral
  rw [readKey.key, hliteral] at hkey
  obtain ⟨hk, -⟩ | ⟨k, y, s₁, s₂, s₃, ns, hk, hc, hy, hns, rfl⟩ := readMembers_eq_ok.1 hread
  · rw [hkey] at hk
    cases hk
  · rw [hkey] at hk
    cases hk
    have hcolon : readColon (':' :: (gap ++ (write m.2 ++ s))) =
        .ok (gap ++ (write m.2 ++ s)) := rfl
    rw [hcolon] at hc
    cases hc
    rw [hgap] at hy
    obtain ⟨rfl, hxy⟩ := h hs (bars_of_readMembers hns) hy
    exact ⟨y, ns, hxy, hns, rfl⟩

/-- The members of an object that is read stand in the places of those that were written. -/
theorem readMembers_lines (h : Returns item write R) (hgap : ∀ t, item (gap ++ t) = item t)
    (hpad : Blanks pad) (hpad' : Blanks pad') {xs : List (String × β)} {ms : List (String × γ)}
    (hread : readMembers item fuel false (lines (memberLine gap write) pad pad' xs ++ '}' :: s) =
      .ok (ms, r)) :
    r = s ∧ List.Forall₂ (fun m n => n.1 = m.1 ∧ R m.2 n.2) xs ms := by
  induction xs generalizing fuel ms with
  | nil =>
    rcases fuel with _ | fuel
    · cases hread
    have hclose : readKey false (lines (memberLine gap write) pad pad' [] ++ '}' :: s) =
        .ok (none, s) := by
      have hskip : skipSpace (lines (memberLine gap write) pad pad' [] ++ '}' :: s) = '}' :: s :=
        skipSpace_blanks hpad' rfl
      rw [readKey, hskip]
      rfl
    obtain ⟨hk, rfl⟩ | ⟨_, _, _, _, _, _, hk, -⟩ := readMembers_eq_ok.1 hread
    · rw [hclose] at hk
      cases hk
      exact ⟨rfl, .nil⟩
    · rw [hclose] at hk
      cases hk
  | cons x xs ih =>
    rcases fuel with _ | fuel
    · cases hread
    have hrest : Bars (lines (memberLine gap write) pad pad' xs ++ '}' :: s) :=
      bars_lines hpad' (by simp [IsNumeric]) xs
    rw [lines_cons, List.cons_append, List.append_assoc, List.append_assoc,
      memberLine_append] at hread
    obtain ⟨y, ns, hxy, hns, rfl⟩ :=
      h.readMember hgap hrest (readKey_comma rfl (skipSpace_blanks hpad rfl)) hread
    obtain ⟨rfl, hall⟩ := ih hns
    exact ⟨rfl, .cons ⟨rfl, hxy⟩ hall⟩

/-- **So are members,** each under the key it was written with. -/
theorem readMembers (h : Returns item write R) (hgap : ∀ t, item (gap ++ t) = item t)
    (hpad : Blanks pad) (hpad' : Blanks pad') {x : String × β} {xs : List (String × β)}
    {ms : List (String × γ)}
    (hread : Json.readMembers item fuel true
      (pad ++ (memberLine gap write x ++ (lines (memberLine gap write) pad pad' xs ++ '}' :: s))) =
        .ok (ms, r)) :
    r = s ∧ List.Forall₂ (fun m n => n.1 = m.1 ∧ R m.2 n.2) (x :: xs) ms := by
  rcases fuel with _ | fuel
  · cases hread
  have hrest : Bars (lines (memberLine gap write) pad pad' xs ++ '}' :: s) :=
    bars_lines hpad' (by simp [IsNumeric]) xs
  rw [memberLine_append] at hread
  obtain ⟨y, ns, hxy, hns, rfl⟩ :=
    h.readMember hgap hrest (readKey_first (skipSpace_blanks hpad rfl)) hread
  obtain ⟨rfl, hall⟩ := h.readMembers_lines hgap hpad hpad' hns
  exact ⟨rfl, .cons ⟨rfl, hxy⟩ hall⟩

end Returns

/-- Members that are an object with the keys that they were written with are in order, and
they are those of the object. -/
theorem Members.eq_of_ofList {ms ns : Members} (h : ofList ns = ms)
    (hkeys : ns.map (·.1) = ms.map (·.1)) : ns = ms := by
  have hsorted : ns.Sorted := by
    have hms : ms.Sorted := h ▸ sorted_ofList ns
    have hfst : (ns.map (·.1)).Pairwise (· < ·) := by
      rw [hkeys]
      exact List.pairwise_map.2 hms
    exact List.pairwise_map.1 hfst
  rw [← h, ofList_of_sorted hsorted]

section Forms

variable {write : Nat → Value → List Char} {gap : List Char} {pad pad' : Nat → List Char}

/-- A form begins with neither a blank nor a closing bracket. -/
theorem IsForm.begins (hf : IsForm write gap pad pad') (k : Nat) (v : Value) :
    Begins (write k v) := by
  cases v with
  | null =>
    rw [hf.plain k .null rfl]
    exact ⟨_, _, rfl, rfl, by decide⟩
  | bool b =>
    rw [hf.plain k (.bool b) rfl]
    cases b <;> exact ⟨_, _, rfl, rfl, by decide⟩
  | number n =>
    rw [hf.plain k (.number _) rfl]
    obtain ⟨c, cs, hcs⟩ := List.exists_cons_of_ne_nil n.chars_ne_nil
    have hc : IsNumeric c := n.chars_numeric c (by rw [hcs]; exact List.mem_cons_self)
    refine ⟨c, cs, hcs, isSpace_of_isNumeric hc, ?_⟩
    rintro rfl
    simp [IsNumeric] at hc
  | string s =>
    rw [hf.plain k (.string _) rfl]
    exact ⟨_, _, rfl, rfl, by decide⟩
  | array items =>
    cases items with
    | nil =>
      rw [hf.plain k (.array []) rfl]
      exact ⟨_, _, rfl, rfl, by decide⟩
    | cons v r =>
      rw [hf.array]
      exact ⟨_, _, rfl, rfl, by decide⟩
  | object members =>
    cases members with
    | nil =>
      rw [hf.plain k (.object []) rfl]
      exact ⟨_, _, rfl, rfl, by decide⟩
    | cons m r =>
      rw [hf.object]
      exact ⟨_, _, rfl, rfl, by decide⟩

/-- A form that is read gives the value back only if that can be read back, and takes no more than
the form. -/
theorem IsForm.returns_of_legible (hf : IsForm write gap pad pad') {depth k : Nat} {v w : Value}
    {s r : List Char} (h : v.Legible depth) (hs : Bars s)
    (hread : Json.readValue depth (write k v ++ s) = .ok (w, r)) :
    r = s ∧ (w = v → v.Legible depth) := by
  rw [hf.readValue h k hs.stops] at hread
  cases hread
  exact ⟨rfl, fun _ => h⟩

/-- **What is read from a form takes all of it, and if it is the value that was written, that
value is legible,** by induction on the depth that is left. -/
theorem IsForm.returns (hf : IsForm write gap pad pad') (depth k : Nat) :
    Returns (Json.readValue depth) (write k) fun v w => w = v → v.Legible depth := by
  induction depth using Nat.strongRecOn generalizing k with
  | ind depth ih =>
    intro v s w r hs hr hread
    cases v with
    | null => exact hf.returns_of_legible .null hs hread
    | bool => exact hf.returns_of_legible .bool hs hread
    | number n =>
      rw [hf.plain k (.number _) rfl] at hread
      obtain ⟨rfl, hlegible⟩ := readValue_number hs hr hread
      exact ⟨rfl, fun hw => .number (hlegible hw)⟩
    | string => exact hf.returns_of_legible .string hs hread
    | array items =>
      cases depth with
      | zero =>
        cases items with
        | nil =>
          rw [hf.plain k (.array []) rfl] at hread
          cases hread
        | cons v items =>
          rw [hf.array] at hread
          cases hread
      | succ depth =>
        cases items with
        | nil => exact hf.returns_of_legible (.array (by simp)) hs hread
        | cons v items =>
          rw [hf.array, List.cons_append, List.append_assoc, List.append_assoc,
            List.append_assoc, Json.readValue] at hread
          obtain ⟨ys, hys, rfl⟩ := Reader.map_eq_ok.1 hread
          obtain ⟨rfl, hall⟩ := (ih depth (Nat.lt_succ_self depth) (k + 1)).readItems
            (hf.begins _) (hf.pad_blank k).1 (hf.pad_blank k).2 hys
          refine ⟨rfl, fun hw => ?_⟩
          cases hw
          exact .array fun v hv => List.forall₂_same.1 hall v hv rfl
    | object members =>
      cases depth with
      | zero =>
        cases members with
        | nil =>
          rw [hf.plain k (.object []) rfl] at hread
          cases hread
        | cons m members =>
          rw [hf.object] at hread
          cases hread
      | succ depth =>
        cases members with
        | nil => exact hf.returns_of_legible (.object .nil (by simp)) hs hread
        | cons m members =>
          rw [hf.object, List.cons_append, List.append_assoc, List.append_assoc,
            List.append_assoc, Json.readValue] at hread
          obtain ⟨ns, hns, rfl⟩ := Reader.map_eq_ok.1 hread
          obtain ⟨rfl, hall⟩ := (ih depth (Nat.lt_succ_self depth) (k + 1)).readMembers
            (fun t => readValue_blanks hf.gap_blank) (hf.pad_blank k).1 (hf.pad_blank k).2 hns
          refine ⟨rfl, fun hw => ?_⟩
          have hkeys : ns.map (·.1) = (m :: members).map (·.1) := by
            rw [← List.forall₂_eq_eq_eq, List.forall₂_map_left_iff, List.forall₂_map_right_iff]
            exact (hall.imp fun _ _ h => h.1).flip
          have hobject : Members.ofList ns = m :: members := Value.object.inj hw
          have hsorted := hobject ▸ Members.sorted_ofList ns
          rw [Members.eq_of_ofList hobject hkeys] at hall
          exact .object hsorted fun n hn => (List.forall₂_same.1 hall n hn).2 rfl

/-- **A value is read from a form, with blanks after it, exactly if it is legible.** -/
theorem IsForm.parseChars?_iff (hf : IsForm write gap pad pad') {v : Value} {k : Nat}
    {trail : List Char} (htrail : Blanks trail) :
    parseChars? (write k v ++ trail) = some v ↔ v.Legible maxDepth := by
  rw [parseChars?_eq_some]
  constructor
  · rintro ⟨r, hread, hr⟩
    exact (hf.returns maxDepth k (.of_blanks htrail) (.of_blanks hr) hread).2 rfl
  · intro h
    exact ⟨trail, hf.readValue h k (Bars.of_blanks htrail).stops, htrail⟩

end Forms

/-- A value that is no string is rendered in its compact form. -/
theorem Value.render_eq_compact {v : Value} (h : v.text? = none) : v.render = v.compact := by
  cases v with
  | string s => cases h
  | null | bool b | number n | array items | object members => rfl

/-- **The pretty form is read back exactly if the value is legible.**. -/
theorem Value.parseChars?_pretty_iff {v : Value} {trail : List Char} (htrail : Blanks trail) :
    parseChars? (v.prettyChars 0 ++ trail) = some v ↔ v.Legible maxDepth :=
  pretty_isForm.parseChars?_iff htrail

/-- **A value is read back from its compact form exactly if it is legible.** -/
theorem Value.parse?_compact_iff {v : Value} : parse? v.compact = some v ↔ v.Legible maxDepth := by
  rw [parse?, Value.compact, String.toList_ofList, ← List.append_nil v.compactChars]
  exact compact_isForm.parseChars?_iff (k := 0) rfl

end Json
end Errand

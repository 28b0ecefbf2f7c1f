/-
# Records that are written as text

Text is a faithful source as well (`Source.document_isFaithful`): what a decoder makes of a
value it makes of every text that spells the value, however blanks, escapes and the order of
members have been chosen, and it leaves what comes after.

Members are read as they are met, so that the fields are filled in step with the text
(`FromText.offerAll_of_fillsAll`).
-/

import Errand.Proofs.Json.Form
import Errand.Proofs.Json.Written

namespace Errand
namespace Json

/-! ### Texts that spell a value -/

/-- The text spells the value, its members in the order in which they stand. -/
def Value.SpeltAs (v : Value) (depth : Nat) (u : List Char) : Prop :=
  Spells Literal depth u (Tree.ofValue String.toList v)

/-- The decoder reads this from every text that spells the value, and nothing beyond. -/
def FromText.Reads (depth : Nat) {β : Type} (d : FromText β) (v : Value) (b : β) : Prop :=
  ∀ ⦃pad u r⦄, Blanks pad → v.SpeltAs depth u → Stops r → d depth (pad ++ (u ++ r)) = .ok (b, r)

variable {α β γ : Type}

/-- The parts of a row may be taken together with what they are read as. -/
theorem Row.zip {part : List Char → β → Prop} {R : β → γ → Prop} {first : Bool} {u : List Char}
    {xs : List β} {ys : List γ} (h : Row part first u xs) (hxs : List.Forall₂ R xs ys) :
    Row (fun w p => part w p.1 ∧ R p.1 p.2) first u (xs.zip ys) := by
  induction h generalizing ys with
  | close hpad => exact .close hpad
  | head hpad hx _ ih =>
    cases hxs with
    | cons hxy hxs => exact .head hpad ⟨hx, hxy⟩ (ih hxs)
  | next hpad hpad' hx _ ih =>
    cases hxs with
    | cons hxy hxs => exact .next hpad hpad' ⟨hx, hxy⟩ (ih hxs)

/-- Only null starts as null does. -/
theorem Value.SpeltAs.ne_null {v : Value} {depth : Nat} {u : List Char} (h : v.SpeltAs depth u)
    (hv : v ≠ .null) : ∃ c w, u = c :: w ∧ isSpace c = false ∧ c ≠ 'n' := by
  obtain ⟨c, w, rfl, hc, -⟩ := Spells.begins h
  refine ⟨c, w, rfl, hc, ?_⟩
  rintro rfl
  unfold Value.SpeltAs at h
  generalize htext : 'n' :: w = text at h
  generalize htree : Tree.ofValue String.toList v = tree at h
  cases h with
  | null =>
    cases v with
    | null => exact hv rfl
    | _ => cases htree
  | @number _ negative u n hn =>
    cases negative with
    | true => cases htext
    | false =>
      obtain ⟨c, u, rfl, hdigit⟩ := readNumber_begins hn
      cases htext
      cases hdigit
  | _ => cases htext

namespace FromText

variable {depth : Nat}

/-- In a text, a truth value is read as itself, -/
theorem bool_reads (b : Bool) : Reads depth bool (.bool b) b := by
  intro pad u r hpad hu hr
  have hread : ∀ {c : Char} {s : List Char}, isSpace c = false →
      bool depth (pad ++ c :: s) = bool depth (c :: s) := fun hc => by
    rw [bool, skipSpace_blanks hpad hc, bool, skipSpace, List.dropWhile_cons_of_neg (by simp [hc])]
  cases hu with
  | yes =>
    rw [List.cons_append, hread rfl]
    exact readLiteral_append ['r', 'u', 'e'] r
  | no =>
    rw [List.cons_append, hread rfl]
    exact readLiteral_append ['a', 'l', 's', 'e'] r

/-- and so is a string. -/
theorem text_reads (s : String) : Reads depth text (.string s) s := by
  intro pad u r hpad hu hr
  cases hu with
  | string hliteral =>
    rw [text, List.cons_append, skipSpace_blanks hpad rfl]
    have hread := reads_literal _ _ hliteral r
    rw [String.ofList_toList] at hread
    simpa using hread

/-- A numeral is read as its number, from its sign on. -/
theorem number_of_skipSpace {d : FromValue α} {a : α} (expected : String) {negative : Bool}
    {n : Number} {c : Char} {s w r : List Char} (hskip : skipSpace s = sign negative ++ c :: w)
    (hc : c.isDigit = true) (hread : readNumber negative (c :: w) = .ok (n, r))
    (hd : d (.number n) = .ok a) : number expected d depth s = .ok (a, r) := by
  have hminus : c ≠ '-' := by
    rintro rfl
    cases hc
  unfold number
  rw [hskip]
  cases negative with
  | true =>
    dsimp only [sign]
    simp only [if_true, List.singleton_append, Bool.true_or, hread, hd]
  | false =>
    split
    next negative digits hdigits =>
    split at hdigits
    · next heq =>
      cases heq
      exact absurd rfl hminus
    · cases hdigits
      simp only [sign, Bool.false_eq_true, if_false, List.nil_append, Bool.false_or,
        List.head?_cons, Option.any_some, hc, if_true, hread, hd]

/-- and a number. -/
theorem number_reads {d : FromValue α} {a : α} (expected : String) {n : Number}
    (hd : d (.number n) = .ok a) : Reads depth (number expected d) (.number n) a := by
  intro pad u r hpad hu hr
  have hbegins := Spells.begins hu
  cases hu with
  | @number _ negative u _ hn =>
    have hread := readNumber_extends negative hr hn
    obtain ⟨c, w, rfl, hdigit⟩ := readNumber_begins hn
    refine number_of_skipSpace (w := w ++ r) expected ?_ hdigit hread hd
    rw [hbegins.skipSpace hpad, List.append_assoc, List.cons_append]

/-- A legible value is read as itself. -/
theorem any_reads {v : Value} (hv : v.Legible depth) : Reads depth readValue v v := by
  intro pad u r hpad hu hr
  rw [readValue_blanks hpad, Spells.readValue reads_literal hu hr,
    hv.value_ofValue fun k _ => String.ofList_toList,
    hv.mapStrings_eq_self fun s => String.ofList_toList]

/-- Null is read as nothing, -/
theorem none_reads (d : FromText β) : Reads depth (optional d) .null none := by
  intro pad u r hpad hu hr
  cases hu with
  | null =>
    rw [optional, List.cons_append, skipSpace_blanks hpad rfl]
    exact readLiteral_append ['u', 'l', 'l'] r

/-- and anything else as given. -/
theorem some_reads {d : FromText β} {v : Value} {b : β} (hv : v ≠ .null) (hd : Reads depth d v b) :
    Reads depth (optional d) v (some b) := by
  intro pad u r hpad hu hr
  obtain ⟨c, w, rfl, hc, hne⟩ := hu.ne_null hv
  have hb : d depth (c :: (w ++ r)) = .ok (b, r) := @hd [] (c :: w) r rfl hu hr
  rw [optional, List.cons_append, skipSpace_blanks hpad hc]
  split
  · next heq =>
    cases heq
    exact absurd rfl hne
  · next => rw [hb]

/-- A list is read item by item. -/
theorem list_reads {d : FromText β} {vs : List Value} {bs : List β}
    (h : List.Forall₂ (Reads depth d) vs bs) : Reads (depth + 1) (list d) (.array vs) bs := by
  intro pad u r hpad hu hr
  rw [Value.SpeltAs, Tree.ofValue, Tree.ofItems_eq_map] at hu
  cases hu with
  | @array _ inner u _ hinner hrow =>
    have hlength : (vs.map (Tree.ofValue String.toList)).length = bs.length := by
      rw [List.length_map, h.length_eq]
    have hitems : List.Forall₂ (fun t b => ∀ ⦃w r⦄, Spells Literal depth w t → Stops r →
        d depth (w ++ r) = .ok (b, r)) (vs.map (Tree.ofValue String.toList)) bs := by
      rw [List.forall₂_map_left_iff]
      exact h.imp fun v b hb w r hw hr => @hb [] w r rfl hw hr
    have hread : readItems (d depth) ((u ++ ']' :: r).length + 1) true (u ++ ']' :: r) =
        .ok (((vs.map (Tree.ofValue String.toList)).zip bs).map Prod.snd, r) :=
      (hrow.zip hitems).readItems (fun w x r hx hr => hx.2 (hinner _ _ hx.1) hr)
        (fun w x hx => (hinner _ _ hx.1).begins) (by rw [List.length_append]; omega) r
    rw [List.map_snd_zip hlength.ge] at hread
    rw [list, List.cons_append, skipSpace_blanks hpad rfl, List.append_assoc]
    exact hread

/-- What is made of a result is made of what is read. -/
theorem map_reads {d : FromText α} {v : Value} {a : α} (f : α → β) (h : Reads depth d v a) :
    Reads depth (Source.document.map f d) v (f a) := by
  intro pad u r hpad hu hr
  simp only [Source.document, h hpad hu hr]
  rfl

/-! ### Records -/

/-- **The fields are filled in step with the text.** -/
theorem offerAll_of_fillsAll {δ γ : Type} {fs : Fields FromText δ γ} {ms : Members}
    {cells cells' : δ} (h : fs.FillsAll (Reads depth) ms cells cells')
    {inner : List Char → _ → Prop} (hinner : ∀ w t, inner w t → Spells Literal depth w t)
    {first : Bool} {u : List Char}
    (hrow : Row (Entry Literal inner) first u (Tree.ofMembers String.toList ms)) {fuel : Nat}
    (hfuel : u.length < fuel) (r : List Char) :
    offerAll depth fs fuel first cells (u ++ '}' :: r) = .ok (cells', r) := by
  have hclose : Stops ('}' :: r) := by
    rintro _ ⟨⟩
    decide
  induction h generalizing first u fuel with
  | nil =>
    obtain ⟨fuel, rfl⟩ : ∃ k, fuel = k + 1 := ⟨fuel - 1, by omega⟩
    have hkey : readKey first (u ++ '}' :: r) = .ok (none, r) := by
      rw [readKey, skipSpace_blanks hrow.blanks_of_nil rfl]
      rfl
    rw [offerAll, hkey]
  | @cons key v ms cells cells' cells'' hm _ ih =>
    obtain ⟨fuel, rfl⟩ : ∃ k, fuel = k + 1 := ⟨fuel - 1, by omega⟩
    obtain ⟨colon, pad, w, rest, hpad, hw, hrest, hlength, hread⟩ :=
      hrow.readKey_member reads_literal
    obtain ⟨hkey, hcolon⟩ := hread ('}' :: r)
    rw [offerAll, hkey]
    dsimp only
    rw [String.ofList_toList, hm.offer fun hb => ?_]
    · exact ih hrest (by omega)
    · rw [hcolon]
      exact hb hpad (hinner _ _ hw) (hrest.stops hclose)

/-- **A record is read from the text of what it was written as.**. -/
theorem record_reads {δ γ : Type} {fs : Fields FromText δ γ} {ms ms' : Members} {c : γ}
    (name : String) (hapart : fs.spellings.Nodup) (h : fs.Written (Reads depth) ms c)
    (hperm : ms'.Perm ms) : Reads (depth + 1) (record name fs) (.object ms') c := by
  intro pad u r hpad hu hr
  obtain ⟨cells, hfinish, hfills⟩ := h.fillsAll hapart
  cases hu with
  | @object _ inner u _ hinner hrow =>
    rw [record, List.cons_append, skipSpace_blanks hpad rfl, List.append_assoc]
    dsimp only
    have hfuel : u.length < (u ++ '}' :: r).length + 1 := by
      rw [List.length_append]
      omega
    have hoffer := offerAll_of_fillsAll (hfills hperm) hinner hrow hfuel r
    simp only [List.singleton_append, hoffer, hfinish]

end FromText

/-- **Text is a faithful source;** a value that it is to keep has to be legible. -/
theorem Source.document_isFaithful : Source.document.IsFaithful FromText.Reads
    fun depth v => v.Legible depth where
  bool := FromText.bool_reads
  text := FromText.text_reads
  natural name hn := FromText.number_reads name (FromValue.natural_reads name hn)
  any := FromText.any_reads
  none := FromText.none_reads
  some := FromText.some_reads
  list := FromText.list_reads
  map := FromText.map_reads
  record := FromText.record_reads

end Json
end Errand

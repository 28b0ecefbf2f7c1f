/-
# What was read is read back

A reader gives integers of 64 bits and objects whose keys are in order, and it nests no
deeper than it may (`parseChars?_brackets`).  So whatever stands in a value that was read is
legible as far as its doubles are (`Value.legible_of_within`), and a legible value is read
again from its compact form (`Value.Legible.parse?_compact`).
-/

import Errand.Proofs.Json.Legible

namespace Errand
namespace Json

/-! ### Integers -/

section Integers

variable {negative : Bool} {m : Nat} {s r : List Char} {i : Int}

/-- A double that is finished is no integer. -/
theorem finishReal_ne_int {e : Int} : finishReal negative m e s ≠ .ok (.int i, r) := by
  unfold finishReal
  split <;> rintro ⟨⟩

/-- So nothing with an exponent is an integer, -/
theorem readExponentDigits_ne_int {start : Int} {down : Bool} {e : Nat} :
    readExponentDigits negative m start down e s ≠ .ok (.int i, r) := by
  induction s generalizing e with
  | nil => exact finishReal_ne_int
  | cons c s ih =>
    unfold readExponentDigits
    dsimp only
    split_ifs
    · rintro ⟨⟩
    · rintro ⟨⟩
    · exact ih
    · exact finishReal_ne_int
    · exact finishReal_ne_int

theorem readUnsignedExponent_ne_int {start : Int} {down : Bool} :
    readUnsignedExponent negative m start down s ≠ .ok (.int i, r) := by
  cases s with
  | nil => rintro ⟨⟩
  | cons c s =>
    rw [readUnsignedExponent]
    split
    · exact readExponentDigits_ne_int
    · rintro ⟨⟩

theorem readExponent_ne_int {start : Int} :
    readExponent negative m start s ≠ .ok (.int i, r) := by
  unfold readExponent
  split <;> exact readUnsignedExponent_ne_int

/-- nothing that has come to its end as a double, -/
theorem readRealEnd_ne_int {e : Int} : readRealEnd negative m e s ≠ .ok (.int i, r) := by
  unfold readRealEnd
  split
  · exact readExponent_ne_int
  · exact readExponent_ne_int
  · exact finishReal_ne_int

/-- nothing with a fraction, -/
theorem readFraction_ne_int {any : Bool} {e : Int} :
    readFraction negative any m e s ≠ .ok (.int i, r) := by
  induction s generalizing any m e with
  | nil =>
    unfold readFraction
    split
    · exact finishReal_ne_int
    · rintro ⟨⟩
  | cons c s ih =>
    unfold readFraction
    dsimp only
    split_ifs
    · exact readRealEnd_ne_int
    · exact ih
    · exact readRealEnd_ne_int
    · rintro ⟨⟩

/-- and nothing too long for a word. -/
theorem readLongInteger_ne_int {e : Int} : readLongInteger negative m e s ≠ .ok (.int i, r) := by
  induction s generalizing e with
  | nil => exact finishReal_ne_int
  | cons c s ih =>
    unfold readLongInteger
    split_ifs
    · exact ih
    · exact readFraction_ne_int
    · exact readRealEnd_ne_int

/-- An integer with its sign is one of 64 bits. -/
theorem integerNumber_legible (hm : m ≤ maxSignificand) (h : integerNumber negative m = .int i) :
    (Number.int i).Legible := by
  have hpow : Nat.pow 2 63 = 9223372036854775808 ∧ Nat.pow 2 64 = 18446744073709551616 := by
    decide
  rw [maxSignificand] at hm
  rw [Number.Legible]
  unfold integerNumber at h
  split_ifs at h
  · obtain rfl := Number.int.inj h
    omega
  · obtain rfl := Number.int.inj h
    omega

/-- An integer whose digits fit a word is legible. -/
theorem readIntegerEnd_legible (hm : m ≤ maxSignificand)
    (h : readIntegerEnd negative m s = .ok (.int i, r)) : (Number.int i).Legible := by
  unfold readIntegerEnd at h
  split at h
  · exact absurd h readFraction_ne_int
  · exact absurd h readExponent_ne_int
  · exact absurd h readExponent_ne_int
  · exact integerNumber_legible hm (Prod.mk.inj (Except.ok.inj h)).1

/-- **Integers that are read are legible,** by induction on their digits. -/
theorem readIntegerDigits_legible (hm : m ≤ maxSignificand)
    (h : readIntegerDigits negative m s = .ok (.int i, r)) : (Number.int i).Legible := by
  induction s generalizing m with
  | nil => exact integerNumber_legible hm (Prod.mk.inj (Except.ok.inj h)).1
  | cons c s ih =>
    unfold readIntegerDigits at h
    dsimp only at h
    split_ifs at h with hdigit hmax
    · exact absurd h readLongInteger_ne_int
    · exact ih (by omega) h
    · exact readIntegerEnd_legible hm h

theorem digitValue_le {c : Char} (h : c.isDigit = true) : digitValue c ≤ 9 := by
  rw [digitValue]
  simp only [Char.isDigit, Bool.and_eq_true, decide_eq_true_eq, UInt32.le_iff_toNat_le] at h
  have hlow : c.toNat ≤ 57 := h.2
  have hzero : '0'.toNat = 48 := rfl
  omega

/-- **An integer that was read is one of 64 bits.** -/
theorem readNumber_legible (h : readNumber negative s = .ok (.int i, r)) :
    (Number.int i).Legible := by
  unfold readNumber at h
  split at h
  · cases h
  · split at h
    · split at h
      · cases h
      · exact readIntegerEnd_legible (Nat.zero_le _) h
    · exact integerNumber_legible (Nat.zero_le _) (Prod.mk.inj (Except.ok.inj h)).1
  · split at h
    · next hdigit =>
      refine readIntegerDigits_legible ?_ h
      exact (digitValue_le hdigit).trans (by decide)
    · cases h

end Integers

/-! ### Values -/

/-- The doubles of a value. -/
def Value.doubles : Value → List Number.Binary := Value.collect fun
  | .number (.real x) => [x]
  | _ => []

namespace Members

/-- Whatever order members come in, an object holds them sorted. -/
theorem sorted_ofList (pairs : List (String × Value)) : (ofList pairs).Sorted := by
  induction pairs using List.reverseRecOn with
  | nil => exact List.Pairwise.nil
  | append_singleton pairs p ih =>
    rw [ofList, List.foldl_append]
    exact ih.insert _ _

/-- An object has no members but those it is made of. -/
theorem mem_of_mem_ofList {pairs : List (String × Value)} {m : String × Value}
    (h : m ∈ ofList pairs) : m ∈ pairs := by
  induction pairs using List.reverseRecOn with
  | nil => exact h
  | append_singleton pairs p ih =>
    rw [ofList, List.foldl_append] at h
    rcases mem_insert h with rfl | h
    · exact List.mem_concat_self
    · exact List.mem_append_left _ (ih h)

end Members

variable {α β : Type}

/-- Each part of a row is written somewhere. -/
theorem Row.exists_part {part : List Char → β → Prop} {first : Bool} {u : List Char} {xs : List β}
    (h : Row part first u xs) : ∀ x ∈ xs, ∃ w, part w x := by
  induction h with
  | close => simp
  | head _ hx _ ih => exact List.forall_mem_cons.2 ⟨⟨_, hx⟩, ih⟩
  | next _ _ hx _ ih => exact List.forall_mem_cons.2 ⟨⟨_, hx⟩, ih⟩

/-- The value of a tree that a text spells is legible, as far as its doubles are. -/
theorem Spells.legible {lit : List Char → α → Prop} {f : α → String} {depth : Nat}
    {u : List Char} {t : Tree α} (h : Spells lit depth u t)
    (hdoubles : ∀ x ∈ (t.value f).doubles, (Number.real x).Legible) :
    (t.value f).Legible depth := by
  induction h with
  | null => exact .null
  | yes | no => exact .bool
  | @number _ negative u n hn =>
    refine .number ?_
    cases n with
    | int i => exact readNumber_legible hn
    | real x => exact hdoubles x (by simp [Tree.value, Value.doubles, Value.collect])
  | string => exact .string
  | @array depth inner u items hinner hrow ih =>
    rw [Tree.value, Tree.values_eq_map] at hdoubles ⊢
    rw [Value.doubles, Value.collect, Value.collectItems_eq_flatMap] at hdoubles
    refine .array fun v hv => ?_
    obtain ⟨t, ht, rfl⟩ := List.mem_map.1 hv
    obtain ⟨w, hw⟩ := hrow.exists_part t ht
    exact ih w t hw fun x hx => hdoubles x (List.mem_flatMap_of_mem hv hx)
  | @object depth inner u members hinner hrow ih =>
    rw [Tree.value, Tree.pairs_eq_map, Value.ofPairs] at hdoubles ⊢
    rw [Value.doubles, Value.collect, Value.collectMembers_eq_flatMap] at hdoubles
    refine .object (Members.sorted_ofList _) fun m hm => ?_
    obtain ⟨n, hn, rfl⟩ := List.mem_map.1 (Members.mem_of_mem_ofList hm)
    obtain ⟨w, hw⟩ := hrow.exists_part n hn
    cases hw with
    | mk _ _ _ hvalue => exact ih _ _ hvalue fun x hx => hdoubles x (List.mem_flatMap_of_mem hm hx)

/-- More brackets than there are levels are not opened. -/
theorem readValue_brackets (depth : Nat) (s : List Char) :
    ∃ e, readValue depth ('[' :: (List.replicate depth '[' ++ s)) = .error e := by
  induction depth with
  | zero => exact ⟨_, rfl⟩
  | succ depth ih =>
    obtain ⟨e, he⟩ := ih
    refine ⟨e, ?_⟩
    generalize htail : List.replicate depth '[' ++ s = tail at he
    have hspace : skipSpace ('[' :: tail) = '[' :: tail := rfl
    rw [List.replicate_succ, List.cons_append, htail, readValue]
    show Reader.map _ (readItems _ _ true) ('[' :: tail) = _
    rw [Reader.map, readItems_first hspace (by decide), readItemThen, he]

/-- **What nests too deep is not read.** -/
theorem parseChars?_brackets (s : List Char) :
    parseChars? ('[' :: (List.replicate maxDepth '[' ++ s)) = none := by
  obtain ⟨e, he⟩ := readValue_brackets maxDepth s
  rw [parseChars?, parseChars, readWhole, he]
  rfl

/-- The first value is the second, or stands in it. -/
inductive Value.Within : Value → Value → Prop
  | refl (v : Value) : Value.Within v v
  | item {v w : Value} {items : List Value} : w ∈ items → Value.Within v w →
      Value.Within v (.array items)
  | member {v : Value} {m : String × Value} {members : Members} : m ∈ members →
      Value.Within v m.2 → Value.Within v (.object members)

/-- What lies within a part lies within the whole. -/
theorem Value.Within.trans {u v w : Value} (h : u.Within v) (h' : v.Within w) : u.Within w := by
  induction h' with
  | refl => exact h
  | item hmem _ ih => exact .item hmem ih
  | member hmem _ ih => exact .member hmem ih

/-- What stands in a value that a text spells is spelt there. -/
theorem Spells.within {lit : List Char → α → Prop} {f : α → String} {depth : Nat}
    {u : List Char} {t : Tree α} {v : Value} (h : Spells lit depth u t)
    (hv : v.Within (t.value f)) :
    ∃ d ≤ depth, ∃ u' t', Spells lit d u' t' ∧ t'.value f = v := by
  generalize hw : t.value f = w at hv
  induction hv generalizing depth u t with
  | refl => exact ⟨depth, le_refl depth, u, t, h, hw⟩
  | item hmem _ ih =>
    cases h with
    | array hinner hrow =>
      rw [Tree.value, Tree.values_eq_map] at hw
      cases hw
      obtain ⟨t, ht, rfl⟩ := List.mem_map.1 hmem
      obtain ⟨u, hu⟩ := hrow.exists_part t ht
      obtain ⟨d, hd, hspelt⟩ := ih (hinner u t hu) rfl
      exact ⟨d, Nat.le_succ_of_le hd, hspelt⟩
    | _ => cases hw
  | member hmem _ ih =>
    cases h with
    | object hinner hrow =>
      rw [Tree.value, Tree.pairs_eq_map, Value.ofPairs] at hw
      cases hw
      obtain ⟨n, hn, rfl⟩ := List.mem_map.1 (Members.mem_of_mem_ofList hmem)
      obtain ⟨u, hu⟩ := hrow.exists_part n hn
      cases hu with
      | mk _ _ _ hvalue =>
        obtain ⟨d, hd, hspelt⟩ := ih (hinner _ _ hvalue) rfl
        exact ⟨d, Nat.le_succ_of_le hd, hspelt⟩
    | _ => cases hw

/-- A value may be read with more depth to spare. -/
theorem Value.Legible.mono {d depth : Nat} {v : Value} (h : v.Legible d) (hd : d ≤ depth) :
    v.Legible depth := by
  induction h generalizing depth with
  | null => exact .null
  | bool => exact .bool
  | number hn => exact .number hn
  | string => exact .string
  | array _ ih =>
    obtain ⟨k, rfl⟩ : ∃ k, depth = k + 1 := ⟨depth - 1, by omega⟩
    exact .array fun v hv => ih v hv (by omega)
  | object hsorted _ ih =>
    obtain ⟨k, rfl⟩ : ∃ k, depth = k + 1 := ⟨depth - 1, by omega⟩
    exact .object hsorted fun m hm => ih m hm (by omega)

/-- **What stands in a value that was read is legible,** as far as its doubles are. -/
theorem Value.legible_of_within {s : List Char} {v w : Value} (h : parseChars? s = some w)
    (hv : v.Within w) (hdoubles : ∀ x ∈ v.doubles, (Number.real x).Legible) :
    v.Legible maxDepth := by
  obtain ⟨t, ⟨-, -, hspells⟩, rfl⟩ := SpellsText.of_parseChars? covers_literal h
  obtain ⟨d, hd, u, t, ht, rfl⟩ := hspells.within hv
  exact (ht.legible hdoubles).mono hd

/-- Strings that are kept leave the value as it is. -/
theorem Value.Legible.mapStrings_eq_self {f : String → String} (hf : ∀ s, f s = s) {depth : Nat}
    {v : Value} (h : v.Legible depth) : v.mapStrings f = v := by
  induction h with
  | null | bool | number => rfl
  | string => rw [Value.mapStrings, hf]
  | array _ ih => rw [Value.mapStrings, Value.mapItems_eq_map, List.map_congr_left ih, List.map_id']
  | object _ _ ih =>
    have hmembers := List.map_congr_left fun m hm => congrArg (Prod.mk m.1) (ih m hm)
    rw [Value.mapStrings, Value.mapMembers_eq_map, hmembers, List.map_id']

/-- **A legible value is read from its compact form.** -/
theorem Value.Legible.parse?_compact {v : Value} (h : v.Legible maxDepth) :
    parse? v.compact = some v := by
  have hspells : Spells Literal maxDepth v.compactChars (Tree.ofValue String.toList v) :=
    h.spells (fun s _ => literal_escapeChars s.toList) fun k _ => literal_escapeChars k.toList
  have htext := @SpellsText.mk _ _ [] _ [] _ rfl rfl hspells
  rw [List.nil_append, List.append_nil] at htext
  rw [parse?, Value.compact, String.toList_ofList, SpellsText.parseChars? reads_literal htext,
    h.value_ofValue fun k _ => String.ofList_toList,
    h.mapStrings_eq_self fun s => String.ofList_toList]

end Json
end Errand

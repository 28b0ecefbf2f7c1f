/-
# Records that are written

A record is written as an object that has, for each of its fields, something that the field's
content is read from, under one of the field's spellings; a field that has a value for its
absence may be left out (`Fields.Written`).  The members may stand in any order.  No two fields
share a spelling, so that each member finds the field that it was written for, and the record is
filled with what was written (`Fields.Written.fillsAll`).

A layout is written once for every source, and so is the proof that it reads what it should.
What a source makes of a value is left to a relation, of which no more is asked than that the
means of the source fit together (`Source.IsFaithful`).  Values are such a source
(`Source.value_isFaithful`).
-/

import Errand.Json.Layout
import Errand.Proofs.Json.Legible
import Mathlib.Data.List.Forall2

namespace Errand
namespace Json

/-! ### Objects from pairs -/

namespace Members

/-- A member under a new key is added, whatever its place. -/
theorem insert_perm {key : String} {value : Value} {ms : Members} (h : key ∉ ms.map (·.1)) :
    (ms.insert key value).Perm ((key, value) :: ms) := by
  induction ms with
  | nil => exact .refl _
  | cons m ms ih =>
    obtain ⟨k, v⟩ := m
    rw [List.map_cons, List.mem_cons, not_or] at h
    rw [insert, if_neg h.1]
    split
    · exact .refl _
    · exact ((ih h.2).cons (k, v)).trans (.swap ..)

/-- An object has the pairs that it was made from, if no key was given twice. -/
theorem ofList_perm {pairs : List (String × Value)} (h : (pairs.map (·.1)).Nodup) :
    (ofList pairs).Perm pairs := by
  induction pairs using List.reverseRecOn with
  | nil => exact .refl _
  | append_singleton pairs p ih =>
    rw [List.map_append, List.nodup_append] at h
    obtain ⟨hpairs, -, hapart⟩ := h
    have hnew : p.1 ∉ (ofList pairs).map (·.1) := fun hmem =>
      hapart p.1 (((ih hpairs).map _).mem_iff.1 hmem) p.1 List.mem_cons_self rfl
    have hinsert : ofList (pairs ++ [p]) = (ofList pairs).insert p.1 p.2 := by simp [ofList]
    rw [hinsert]
    exact (insert_perm hnew).trans (((ih hpairs).cons p).trans
      (List.perm_append_singleton p pairs).symm)

end Members

/-! ### Fields that are filled -/

section Fields

variable {D : Type → Type}

/-- The spellings of all fields. -/
def Fields.spellings {δ γ : Type} : Fields D δ γ → List String
  | .nil => []
  | .cons slot rest => slot.name :: slot.aliases ++ rest.spellings

/-- A field answers to its name and its aliases. -/
theorem Slot.answersTo_iff {β : Type} {slot : Slot D β} {key : String} :
    slot.answersTo key = true ↔ key ∈ slot.name :: slot.aliases := by
  rw [Slot.answersTo, Bool.or_eq_true, beq_iff_eq, List.contains_iff_mem, List.mem_cons, eq_comm]

variable (reads : {β : Type} → D β → Value → β → Prop)

/-- The member fills the field that its key names, which was open. -/
inductive Fields.Fills : {δ γ : Type} → Fields D δ γ → String → Value → δ → δ → Prop
  | here {β δ γ : Type} {slot : Slot D β} {rest : Fields D δ γ} {key : String} {v : Value} {b : β}
      {cells : δ} : slot.answersTo key = true → reads slot.content v b →
        Fields.Fills (.cons slot rest) key v (none, cells) (some b, cells)
  | later {β δ γ : Type} {slot : Slot D β} {rest : Fields D δ γ} {key : String} {v : Value}
      {cell : Option β} {cells cells' : δ} : slot.answersTo key = false →
        Fields.Fills rest key v cells cells' →
          Fields.Fills (.cons slot rest) key v (cell, cells) (cell, cells')

/-- The members fill the fields that their keys name, one after the other. -/
inductive Fields.FillsAll {δ γ : Type} (fs : Fields D δ γ) : Members → δ → δ → Prop
  | nil {cells : δ} : Fields.FillsAll fs [] cells cells
  | cons {key : String} {v : Value} {ms : Members} {cells cells' cells'' : δ} :
      fs.Fills reads key v cells cells' → Fields.FillsAll fs ms cells' cells'' →
        Fields.FillsAll fs ((key, v) :: ms) cells cells''

/-- The members, in the order of the fields, are a record as it is written. -/
inductive Fields.Written : {δ γ : Type} → Fields D δ γ → Members → γ → Prop
  | nil : Fields.Written .nil [] ()
  | given {β δ γ : Type} {slot : Slot D β} {rest : Fields D δ γ} {key : String} {v : Value} {b : β}
      {ms : Members} {c : γ} : key ∈ slot.name :: slot.aliases → reads slot.content v b →
        Fields.Written rest ms c → Fields.Written (.cons slot rest) ((key, v) :: ms) (b, c)
  | left {β δ γ : Type} {slot : Slot D β} {rest : Fields D δ γ} {b : β} {ms : Members} {c : γ} :
      slot.absent = some b → Fields.Written rest ms c → Fields.Written (.cons slot rest) ms (b, c)

variable {reads} {β δ γ : Type} {slot : Slot D β} {rest fs : Fields D δ γ} {cell : Option β}
  {cells cells' cells'' : δ} {ms ms' : Members} {c : γ}

/-- A member that fills a field is what is offered to it. -/
theorem Fields.Fills.offer {ε σ : Type} {read : {β : Type} → D β → σ → Except ε (β × σ)}
    {again : String → σ → ε} {key : String} {v : Value} {s s' : σ}
    (hread : ∀ {β : Type} {d : D β} {b : β}, reads d v b → read d s = .ok (b, s'))
    (h : fs.Fills reads key v cells cells') :
    fs.offer read again key cells s = .ok (some (cells', s')) := by
  induction h with
  | here hkey hb => simp only [Fields.offer, hkey, if_true, hread hb]
  | later hkey _ ih => simp only [Fields.offer, hkey, Bool.false_eq_true, if_false, ih hread]

namespace Fields.FillsAll

/-- Members may fill cells in two lots, -/
theorem append (h : fs.FillsAll reads ms cells cells') (h' : fs.FillsAll reads ms' cells' cells'') :
    fs.FillsAll reads (ms ++ ms') cells cells'' := by
  induction h with
  | nil => exact h'
  | cons hm _ ih => exact .cons hm (ih h')

/-- and what fills them does so in two lots. -/
theorem of_append (h : fs.FillsAll reads (ms ++ ms') cells cells'') :
    ∃ cells', fs.FillsAll reads ms cells cells' ∧ fs.FillsAll reads ms' cells' cells'' := by
  induction ms generalizing cells with
  | nil => exact ⟨cells, .nil, h⟩
  | cons m ms ih =>
    cases h with
    | cons hm h =>
      obtain ⟨cells', h₁, h₂⟩ := ih h
      exact ⟨cells', .cons hm h₁, h₂⟩

/-- Members that a field does not answer to are those of the fields after it. -/
theorem later (h : rest.FillsAll reads ms cells cells')
    (hms : ∀ m ∈ ms, slot.answersTo m.1 = false) :
    FillsAll reads (.cons slot rest) ms (cell, cells) (cell, cells') := by
  induction h with
  | nil => exact .nil
  | cons hm _ ih =>
    obtain ⟨hkey, hms⟩ := List.forall_mem_cons.1 hms
    exact .cons (.later hkey hm) (ih hms)

end Fields.FillsAll

namespace Fields.Written

/-- Only spellings of fields are written. -/
theorem key_mem (h : fs.Written reads ms c) : ∀ m ∈ ms, m.1 ∈ fs.spellings := by
  induction h with
  | nil => simp
  | given hkey _ _ ih =>
    refine List.forall_mem_cons.2 ⟨List.mem_append_left _ hkey, fun m hm => ?_⟩
    exact List.mem_append_right _ (ih m hm)
  | left _ _ ih => exact fun m hm => List.mem_append_right _ (ih m hm)

/-- A field does not answer to the members of the fields after it. -/
theorem answersTo_eq_false (hapart : (Fields.cons slot rest).spellings.Nodup)
    (h : rest.Written reads ms c) (hperm : ms'.Perm ms) :
    ∀ m ∈ ms', slot.answersTo m.1 = false := by
  intro m hm
  rw [Bool.eq_false_iff]
  intro hkey
  obtain ⟨-, -, hdisjoint⟩ := List.nodup_append.1 hapart
  exact hdisjoint _ (Slot.answersTo_iff.1 hkey) _ (h.key_mem m (hperm.mem_iff.1 hm)) rfl

/-- **Each member finds its field,** in whatever order the members stand. -/
theorem fillsAll (h : fs.Written reads ms c) (hapart : fs.spellings.Nodup) :
    ∃ cells, fs.finish cells = .ok c ∧
      ∀ {ms' : Members}, ms'.Perm ms → fs.FillsAll reads ms' fs.blank cells := by
  induction h with
  | nil =>
    refine ⟨(), rfl, fun hperm => ?_⟩
    rw [hperm.eq_nil]
    exact .nil
  | @given β δ γ slot rest key v b ms c hkey hb hrest ih =>
    obtain ⟨cells, hfinish, hfills⟩ := ih (List.nodup_append.1 hapart).2.1
    refine ⟨(some b, cells), ?_, fun {ms'} hperm => ?_⟩
    · simp [Fields.finish, hfinish]
    · -- The member that was written for this field may stand anywhere.
      obtain ⟨pre, post, rfl⟩ := List.append_of_mem (hperm.mem_iff.2 List.mem_cons_self)
      have hothers : (pre ++ post).Perm ms := (List.perm_middle.symm.trans hperm).cons_inv
      have hfalse := answersTo_eq_false hapart hrest hothers
      obtain ⟨mid, hpre, hpost⟩ := (hfills hothers).of_append
      exact (hpre.later fun m hm => hfalse m (List.mem_append_left _ hm)).append
        (.cons (.here (Slot.answersTo_iff.2 hkey) hb)
          (hpost.later fun m hm => hfalse m (List.mem_append_right _ hm)))
  | @left β δ γ slot rest b ms c habsent hrest ih =>
    obtain ⟨cells, hfinish, hfills⟩ := ih (List.nodup_append.1 hapart).2.1
    refine ⟨(none, cells), ?_, fun hperm => ?_⟩
    · simp [Fields.finish, habsent, hfinish]
    · exact (hfills hperm).later (answersTo_eq_false hapart hrest hperm)

end Fields.Written

end Fields

/-! ### Sources -/

/-- The means of a source fit together: what `reads depth d v b` says, that the decoder `d`
makes `b` of the value `v` if `depth` more levels may nest, is so of each kind of content, given
that it is so of the parts.  The values that are admitted are those that are kept as they are. -/
structure Source.IsFaithful {D : Type → Type} (src : Source D)
    (reads : (depth : Nat) → {β : Type} → D β → Value → β → Prop)
    (admits : (depth : Nat) → Value → Prop) : Prop where
  bool : ∀ {depth : Nat} (b : Bool), reads depth src.bool (.bool b) b
  text : ∀ {depth : Nat} (s : String), reads depth src.text (.string s) s
  natural : ∀ {depth n bound : Nat} (name : String), n < bound →
    reads depth (src.natural bound name) (.ofNat n) n
  any : ∀ {depth : Nat} {v : Value}, admits depth v → reads depth src.any v v
  none : ∀ {depth : Nat} {β : Type} (d : D β), reads depth (src.optional d) .null none
  some : ∀ {depth : Nat} {β : Type} {d : D β} {v : Value} {b : β}, v ≠ .null → reads depth d v b →
    reads depth (src.optional d) v (some b)
  list : ∀ {depth : Nat} {β : Type} {d : D β} {vs : List Value} {bs : List β},
    List.Forall₂ (reads depth d) vs bs → reads (depth + 1) (src.list d) (.array vs) bs
  map : ∀ {depth : Nat} {α β : Type} {d : D α} {v : Value} {a : α} (f : α → β),
    reads depth d v a → reads depth (src.map f d) v (f a)
  record : ∀ {depth : Nat} {δ γ : Type} {fs : Fields D δ γ} {ms ms' : Members} {c : γ}
    (name : String), fs.spellings.Nodup → fs.Written (reads depth) ms c → ms'.Perm ms →
      reads (depth + 1) (src.record name fs) (.object ms') c

/-- An optional text is read from null or from a string. -/
theorem Source.IsFaithful.optionalText {D : Type → Type} {src : Source D}
    {reads : (depth : Nat) → {β : Type} → D β → Value → β → Prop}
    {admits : (depth : Nat) → Value → Prop} (h : src.IsFaithful reads admits) {depth : Nat}
    (s? : Option String) : reads depth (src.optional src.text) (.ofOption .string s?) s? := by
  cases s? with
  | none => exact h.none _
  | some s => exact h.some nofun (h.text s)

namespace FromValue

/-- The value is decoded so. -/
def Reads {β : Type} (d : FromValue β) (v : Value) (b : β) : Prop := d v = .ok b

/-- A number within the bound is read as itself. -/
theorem natural_reads {n bound : Nat} (name : String) (hn : n < bound) :
    Reads (natural bound name) (.ofNat n) n := by
  show natural _ name (.number (.int _)) = _
  rw [natural.eq_def]
  exact if_pos (by omega)

/-- What is given and not null is read as given. -/
theorem some_reads {β : Type} {d : FromValue β} {v : Value} {b : β} (hv : v ≠ .null)
    (hb : Reads d v b) : Reads (optional d) v (some b) := by
  rw [Reads] at hb ⊢
  cases v with
  | null => exact absurd rfl hv
  | _ => simp [optional, hb, Except.map]

/-- A list is read item by item. -/
theorem list_reads {β : Type} {d : FromValue β} {vs : List Value} {bs : List β}
    (h : List.Forall₂ (Reads d) vs bs) : Reads (list d) (.array vs) bs := by
  rw [Reads, list]
  induction h with
  | nil => rfl
  | cons hv _ ih => rw [List.mapM_cons, hv, ih]; rfl

/-- What is made of a result is made of what is read. -/
theorem map_reads {α β : Type} {d : FromValue α} {v : Value} {a : α} (f : α → β)
    (ha : Reads d v a) : Reads (Source.value.map f d) v (f a) := by
  rw [Reads] at ha ⊢
  simp [Source.value, ha, Except.map]

/-- Members that fill the cells are taken by them. -/
theorem offerAll_of_fillsAll {δ γ : Type} {fs : Fields FromValue δ γ} {ms : Members}
    {cells cells' : δ} (h : fs.FillsAll Reads ms cells cells') :
    offerAll fs ms cells = .ok cells' := by
  induction h with
  | nil => rfl
  | cons hm _ ih =>
    rw [offerAll, hm.offer fun hb => by rw [hb]; rfl]
    exact ih

/-- **A record is read from what it was written as,** in whatever order its members stand. -/
theorem record_reads {δ γ : Type} {fs : Fields FromValue δ γ} {ms ms' : Members} {c : γ}
    (name : String) (hapart : fs.spellings.Nodup) (h : fs.Written Reads ms c)
    (hperm : ms'.Perm ms) : Reads (record name fs) (.object ms') c := by
  obtain ⟨cells, hfinish, hfills⟩ := h.fillsAll hapart
  rw [Reads, record.eq_def]
  dsimp only
  rw [offerAll_of_fillsAll (hfills hperm)]
  exact hfinish

end FromValue

/-- **Values are a faithful source,** and every value is kept as it is. -/
theorem Source.value_isFaithful :
    Source.value.IsFaithful (fun _ => FromValue.Reads) fun _ _ => True where
  bool _ := rfl
  text _ := rfl
  natural := FromValue.natural_reads
  any _ := rfl
  none _ := rfl
  some := FromValue.some_reads
  list := FromValue.list_reads
  map := FromValue.map_reads
  record := FromValue.record_reads

end Json
end Errand

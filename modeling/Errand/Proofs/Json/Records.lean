/-
# What records are read from

A record that is read from a value has in each field what was read under the field's name,
or in its place.  The fields of a record are dealt with one after the other, so what is
known of a whole record is known field by field (`Fields.offer_cons_eq_ok`,
`Fields.finish_cons_eq_ok`, `FromValue.fill_cons_eq_ok`).

A field may make something else of what it reads.  It makes no difference whether that is
done field by field while the record is read from text, or to the whole record when it has
been read (`FromText.record_maps`).
-/

import Errand.Json.Layout
import Mathlib.Tactic.SplitIfs

namespace Errand
namespace Json

/-! ### Field by field -/

section Fields

variable {D : Type → Type} {β δ γ : Type} {slot : Slot D β} {rest : Fields D δ γ}
  {cell : Option β} {cells : δ}

/-- A member fills the first field that answers to its key, and leaves the others alone. -/
theorem Fields.offer_cons_eq_ok {ε σ : Type} {read : {β : Type} → D β → σ → Except ε (β × σ)}
    {again : String → σ → ε} {key : String} {s s' : σ} {cells' : Option β × δ}
    (h : Fields.offer read again key (.cons slot rest) (cell, cells) s = .ok (some (cells', s'))) :
    (slot.answersTo key = true ∧ cells'.2 = cells) ∨
      (slot.answersTo key = false ∧ cells'.1 = cell ∧
        Fields.offer read again key rest cells s = .ok (some (cells'.2, s'))) := by
  unfold Fields.offer at h
  split at h
  · next hkey =>
    split at h
    · cases h
    · split at h
      · cases h
      · cases h
        exact .inl ⟨hkey, rfl⟩
  · next hkey =>
    split at h
    · cases h
    · cases h
    · next hrest =>
      cases h
      exact .inr ⟨by simpa using hkey, rfl, hrest⟩

/-- A finished record has what its fields were filled with. -/
theorem Fields.finish_cons_eq_ok {c : β × γ}
    (h : Fields.finish (.cons slot rest) (cell, cells) = .ok c) :
    (cell <|> slot.absent) = some c.1 ∧ rest.finish cells = .ok c.2 := by
  unfold Fields.finish at h
  split at h
  · cases h
  · next hb =>
    split at h
    · cases h
    · next hc =>
      cases h
      exact ⟨hb, hc⟩

end Fields

namespace FromValue

variable {δ γ : Type}

/-- The members of an object are offered to the fields one after the other. -/
theorem offerAll_cons_eq_ok {fs : Fields FromValue δ γ} {k : String} {v : Value} {ms : Members}
    {cells cells' : δ} (h : offerAll fs ((k, v) :: ms) cells = .ok cells') :
    (∃ cells₁ v', fs.offer (fun d v => (d v).map (·, v)) (fun n _ => Mismatch.duplicateField n)
        k cells v = .ok (some (cells₁, v')) ∧ offerAll fs ms cells₁ = .ok cells') ∨
      (fs.offer (fun d v => (d v).map (·, v)) (fun n _ => Mismatch.duplicateField n)
        k cells v = .ok none ∧ offerAll fs ms cells = .ok cells') := by
  rw [offerAll] at h
  split at h
  · cases h
  · next hnone => exact .inr ⟨hnone, h⟩
  · next hsome => exact .inl ⟨_, _, hsome, h⟩

/-- A record that is filled in order takes its fields from the items. -/
theorem fill_cons_eq_ok {β : Type} {slot : Slot FromValue β} {rest : Fields FromValue δ γ}
    {tooShort : Nat → List Value → Mismatch} {i : Nat} {v : Value} {vs left : List Value}
    {c : β × γ}
    (h : Fields.fill nextItem tooShort i (.cons slot rest) (v :: vs) = .ok (c, left)) :
    slot.content v = .ok c.1 ∧
      Fields.fill nextItem tooShort (i + 1) rest vs = .ok (c.2, left) := by
  unfold Fields.fill at h
  cases hcontent : slot.content v with
  | error e => simp [nextItem, hcontent, Except.map] at h
  | ok b =>
    simp only [nextItem, hcontent, Except.map, Option.orElse_eq_orElse,
      Option.orElse_eq_or, Option.some_or] at h
    split at h
    · cases h
    · next hrest =>
      cases h
      exact ⟨rfl, hrest⟩

end FromValue

/-- What is found under a key is a member. -/
theorem Members.mem_of_find? {key : String} {v : Value} {ms : Members}
    (h : ms.find? key = some v) : (key, v) ∈ ms := by
  induction ms with
  | nil => cases h
  | cons m ms ih =>
    rw [Members.find?] at h
    split at h
    · next hk =>
      cases h
      exact hk ▸ List.mem_cons_self
    · exact List.mem_cons_of_mem _ (ih h)

/-! ### Fields that make something of what they read -/

/-- The field with something else made of its content. -/
def Slot.map {D : Type → Type} {α β : Type} (src : Source D) (f : α → β) (slot : Slot D α) :
    Slot D β :=
  ⟨slot.name, slot.aliases, src.map f slot.content, slot.absent.map f, slot.short.map f⟩

/-- The second fields are the first, but that something else is made of the contents of
some: of a record under construction what `F` says, and of a finished one what `G` says. -/
inductive Fields.Maps {D : Type → Type} (src : Source D) : {δ γ δ' γ' : Type} →
    Fields D δ γ → Fields D δ' γ' → (F : δ → δ') → (G : γ → γ') → Prop
  | nil : Fields.Maps src .nil .nil id id
  | keep {β δ γ δ' γ' : Type} {fs : Fields D δ γ} {fs' : Fields D δ' γ'} {F : δ → δ'}
      {G : γ → γ'} (slot : Slot D β) : Fields.Maps src fs fs' F G →
        Fields.Maps src (.cons slot fs) (.cons slot fs') (Prod.map id F) (Prod.map id G)
  | make {α β δ γ δ' γ' : Type} {fs : Fields D δ γ} {fs' : Fields D δ' γ'} {F : δ → δ'}
      {G : γ → γ'} (f : α → β) (slot : Slot D α) : Fields.Maps src fs fs' F G →
        Fields.Maps src (.cons slot fs) (.cons (slot.map src f) fs')
          (Prod.map (Option.map f) F) (Prod.map f G)

namespace Fields.Maps

variable {D : Type → Type} {src : Source D} {δ γ δ' γ' : Type} {fs : Fields D δ γ}
  {fs' : Fields D δ' γ'} {F : δ → δ'} {G : γ → γ'}

/-- Fields that map to fields are as many, -/
theorem length (h : Fields.Maps src fs fs' F G) : fs'.length = fs.length := by
  induction h with
  | nil => rfl
  | keep slot _ ih | make f slot _ ih => rw [Fields.length, ih, Fields.length]

/-- their blank cells map to blank cells, -/
theorem blank (h : Fields.Maps src fs fs' F G) : fs'.blank = F fs.blank := by
  induction h with
  | nil => rfl
  | keep slot _ ih | make f slot _ ih =>
    rw [Fields.blank, ih]
    rfl

/-- and so do the records that are made of the cells. -/
theorem finish (h : Fields.Maps src fs fs' F G) (cells : δ) :
    fs'.finish (F cells) = (fs.finish cells).map G := by
  induction h with
  | nil => rfl
  | keep slot _ ih =>
    obtain ⟨cell, cells⟩ := cells
    simp only [Fields.finish, Prod.map, id, ih]
    cases cell <|> slot.absent with
    | none => rfl
    | some b => cases Fields.finish _ cells <;> rfl
  | make f slot _ ih =>
    obtain ⟨cell, cells⟩ := cells
    have habsent : (cell.map f <|> (slot.map src f).absent) = (cell <|> slot.absent).map f := by
      cases cell <;> rfl
    simp only [Fields.finish, Prod.map, ih, habsent]
    cases cell <|> slot.absent with
    | none => rfl
    | some b => cases Fields.finish _ cells <;> rfl

section Reading

variable {ε σ : Type}

/-- A value that is offered to both is taken by the same field of both. -/
theorem offer {read : {β : Type} → D β → σ → Except ε (β × σ)} {again : String → σ → ε}
    (hread : ∀ {α β : Type} (f : α → β) (d : D α) (s : σ),
      read (src.map f d) s = (read d s).map (Prod.map f id))
    (h : Fields.Maps src fs fs' F G) (key : String) (cells : δ) (s : σ) :
    fs'.offer read again key (F cells) s =
      (fs.offer read again key cells s).map (Option.map (Prod.map F id)) := by
  induction h with
  | nil => rfl
  | keep slot _ ih =>
    obtain ⟨cell, cells⟩ := cells
    simp only [Fields.offer, Prod.map]
    split
    · cases cell with
      | some b => rfl
      | none => cases read slot.content s <;> rfl
    · rw [ih]
      rcases Fields.offer read again key _ cells s with _ | _ | _ <;> rfl
  | make f slot _ ih =>
    obtain ⟨cell, cells⟩ := cells
    have hanswers : (slot.map src f).answersTo key = slot.answersTo key := rfl
    simp only [Fields.offer, Prod.map, hanswers]
    split
    · cases cell with
      | some b => rfl
      | none =>
        simp only [Slot.map, hread, Option.map_none]
        cases read slot.content s <;> rfl
    · rw [ih]
      rcases Fields.offer read again key _ cells s with _ | _ | _ <;> rfl

/-- An array fills both alike. -/
theorem fill {next : {β : Type} → D β → σ → Except ε (Option β × σ)} {tooShort : Nat → σ → ε}
    (hnext : ∀ {α β : Type} (f : α → β) (d : D α) (s : σ),
      next (src.map f d) s = (next d s).map (Prod.map (Option.map f) id))
    (h : Fields.Maps src fs fs' F G) (i : Nat) (s : σ) :
    fs'.fill next tooShort i s = (fs.fill next tooShort i s).map (Prod.map G id) := by
  induction h generalizing i s with
  | nil => rfl
  | keep slot _ ih =>
    simp only [Fields.fill]
    rcases next slot.content s with _ | ⟨b?, s⟩
    · rfl
    · dsimp only
      cases b? <|> slot.short with
      | none => rfl
      | some b =>
        simp only [ih]
        cases Fields.fill next tooShort (i + 1) _ s <;> rfl
  | make f slot _ ih =>
    simp only [Fields.fill, Slot.map, hnext]
    rcases next slot.content s with _ | ⟨b?, s⟩
    · rfl
    · have hshort : (b?.map f <|> slot.short.map f) = (b? <|> slot.short).map f := by
        cases b? <;> rfl
      simp only [Except.map, Prod.map, id, hshort]
      cases b? <|> slot.short with
      | none => rfl
      | some b =>
        simp only [ih, Option.map_some]
        cases Fields.fill next tooShort (i + 1) _ s <;> rfl

end Reading

end Fields.Maps

namespace FromText

variable {δ γ δ' γ' : Type} {fs : Fields FromText δ γ} {fs' : Fields FromText δ' γ'}
  {F : δ → δ'} {G : γ → γ'}

/-- The members of an object in a text are taken by both alike. -/
theorem offerAll_maps (h : Fields.Maps Source.document fs fs' F G) (depth fuel : Nat)
    (first : Bool) (cells : δ) (s : List Char) :
    offerAll depth fs' fuel first (F cells) s =
      (offerAll depth fs fuel first cells s).map (Prod.map F id) := by
  induction fuel generalizing first cells s with
  | zero => rfl
  | succ fuel ih =>
    rw [offerAll, offerAll]
    rcases readKey first s with _ | ⟨_ | k, r⟩
    · rfl
    · rfl
    · dsimp only
      rw [h.offer]
      · rcases Fields.offer _ _ k fs cells r with _ | _ | ⟨cells, r⟩
        · rfl
        · dsimp only [Except.map, Option.map]
          cases readColon r with
          | error e => rfl
          | ok r =>
            dsimp only
            rcases skip r with _ | ⟨_, r⟩
            · rfl
            · exact ih false cells r
        · exact ih false cells r
      · intro α β f d s
        cases readColon s with
        | error e => rfl
        | ok s => rfl

/-- The elements of an array in a text are as well. -/
theorem nextElement_map {α β : Type} (depth : Nat) (f : α → β) (d : FromText α)
    (s : Bool × List Char) : nextElement depth (Source.document.map f d) s =
      (nextElement depth d s).map (Prod.map (Option.map f) id) := by
  have helement (s : List Char) : nextElement.element depth (Source.document.map f d) s =
      (nextElement.element depth d s).map (Prod.map (Option.map f) id) := by
    simp only [nextElement.element, Source.document]
    rcases d depth s with _ | ⟨a, r⟩ <;> rfl
  obtain ⟨first, s⟩ := s
  unfold nextElement
  dsimp only
  split
  · rfl
  · rfl
  · split_ifs
    · split
      · rfl
      · rfl
      · exact helement _
    · exact helement _
    · rfl

/-- What stands where something else was expected is an error, whatever was to be read. -/
theorem unexpected_eq_error (expected : String) (s : List Char) :
    ∃ e, ∀ α : Type, (unexpected expected s : Except Snag (α × List Char)) = .error e := by
  unfold unexpected
  split
  · exact ⟨_, fun _ => rfl⟩
  · exact ⟨_, fun _ => rfl⟩
  · exact ⟨_, fun _ => rfl⟩
  · split
    · exact ⟨_, fun _ => rfl⟩
    · exact ⟨_, fun _ => rfl⟩

/-- **What a record makes of its fields may be made of the record,** when it has been read. -/
theorem record_maps (h : Fields.Maps Source.document fs fs' F G) (name : String) (depth : Nat)
    (s : List Char) :
    record name fs' depth s = (record name fs depth s).map (Prod.map G id) := by
  unfold record
  split
  · cases depth with
    | zero => rfl
    | succ depth =>
      dsimp only
      rw [h.blank, offerAll_maps h]
      rcases offerAll depth fs _ true fs.blank _ with _ | ⟨cells, r⟩
      · rfl
      · dsimp only [Except.map, Prod.map, id]
        rw [h.finish]
        cases fs.finish cells <;> rfl
  · cases depth with
    | zero => rfl
    | succ depth =>
      dsimp only
      rw [h.length, h.fill (nextElement_map depth)]
      rcases Fields.fill _ _ 0 fs _ with _ | ⟨c, _, r⟩
      · rfl
      · dsimp only [Except.map, Prod.map, id]
        cases afterList r <;> rfl
  · obtain ⟨e, he⟩ := unexpected_eq_error ("struct " ++ name) (skipSpace s)
    rw [he, he]
    rfl

end FromText
end Json
end Errand

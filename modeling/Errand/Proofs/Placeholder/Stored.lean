/-
# Values that are stored as text

SPEC_FULL.md, section 3 (Binding Context), on texts that are treated as JSON.

An array or an object may be bound as it is, or as the text that it is written as.  A
placeholder looks into a bound value only through `Value.asStructured?`, which uncovers
the value from its text, and what it does not look into it writes out, which gives the
text again (`asStructured?_eq`, `render_eq`).  So each form of reference resolves to the
same, and so does every template (`substitute_storedAs`).
-/

import Errand.Placeholder
import Errand.Proofs.Json.Legible

namespace Errand

open Json (Members Value)

/-- How a value is stored: as it is, or, if it is an array or object that can be read back,
as the text that it is written as. -/
inductive StoredAs (v : Value) : Value → Prop
  | itself : StoredAs v v
  | text : v.isStructured = true → Json.parse? v.compact = some v →
      StoredAs v (.string v.compact)

/-- The same names are bound, each to the same value, however it is stored. -/
def Bindings.StoredAs (b b' : Bindings) : Prop :=
  ∀ name, Option.Rel Errand.StoredAs (b.get? name) (b'.get? name)

/-- The same names are bound. -/
theorem Bindings.StoredAs.contains_eq {b b' : Bindings} (h : b.StoredAs b') (name : String) :
    b'.contains name = b.contains name := by
  have hname := h name
  unfold Bindings.contains
  generalize b.get? name = bound at hname ⊢
  generalize b'.get? name = bound' at hname ⊢
  cases hname <;> rfl

/-- Storing one array or object as text leaves the others as they are. -/
theorem Bindings.storedAs_set {b : Bindings} {name : String} {v : Value}
    (hbound : b.get? name = some v) (hv : v.isStructured = true)
    (hread : Json.parse? v.compact = some v) :
    b.StoredAs (b.set name (.string v.compact)) := by
  intro other
  by_cases hname : other = name
  · subst hname
    rw [Bindings.get?_set_self, hbound]
    exact .some (.text hv hread)
  · rw [Bindings.get?_set_of_ne b hname]
    cases b.get? other with
    | none => exact .none
    | some w => exact .some .itself

/-- The compact form of an array or object stands in brackets, so trimming leaves it alone. -/
theorem Json.Value.trimChars_compactChars {v : Value} (hv : v.isStructured = true) :
    Text.trimChars v.compactChars = v.compactChars := by
  obtain ⟨first, inner, last, hchars, hfirst, hlast⟩ : ∃ first inner last,
      v.compactChars = first :: inner ++ [last] ∧ Text.isBlank first = false ∧
        Text.isBlank last = false := by
    cases v with
    | array items => exact ⟨'[', Value.compactItems items, ']', rfl, rfl, rfl⟩
    | object members => exact ⟨'{', Value.compactMembers members, '\x7d', rfl, rfl, rfl⟩
    | _ => cases hv
  rw [hchars]
  refine Text.trimChars_of_solid (fun c hc => ?_) fun c hc => ?_
  · cases hc
    exact hfirst
  · rw [List.getLast?_concat] at hc
    cases hc
    exact hlast

namespace StoredAs

variable {v w : Value}

/-- **The value is uncovered from its text.** -/
theorem asStructured?_eq (h : StoredAs v w) : w.asStructured? = v.asStructured? := by
  cases h with
  | itself => rfl
  | text hv hread =>
    have htrim := v.trimChars_compactChars hv
    rw [Json.parse?, Value.compact, String.toList_ofList] at hread
    rw [Value.asStructured?, Value.compact, String.toList_ofList, htrim]
    cases v with
    | array items => exact hread
    | object members => exact hread
    | _ => cases hv

/-- **The value is written out as its text.** -/
theorem render_eq (h : StoredAs v w) : w.render = v.render := by
  cases h with
  | itself => rfl
  | text hv _ =>
    cases v with
    | array items => rfl
    | object members => rfl
    | _ => cases hv

end StoredAs

namespace Placeholder

variable {rules : SubstitutionRules} {v w : Value} {b b' : Bindings}

/-- A bare placeholder finds the same content, or else writes the value out. -/
theorem render_primaryContent (h : StoredAs v w) :
    (primaryContent rules w).render = (primaryContent rules v).render := by
  unfold primaryContent
  rw [h.asStructured?_eq]
  split
  · next ms _ =>
    cases rules.contentProperties.findSome? fun n => Members.findIgnoringCase? n ms with
    | none => exact h.render_eq
    | some found => rfl
  · exact h.render_eq

/-- The same item is found at a place, -/
theorem itemAt?_storedAs (h : StoredAs v w) (i : Nat) : itemAt? rules w i = itemAt? rules v i := by
  unfold itemAt?
  rw [h.asStructured?_eq]

/-- **Every form of reference** names the same text in a value, however it is stored. -/
theorem render_lookup? (h : StoredAs v w) (ref : Reference) :
    (lookup? rules w ref).map Value.render = (lookup? rules v ref).map Value.render := by
  obtain ⟨name, property, index⟩ := ref
  cases property with
  | none =>
    cases index with
    | none => exact congrArg some (render_primaryContent h)
    | some i => exact congrArg _ (itemAt?_storedAs h i)
  | some p =>
    -- The property of a value is a part of the value itself, so it is looked into alike.
    cases index <;> simp only [lookup?, h.asStructured?_eq]

/-- and so every reference stands for the same text. -/
theorem resolve?_storedAs (h : b.StoredAs b') : resolve? rules b' = resolve? rules b := by
  funext ref
  have hname := h ref.name
  unfold resolve?
  generalize b.get? ref.name = bound at hname ⊢
  generalize b'.get? ref.name = bound' at hname ⊢
  cases hname with
  | some hvalue => exact render_lookup? hvalue ref
  | none => rfl

/-- **How a bound value is stored makes no difference.**  Any number of the arrays and objects
that are bound, each of which can be read back from its compact form, may be replaced by
that form as a text: every template is filled as before, and the same of its variables are
not bound. -/
theorem substitute_storedAs (rules : SubstitutionRules) {b b' : Bindings} (h : b.StoredAs b')
    (template : String) :
    substitute rules b' template = substitute rules b template ∧
      unbound b' template = unbound b template := by
  have hfill : fillSegment rules b' = fillSegment rules b := by
    funext escape seg
    cases seg with
    | plain c => rfl
    | slot spelling ref => rw [fillSegment, fillSegment, resolve?_storedAs h]
  refine ⟨?_, ?_⟩
  · rw [substitute, substitute, hfill]
  · simp only [unbound, h.contains_eq]

namespace Inventory

/-- Some files. -/
def files : Value :=
  .object [("Items", .array [.string "a.txt", .number (.int 2)]), ("size", .number (.int 2))]

/-- The files, bound as they are. -/
def bindings : Bindings := (Bindings.empty.set "files" files).set "n" (.number (.int 1))

/-- All forms of reference to them. -/
def template : String :=
  "\x7bfiles\x7d \x7bfiles.size\x7d \x7bfiles[1]\x7d \x7bfiles.items[0]\x7d " ++
    "\x7bfiles[2]\x7d \x7bgone.x\x7d"

end Inventory

open Inventory in
/-- The hypothesis of `substitute_storedAs` is satisfiable: the files may be stored as text. -/
theorem substitute_storedAs_inventory :
    bindings.StoredAs (bindings.set "files" (.string files.compact)) ∧
      substitute {} (bindings.set "files" (.string files.compact)) template =
        substitute {} bindings template ∧
      unbound (bindings.set "files" (.string files.compact)) template =
        unbound bindings template := by
  have hbound : bindings.get? "files" = some files := rfl
  have hread : Json.parse? files.compact = some files := rfl
  have h := Bindings.storedAs_set hbound rfl hread
  exact ⟨h, substitute_storedAs {} h template⟩

/-- What is out of range or not bound stays as it is spelt. -/
example : substitute {} (Inventory.bindings.set "files" (.string Inventory.files.compact))
      Inventory.template =
    "\x7b\"Items\":[\"a.txt\",2],\"size\":2\x7d 2 2 a.txt \x7bfiles[2]\x7d \x7bgone.x\x7d" := by
  decide +kernel

end Placeholder
end Errand

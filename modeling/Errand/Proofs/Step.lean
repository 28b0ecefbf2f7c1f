/-
# Steps that carry a value

An action has its parameters as a value, and a written step may have.  A step keeps them as
the template that the value makes: its compact form, if it is an array or an object.

Where a written step has its parameters is said without its decoder: under one of their
spellings, or in the fourth place (`Step.writtenParameters?`).  In a text they stand where
the reader comes upon them (`Step.parametersInText?`).
-/

import Errand.Action
import Errand.Proofs.Json.Records

namespace Errand

open Json (Value)

/-- The spellings of a step's parameters. -/
def Step.parameterFields : List String := ["rawParameters", "raw_parameters", "parameters"]

/-- The parameters in a written step: the member under one of their spellings, or the
fourth item. -/
def Step.writtenParameters? : Value → Option Value
  | .object ms => Step.parameterFields.findSome? fun k => Json.Members.find? k ms
  | .array vs => vs[3]?
  | _ => none

section Fields

open Json (Fields FromText FromValue Source)

/-- The fields of a written step, the parameters being read as `parameters` says. -/
def Step.slots {D : Type → Type} (s : Source D) {α : Type} (absent : α) (parameters : D α) :
    Fields D
      (Option Nat × Option String × Option String × Option α × Option (Option String) × Unit)
      (Nat × String × String × α × Option String × Unit) :=
  .cons (.required "stepNumber" s.nat32 ["step_number"]) <|
    .cons (.withDefault "description" "" s.text) <|
    .cons (.required "targetName" s.text ["target_name", "target", "tool"]) <|
    .cons (.withDefault "rawParameters" absent parameters ["raw_parameters", "parameters"]) <|
    .cons (.withDefault "outputVariable" none (s.optional s.text) ["output_variable"]) <|
    .nil

/-- The parameters in the text of a written step, as the reader comes upon them: null if
there are none. -/
def Step.parametersInText? (depth : Nat) (s : List Char) : Option Value :=
  match FromText.record "Step" (Step.slots .document .null Source.document.any) depth s with
  | .ok ((_, _, _, v, _, ()), _) => some v
  | .error _ => none

end Fields

/-- The step's parameters are the value, as an action or a written step gave it: an action
that was made a step, a step decoded from a value, or a step read from text. -/
inductive Step.Carries (v : Value) : Step → Prop
  | action {a : Action} (stepNumber : Nat) (description : String) :
      a.parameters = some v → Step.Carries v (a.toStep stepNumber description)
  | decoded {w : Value} {step : Step} : Step.layout .value w = .ok step →
      Step.writtenParameters? w = some v → Step.Carries v step
  | read {depth : Nat} {s r : List Char} {step : Step} :
      Step.layout .document depth s = .ok (step, r) → Step.parametersInText? depth s = some v →
        Step.Carries v step

section Decoding

open Json (Fields FromText FromValue Mismatch Slot Source)

/-- The fields of a step that is decoded from a value. -/
abbrev Step.valueSlots :=
  Step.slots Source.value none (Source.value.map templateOf Source.value.any)

/-- A step is laid out as a record of its members. -/
theorem Step.layout_value (w : Value) : Step.layout .value w =
    (FromValue.record "Step" Step.valueSlots w).map fun (n, d, t, p, o, ()) =>
      ⟨n, d, t, p, o⟩ := rfl

/-- Offer a member to the fields of a step. -/
abbrev Step.offer (k : String) (cells : Option Nat × Option String × Option String ×
    Option (Option String) × Option (Option String) × Unit) (v : Value) :=
  Step.valueSlots.offer (fun d v => (d v).map (·, v)) (fun n _ => Mismatch.duplicateField n)
    k cells v

/-- A member under a spelling of the parameters fills their field, which is filled once at
most. -/
theorem Step.offer_parameters_eq_ok {k : String} (hk : k ∈ Step.parameterFields) {v : Value}
    {cells r} (h : Step.offer k cells v = .ok r) : cells.2.2.2.1 = none ∧
      ∃ cells', r = some (cells', v) ∧ cells'.2.2.2.1 = some (templateOf v) := by
  obtain ⟨c₁, c₂, c₃, c₄, c₅, ⟨⟩⟩ := cells
  simp only [Step.parameterFields, List.mem_cons, List.not_mem_nil, or_false] at hk
  cases c₄ with
  | some x =>
    have hagain : Step.offer k (c₁, c₂, c₃, some x, c₅, ()) v =
        .error (Mismatch.duplicateField "rawParameters") := by
      rcases hk with rfl | rfl | rfl <;> rfl
    cases hagain.symm.trans h
  | none =>
    have hfills : Step.offer k (c₁, c₂, c₃, none, c₅, ()) v =
        .ok (some ((c₁, c₂, c₃, some (templateOf v), c₅, ()), v)) := by
      rcases hk with rfl | rfl | rfl <;> rfl
    cases hfills.symm.trans h
    exact ⟨rfl, _, rfl, rfl⟩

/-- Any other member leaves the field of the parameters alone. -/
theorem Step.offer_other {k : String} (hk : k ∉ Step.parameterFields) {v v' : Value}
    {cells cells'} (h : Step.offer k cells v = .ok (some (cells', v'))) :
    cells'.2.2.2.1 = cells.2.2.2.1 := by
  obtain ⟨-, h⟩ | ⟨-, -, h⟩ := Fields.offer_cons_eq_ok h
  · rw [h]
  obtain ⟨-, h⟩ | ⟨-, -, h⟩ := Fields.offer_cons_eq_ok h
  · rw [h]
  obtain ⟨-, h⟩ | ⟨-, -, h⟩ := Fields.offer_cons_eq_ok h
  · rw [h]
  obtain ⟨h, -⟩ | ⟨-, h, -⟩ := Fields.offer_cons_eq_ok h
  · refine absurd ?_ hk
    simp only [Slot.answersTo, Slot.withDefault, Bool.or_eq_true, beq_iff_eq,
      List.contains_iff_mem] at h
    rcases h with rfl | h
    · exact List.mem_cons_self
    · exact List.mem_cons_of_mem _ h
  · exact h

/-- Of the members of a written step, those under a spelling of the parameters fill their
field, and what has filled it stays. -/
theorem Step.offerAll_parameters {ms : Json.Members} {cells cells'}
    (h : FromValue.offerAll Step.valueSlots ms cells = .ok cells') :
    (∀ p ∈ ms, p.1 ∈ Step.parameterFields → cells'.2.2.2.1 = some (templateOf p.2)) ∧
      ∀ x, cells.2.2.2.1 = some x → cells'.2.2.2.1 = some x := by
  induction ms generalizing cells with
  | nil =>
    cases h
    exact ⟨by simp, fun _ hx => hx⟩
  | cons m ms ih =>
    obtain ⟨k, v⟩ := m
    have hoffered := FromValue.offerAll_cons_eq_ok h
    by_cases hk : k ∈ Step.parameterFields
    · obtain ⟨cells₁, v', hoffer, h⟩ | ⟨hoffer, -⟩ := hoffered
      · obtain ⟨hopen, _, hfilled, hcell⟩ := Step.offer_parameters_eq_ok hk hoffer
        cases hfilled
        obtain ⟨hall, hkeep⟩ := ih h
        refine ⟨List.forall_mem_cons.2 ⟨fun _ => hkeep _ hcell, hall⟩, fun x hx => ?_⟩
        cases hopen.symm.trans hx
      · obtain ⟨-, _, hfilled, -⟩ := Step.offer_parameters_eq_ok hk hoffer
        cases hfilled
    · obtain ⟨cells₁, v', hoffer, h⟩ | ⟨-, h⟩ := hoffered
      · obtain ⟨hall, hkeep⟩ := ih h
        refine ⟨List.forall_mem_cons.2 ⟨fun hmem => absurd hmem hk, hall⟩, fun x hx => ?_⟩
        exact hkeep x ((Step.offer_other hk hoffer).trans hx)
      · obtain ⟨hall, hkeep⟩ := ih h
        exact ⟨List.forall_mem_cons.2 ⟨fun hmem => absurd hmem hk, hall⟩, hkeep⟩

/-- **A step that is decoded from a value** has the template of its written parameters. -/
theorem Step.rawParameters_of_layout {w v : Value} {step : Step}
    (h : Step.layout .value w = .ok step) (hv : Step.writtenParameters? w = some v) :
    step.rawParameters = templateOf v := by
  rw [Step.layout_value] at h
  cases hc : FromValue.record "Step" Step.valueSlots w with
  | error e => simp [hc, Except.map] at h
  | ok c =>
    obtain ⟨n, d, t, p, o, ⟨⟩⟩ := c
    obtain rfl : step = ⟨n, d, t, p, o⟩ := by simpa [hc, Except.map, eq_comm] using h
    show p = templateOf v
    cases w with
    | object ms =>
      rw [FromValue.record] at hc
      split at hc
      · cases hc
      · next cells hcells =>
        obtain ⟨k, hk, hkv⟩ := List.exists_of_findSome?_eq_some hv
        have hcell := (Step.offerAll_parameters hcells).1 _ (Json.Members.mem_of_find? hkv) hk
        obtain ⟨c₁, c₂, c₃, c₄, c₅, ⟨⟩⟩ := cells
        obtain ⟨-, hc⟩ := Fields.finish_cons_eq_ok hc
        obtain ⟨-, hc⟩ := Fields.finish_cons_eq_ok hc
        obtain ⟨-, hc⟩ := Fields.finish_cons_eq_ok hc
        obtain ⟨hp, -⟩ := Fields.finish_cons_eq_ok hc
        obtain rfl : c₄ = some (templateOf v) := hcell
        exact (Option.some.inj hp).symm
    | array vs =>
      rw [FromValue.record] at hc
      obtain _ | ⟨v₁, _ | ⟨v₂, _ | ⟨v₃, _ | ⟨v₄, vs⟩⟩⟩⟩ := vs
      any_goals cases hv
      split at hc
      · cases hc
      · next hfill =>
        cases hc
        obtain ⟨-, hfill⟩ := FromValue.fill_cons_eq_ok hfill
        obtain ⟨-, hfill⟩ := FromValue.fill_cons_eq_ok hfill
        obtain ⟨-, hfill⟩ := FromValue.fill_cons_eq_ok hfill
        obtain ⟨hp, -⟩ := FromValue.fill_cons_eq_ok hfill
        exact (Except.ok.inj hp).symm
      · cases hc
    | _ => cases hv

/-- The fields of a step are those that leave its parameters as they stand, but for the
template that is made of these. -/
theorem Step.slots_maps : ∃ F G, Fields.Maps Source.document
    (Step.slots .document .null Source.document.any)
    (Step.slots .document none (Source.document.map templateOf Source.document.any)) F G ∧
      ∀ n d t v o, G (n, d, t, v, o, ()) = (n, d, t, templateOf v, o, ()) :=
  ⟨_, _, .keep _ (.keep _ (.keep _ (.make templateOf _ (.keep _ .nil)))), fun _ _ _ _ _ => rfl⟩

/-- **A step that is read from text** has the template of the parameters that stand there. -/
theorem Step.rawParameters_of_text {depth : Nat} {s r : List Char} {v : Value} {step : Step}
    (h : Step.layout .document depth s = .ok (step, r))
    (hv : Step.parametersInText? depth s = some v) : step.rawParameters = templateOf v := by
  obtain ⟨F, G, hmaps, hG⟩ := Step.slots_maps
  have hlayout : Step.layout .document depth s =
      (FromText.record "Step" (Step.slots .document none
        (Source.document.map templateOf Source.document.any)) depth s).map
          fun ((n, d, t, p, o, ()), r) => (⟨n, d, t, p, o⟩, r) := rfl
  rw [hlayout, FromText.record_maps hmaps] at h
  unfold Step.parametersInText? at hv
  split at hv
  · next hread =>
    cases hv
    rw [hread] at h
    simp only [Except.map, Prod.map, hG] at h
    cases h
    rfl
  · cases hv

/-- **Whatever carries a value has its template.** -/
theorem Step.Carries.rawParameters_eq {v : Value} {step : Step} (h : Step.Carries v step) :
    step.rawParameters = templateOf v := by
  cases h with
  | action stepNumber description hv => rw [Action.toStep, hv, Option.bind_some]
  | decoded h hv => exact Step.rawParameters_of_layout h hv
  | read h hv => exact Step.rawParameters_of_text h hv

end Decoding

end Errand

/-
# Where the parameters of an action come from

SPEC_FULL.md, section 2, item 10.

An action is made of a value that the JSON of a reply lists (`Reply.action?_eq_some_iff`),
and its parameters stand in that value.  The JSON of a reply was read from the reply's text,
or from a part of it.  So the parameters of an action that a reply asks for are legible, as
far as their doubles are (`Reply.parameters_legible`).
-/

import Errand.Proofs.Json.ReadBack
import Errand.Proofs.Json.Records
import Errand.Proofs.Reply.Extract

namespace Errand
namespace Reply

open Json (Members Value)

/-! ### Actions -/

/-- What is found under a name is a member of that name, whatever its case. -/
theorem mem_of_findIgnoringCase? {name : String} {ms : Members} {v : Value}
    (h : ms.findIgnoringCase? name = some v) :
    ∃ k, (k, v) ∈ ms ∧ Text.equalIgnoringCase k name = true := by
  unfold Members.findIgnoringCase? at h
  split at h
  · next hexact =>
    cases h
    exact ⟨name, Members.mem_of_find? hexact, Text.equalIgnoringCase_self name⟩
  · obtain ⟨⟨k, w⟩, hfind, rfl⟩ := Option.map_eq_some_iff.1 h
    have hname := List.find?_some hfind
    exact ⟨k, List.mem_of_find?_eq_some hfind, hname⟩

/-- A field of an object stands in it. -/
theorem within_of_field? {names : List String} {ms : Members} {v : Value}
    (h : field? names ms = some v) : v.Within (.object ms) := by
  obtain ⟨name, -, hname⟩ := List.exists_of_findSome?_eq_some h
  obtain ⟨k, hk, -⟩ := mem_of_findIgnoringCase? hname
  exact .member hk (.refl v)

/-- **What is read as an action:** an object of a known kind, with a name unless it is a
finish. -/
theorem action?_eq_some_iff {w : Value} {a : Action} :
    action? w = some a ↔ ∃ ms kind, w = .object ms ∧ actionKind? ms = some kind ∧
      (kind ≠ .finish → actionName ms ≠ "") ∧
        a = { kind
              name := actionName ms
              parameters := (field? parameterFields ms).filter (· ≠ .null)
              outputVariable := (field? variableFields ms).bind Value.text? } := by
  constructor
  · intro h
    cases w with
    | object ms =>
      simp only [action?] at h
      split at h
      · cases h
      · next kind hkind =>
        split at h
        · cases h
        · next hnamed =>
          refine ⟨ms, kind, rfl, hkind, fun hfinish hempty => hnamed ⟨hfinish, ?_⟩,
            (Option.some.inj h).symm⟩
          exact String.isEmpty_iff.2 hempty
    | _ => cases h
  · rintro ⟨ms, kind, rfl, hkind, hnamed, rfl⟩
    have hpass : ¬(kind ≠ .finish ∧ (actionName ms).isEmpty = true) := by
      rintro ⟨hfinish, hempty⟩
      exact hnamed hfinish (String.isEmpty_iff.1 hempty)
    simp only [action?, hkind]
    rw [if_neg hpass]

/-- The parameters of an action stand in the value that describes it. -/
theorem action?_parameters {w v : Value} {a : Action} (h : action? w = some a)
    (hv : a.parameters = some v) : v.Within w := by
  obtain ⟨ms, kind, rfl, -, -, rfl⟩ := action?_eq_some_iff.1 h
  exact within_of_field? (Option.filter_eq_some_iff.1 hv).1

/-- The entries with actions are parts of the reply, -/
theorem actionEntries_within {w e : Value} (h : e ∈ actionEntries w) : e.Within w := by
  cases w with
  | array items => exact .item h (.refl e)
  | object ms =>
    simp only [actionEntries] at h
    split at h
    · next hlist => exact (Value.Within.item h (.refl e)).trans (within_of_field? hlist)
    · cases h
    · cases List.mem_singleton.1 h
      exact .refl _
  | _ => cases h

/-- and so is the action of a decision. -/
theorem decisionAction_within (v : Value) : (decisionAction v).Within v := by
  unfold decisionAction
  split
  · next hfield =>
    cases v with
    | object ms => exact within_of_field? hfield
    | _ => cases hfield
  · exact .refl v

/-- The reply asks for the action, as a plan or as a decision. -/
inductive Asks (content : Value) : Action → Prop
  | listed {a : Action} : a ∈ actions content → Asks content a
  | decided {a : Action} : decision content = .act a → Asks content a

/-- **An action is read from a value in the JSON of the reply** that asks for it. -/
theorem Asks.exists_action? {content : Value} {a : Action} (h : Asks content a) :
    ∃ w v, structured? content = some w ∧ v.Within w ∧ action? v = some a := by
  cases h with
  | listed ha =>
    unfold actions at ha
    split at ha
    · cases ha
    · next w hw =>
      obtain ⟨v, hv, hread⟩ := List.mem_filterMap.1 ha
      exact ⟨w, v, hw, actionEntries_within hv, hread⟩
  | decided ha =>
    unfold decision at ha
    split at ha
    · cases ha
    · next w hw =>
      dsimp only at ha
      split at ha
      · next hread =>
        split at ha
        · cases ha
        · cases ha
          exact ⟨w, _, hw, decisionAction_within w, hread⟩
      · cases ha

/-- **The parameters of an action stand in the JSON of the reply.** -/
theorem Asks.parameters_within {content v : Value} {a : Action} (h : Asks content a)
    (hv : a.parameters = some v) : ∃ w, structured? content = some w ∧ v.Within w := by
  obtain ⟨w, u, hw, hwithin, hread⟩ := h.exists_action?
  exact ⟨w, hw, (action?_parameters hread hv).trans hwithin⟩

/-- **The parameters of an action that a reply's text asks for are legible,** as far as their
doubles are. -/
theorem parameters_legible {text : String} {v : Value} {a : Action}
    (h : Asks (.string text) a) (hv : a.parameters = some v)
    (hdoubles : ∀ x ∈ v.doubles, (Json.Number.real x).Legible) : v.Legible Json.maxDepth := by
  obtain ⟨w, hw, hwithin⟩ := h.parameters_within hv
  obtain ⟨t, -, ht⟩ := extractChars?_infix hw
  exact Value.legible_of_within ht hwithin hdoubles

end Reply
end Errand

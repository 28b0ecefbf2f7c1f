/-
# Actions that are written and read again

SPEC_FULL.md, section 2, item 10, on lists of actions.

Whatever value an action was read from, its name is trimmed, it has a name unless it is a
finish, and its parameters are not null (`IsReadable`, `isReadable_of_action?`).  Nothing
else is asked of an action that is to be read: written down with its own spelling of each
field it comes back as it was (`action?_toJson`).  A field that it lacks is not found under
another spelling, because no other field of an action is spelt so (`field?_eq_none`).

So a list of actions is read back as well, from a plan or an array, and from any text of one
(`actions_written`).  Such a text is the compact form if the parameters are legible and not
nested too deep (`Lists.legible`).
-/

import Errand.Proofs.Reply
import Errand.Proofs.Reply.Wrapped

namespace Errand

open Json (Members Value)

namespace Reply

/-! ### Looking for fields -/

/-- What is found under its very name is found in any case. -/
theorem findIgnoringCase?_of_find? {name : String} {ms : Members} {v : Value}
    (h : ms.find? name = some v) : ms.findIgnoringCase? name = some v := by
  rw [Members.findIgnoringCase?, h]

/-- Nothing is found under a name that no member has. -/
theorem findIgnoringCase?_eq_none {name : String} {ms : Members}
    (h : ∀ m ∈ ms, Text.equalIgnoringCase m.1 name = false) :
    ms.findIgnoringCase? name = none := by
  refine Option.eq_none_iff_forall_ne_some.2 fun v hv => ?_
  obtain ⟨k, hk, hname⟩ := mem_of_findIgnoringCase? hv
  rw [h _ hk] at hname
  cases hname

/-- The first spelling is looked for first. -/
theorem field?_cons_of_find? {name : String} {names : List String} {ms : Members} {v : Value}
    (h : ms.find? name = some v) : field? (name :: names) ms = some v := by
  rw [field?, List.findSome?_cons, findIgnoringCase?_of_find? h]

/-- A spelling that no member has is passed over. -/
theorem field?_cons_of_none {name : String} {names : List String} {ms : Members}
    (h : ∀ m ∈ ms, Text.equalIgnoringCase m.1 name = false) :
    field? (name :: names) ms = field? names ms := by
  rw [field?, List.findSome?_cons, findIgnoringCase?_eq_none h]
  rfl

/-- No field is found under spellings that no member has. -/
theorem field?_eq_none {names : List String} {ms : Members}
    (h : ∀ n ∈ names, ∀ m ∈ ms, Text.equalIgnoringCase m.1 n = false) : field? names ms = none :=
  List.findSome?_eq_none_iff.2 fun n hn => findIgnoringCase?_eq_none (h n hn)

end Reply

namespace Action

/-! ### Written actions -/

/-- An action that may be read from a reply. -/
structure IsReadable (a : Action) : Prop where
  trimmed : Text.trim a.name = a.name
  named : a.kind ≠ .finish → a.name ≠ ""
  given : a.parameters ≠ some .null

/-- The members of a written action. -/
def members (a : Action) : Members := Members.ofList a.fields

/-- An action has no members but its four. -/
theorem mem_members {a : Action} {m : String × Value} (hm : m ∈ a.members) :
    m = ("type", .string a.kind.name) ∨ m = ("name", .string a.name) ∨
      (∃ p, a.parameters = some p ∧ m = ("parameters", p)) ∨
        ∃ o, a.outputVariable = some o ∧ m = ("output_variable", .string o) := by
  have hfield : m ∈ a.fields := Members.mem_of_mem_ofList hm
  rw [fields, List.mem_append, List.mem_append] at hfield
  rcases hfield with (hfirst | hparameters) | houtput
  · rcases List.mem_cons.1 hfirst with hkind | hname
    · exact .inl hkind
    · exact .inr (.inl (List.mem_singleton.1 hname))
  · obtain ⟨p, hp, hm⟩ := Option.map_eq_some_iff.1 (Option.mem_toList.1 hparameters)
    exact .inr (.inr (.inl ⟨p, hp, hm.symm⟩))
  · obtain ⟨o, ho, hm⟩ := Option.map_eq_some_iff.1 (Option.mem_toList.1 houtput)
    exact .inr (.inr (.inr ⟨o, ho, hm.symm⟩))

/-- What is written of an action apart from its parameters is text. -/
theorem members_legible (a : Action) {depth : Nat}
    (ha : ∀ p, a.parameters = some p → p.Legible depth) :
    ∀ m ∈ a.members, m.2.Legible depth := by
  intro m hm
  rcases mem_members hm with rfl | rfl | ⟨p, hp, rfl⟩ | ⟨o, -, rfl⟩
  · exact .string
  · exact .string
  · exact ha p hp
  · exact .string

/-- A field is found in a written action under its own spelling. -/
theorem find?_members (a : Action) :
    a.members.find? "type" = some (.string a.kind.name) ∧
      a.members.find? "name" = some (.string a.name) ∧
      a.members.find? "parameters" = a.parameters ∧
      a.members.find? "output_variable" = a.outputVariable.map .string := by
  obtain ⟨kind, name, parameters, output⟩ := a
  cases parameters <;> cases output <;> simp [members, Members.find?_ofList, fields]

end Action

namespace Reply

/-- The name of an action is found among its members, -/
theorem field?_name (a : Action) : field? nameFields a.members = some (.string a.name) :=
  field?_cons_of_find? a.find?_members.2.1

/-- so is its kind, -/
theorem field?_kind (a : Action) : field? kindFields a.members = some (.string a.kind.name) :=
  field?_cons_of_find? a.find?_members.1

/-- so are its parameters, if it has any, -/
theorem field?_parameters (a : Action) : field? parameterFields a.members = a.parameters := by
  cases hp : a.parameters with
  | some p =>
    have hfind := a.find?_members.2.2.1
    exact field?_cons_of_find? (hfind.trans hp)
  | none =>
    refine field?_eq_none fun n hn m hm => ?_
    have hspelt : ∀ n ∈ parameterFields, ∀ key ∈ ["type", "name", "output_variable"],
        Text.equalIgnoringCase key n = false := by decide
    refine hspelt n hn m.1 ?_
    rcases Action.mem_members hm with rfl | rfl | ⟨p, hgiven, -⟩ | ⟨o, -, rfl⟩
    · simp
    · simp
    · rw [hp] at hgiven
      cases hgiven
    · simp

/-- and so is its variable. -/
theorem field?_output (a : Action) :
    field? variableFields a.members = a.outputVariable.map .string := by
  have hspelt : ∀ key ∈ ["type", "name", "parameters", "output_variable"],
      Text.equalIgnoringCase key "outputVariable" = false := by decide
  have hfirst : ∀ m ∈ a.members, Text.equalIgnoringCase m.1 "outputVariable" = false := by
    intro m hm
    refine hspelt m.1 ?_
    rcases Action.mem_members hm with rfl | rfl | ⟨p, -, rfl⟩ | ⟨o, -, rfl⟩ <;> simp
  rw [variableFields, field?_cons_of_none hfirst]
  cases ho : a.outputVariable with
  | some o =>
    have hfind := a.find?_members.2.2.2
    rw [ho] at hfind
    exact field?_cons_of_find? hfind
  | none =>
    refine field?_eq_none fun n hn m hm => ?_
    have hothers : ∀ key ∈ ["type", "name", "parameters"],
        Text.equalIgnoringCase key "output_variable" = false := by decide
    rw [List.mem_singleton.1 hn]
    refine hothers m.1 ?_
    rcases Action.mem_members hm with rfl | rfl | ⟨p, -, rfl⟩ | ⟨o, hgiven, -⟩
    · simp
    · simp
    · simp
    · rw [ho] at hgiven
      cases hgiven

/-- The name of a kind is a word for it. -/
theorem ofWord?_name (kind : ActionKind) : ActionKind.ofWord? kind.name = some kind := by
  cases kind <;> decide

/-- **A written action is read as it was,** if it may be read at all. -/
theorem action?_toJson {a : Action} (h : a.IsReadable) : action? a.toJson = some a := by
  have hname : actionName a.members = a.name := by
    rw [actionName, field?_name]
    exact h.trimmed
  have hkind : actionKind? a.members = some a.kind := by
    rw [actionKind?, field?_kind]
    exact ofWord?_name a.kind
  have hparameters : a.parameters.filter (· ≠ .null) = a.parameters := by
    cases hp : a.parameters with
    | none => rfl
    | some p =>
      have hgiven : p ≠ .null := fun hnull => h.given (hnull ▸ hp)
      rw [Option.filter_some, if_pos (decide_eq_true hgiven)]
  have houtput : (a.outputVariable.map Value.string).bind Value.text? = a.outputVariable := by
    cases a.outputVariable <;> rfl
  refine action?_eq_some_iff.2 ⟨a.members, a.kind, rfl, hkind, hname ▸ h.named, ?_⟩
  rw [hname, field?_parameters, field?_output, hparameters, houtput]

/-- **What is read may be read again:** an action from a reply is readable, whatever value it
was read from. -/
theorem isReadable_of_action? {v : Value} {a : Action} (h : action? v = some a) :
    a.IsReadable := by
  obtain ⟨ms, kind, rfl, -, hnamed, rfl⟩ := action?_eq_some_iff.1 h
  refine ⟨?_, hnamed, fun hnull => ?_⟩
  · rw [actionName]
    cases (field? nameFields ms).bind Value.text? with
    | none => rfl
    | some name => exact Text.trim_trim name
  · simpa using (Option.filter_eq_some_iff.1 hnull).2

/-- So is every action that a reply asks for. -/
theorem Asks.isReadable {content : Value} {a : Action} (h : Asks content a) : a.IsReadable := by
  obtain ⟨_, _, _, _, hread⟩ := h.exists_action?
  exact isReadable_of_action? hread

/-! ### Lists of actions -/

/-- A plan that lists actions. -/
def planOf (as : List Action) : Value := .ofPairs [("actions", .array (as.map Action.toJson))]

/-- The value lists the actions, as a plan or as a bare array. -/
inductive Lists (as : List Action) : Value → Prop
  | plan : Lists as (planOf as)
  | array : Lists as (.array (as.map Action.toJson))

namespace Lists

variable {as : List Action} {v : Value}

/-- A list of actions is an array or an object, -/
theorem isStructured (h : Lists as v) : v.isStructured = true := by
  cases h <;> rfl

/-- and its entries are the actions. -/
theorem actionEntries_eq (h : Lists as v) : actionEntries v = as.map Action.toJson := by
  cases h with
  | plan => rfl
  | array => rfl

/-- Such a value is written legibly if the parameters are legible three brackets further
in. -/
theorem legible (h : Lists as v) {depth : Nat}
    (has : ∀ a ∈ as, ∀ p, a.parameters = some p → p.Legible depth) : v.Legible (depth + 3) := by
  have hitem : ∀ w ∈ as.map Action.toJson, w.Legible (depth + 1) := by
    intro w hw
    obtain ⟨a, ha, rfl⟩ := List.mem_map.1 hw
    refine .object (Members.sorted_ofList _) fun m hm => ?_
    exact a.members_legible (has a ha) m hm
  have harray : (Value.array (as.map Action.toJson)).Legible (depth + 2) := .array hitem
  cases h with
  | plan =>
    refine .object (Members.sorted_ofList _) fun m hm => ?_
    have hm := List.mem_singleton.1 (Members.mem_of_mem_ofList hm)
    rw [hm]
    exact harray
  | array => exact harray.mono (Nat.le_succ _)

end Lists

/-- The text of an array or an object is a reply that says the same. -/
theorem extract?_of_parse? {t : String} {v : Value} (hv : v.isStructured = true)
    (h : Json.parse? t = some v) : extract? t = some v := by
  obtain ⟨_, _, _, _, _, henclosed⟩ := Json.enclosed_of_parseChars? h hv
  have hblanks := extractChars?_blanks (a := []) (b := []) henclosed rfl rfl
  rwa [List.append_nil] at hblanks

/-- A value that lists readable actions lists them for a reader too. -/
theorem Lists.actions_eq {as : List Action} {w : Value} (h : Lists as w)
    (has : ∀ a ∈ as, a.IsReadable) {content : Value} (hcontent : structured? content = some w) :
    actions content = as := by
  have hread : ∀ a ∈ as, (action? ∘ Action.toJson) a = some a := fun a ha =>
    action?_toJson (has a ha)
  rw [actions, hcontent]
  dsimp only
  rw [h.actionEntries_eq, List.filterMap_map, List.filterMap_congr hread, List.filterMap_some]

/-- An array or object is its own structured form. -/
theorem structured?_of_isStructured {v : Value} (h : v.isStructured = true) :
    structured? v = some v := by
  cases v with
  | array items => rfl
  | object members => rfl
  | _ => cases h

/-- **Actions survive being written.**  A list of actions such as replies hold is read back,
whole and in order, from the plan that lists them and from the bare array, and from every text
that spells one of these; the compact text does so if the parameters are legible.  And what is
read as an action, from any value, is a readable action, which its own JSON gives again. -/
theorem actions_written :
    (∀ as : List Action, (∀ a ∈ as, ∃ v, action? v = some a) → ∀ w, Lists as w →
      actions w = as ∧
        (∀ t, Json.parse? t = some w → actions (.string t) = as) ∧
        ((∀ a ∈ as, ∀ p, a.parameters = some p → p.Legible (Json.maxDepth - 3)) →
          actions (.string w.compact) = as)) ∧
      ∀ v a, action? v = some a → a.IsReadable ∧ action? a.toJson = some a := by
  constructor
  · intro as has w hw
    have hreadable : ∀ a ∈ as, a.IsReadable := by
      intro a ha
      obtain ⟨v, hv⟩ := has a ha
      exact isReadable_of_action? hv
    have htext : ∀ t, Json.parse? t = some w → actions (.string t) = as := fun t ht =>
      hw.actions_eq hreadable (extract?_of_parse? hw.isStructured ht)
    refine ⟨hw.actions_eq hreadable (structured?_of_isStructured hw.isStructured), htext, ?_⟩
    intro hlegible
    exact htext w.compact (hw.legible hlegible).parse?_compact
  · intro v a h
    have hreadable := isReadable_of_action? h
    exact ⟨hreadable, action?_toJson hreadable⟩

/-- A call of a tool with one parameter. -/
def callNote : Action :=
  { kind := .tool, name := "note", parameters := some (.object [("page", .number (.int 3))]),
    outputVariable := some "text" }

/-- A call that a reply spells otherwise, and the list of it and a finish. -/
theorem actions_written_note :
    let spelt := Value.object [("Tool", .string " note\n"),
      ("args", .object [("page", .number (.int 3))]), ("output_variable", .string "text")]
    let text := "\x7b\"actions\": [\x7b\"type\": \"tool\", \"name\": \"note\", \"parameters\": " ++
      "\x7b\"page\": 3\x7d, \"output_variable\": \"text\"\x7d, " ++
      "\x7b\"type\": \"finish\", \"name\": \"\"\x7d]\x7d"
    action? spelt = some callNote ∧ action? callNote.toJson = some callNote ∧
      Json.parse? text = some (planOf [callNote, .finish]) ∧
      actions (.string text) = [callNote, .finish] ∧
      actions (.string (planOf [callNote, .finish]).compact) = [callNote, .finish] ∧
      actions (.array [callNote.toJson, Action.finish.toJson]) = [callNote, .finish] := by
  intro spelt text
  have hspelt : action? spelt = some callNote := by decide +kernel
  have hfinish : action? Action.finish.toJson = some .finish := by decide +kernel
  have htext : Json.parse? text = some (planOf [callNote, .finish]) := by decide +kernel
  have hread : ∀ a ∈ [callNote, .finish], ∃ v, action? v = some a := by
    intro a ha
    rcases List.mem_pair.1 ha with rfl | rfl
    · exact ⟨spelt, hspelt⟩
    · exact ⟨_, hfinish⟩
  have hlegible : ∀ a ∈ [callNote, .finish], ∀ p, a.parameters = some p →
      p.Legible (Json.maxDepth - 3) := by
    intro a ha p hp
    rcases List.mem_pair.1 ha with rfl | rfl
    · cases hp
      refine .object (List.pairwise_singleton _ _) fun m hm => ?_
      rw [List.mem_singleton.1 hm]
      exact .number ⟨by decide, by decide⟩
    · cases hp
  obtain ⟨hlists, hagain⟩ := actions_written
  obtain ⟨-, hspells, hcompact⟩ := hlists _ hread _ .plan
  obtain ⟨harray, -⟩ := hlists _ hread _ .array
  exact ⟨hspelt, (hagain spelt callNote hspelt).2, htext, hspells text htext, hcompact hlegible,
    harray⟩

end Reply
end Errand

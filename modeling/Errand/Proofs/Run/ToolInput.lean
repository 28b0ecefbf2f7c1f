/-
# What a tool is handed, and what its contract was checked with

SPEC_FULL.md, section 4.3, on what a tool is handed.

A contract is checked with the trimmed parameters.  They count as JSON if they start
with a bracket or a brace, and otherwise as the text that they are.  A tool is handed
what its parameters spell as they stand, whatever they start with, and the text itself
if they spell nothing.

The two values agree in exactly two cases (`toolInput_eq_iff`), which make up
`SentAsChecked`: parameters that start like an array or an object have no blanks around
them but those of JSON, and others have no blanks around them and spell nothing.  So a
tool that demands a schema is handed a value that meets it wherever its parameters are
sent as checked, whatever schemas mean.  For any other parameters that a contract accepts
there is a dialect in which they meet a schema and what the tool is handed does not.
-/

import Errand.Proofs.Json.Blanks
import Errand.Proofs.Run.Law
import Errand.Schema.Check

namespace Errand

open Json (Value)

/-- The parameters are handed to a tool as the value that its contract is checked
with. -/
inductive SentAsChecked (text : String) : Prop
  | json : looksLikeJson (Text.trim text) = true →
      (Text.leadingBlanks text.toList ++ Text.trailingBlanks text.toList).all Json.isSpace = true →
      SentAsChecked text
  | plain : looksLikeJson (Text.trim text) = false → Text.trim text = text →
      Json.parse? text = none → SentAsChecked text

/-- The contract demands parameters that meet a schema, and this is the validator of the
schema. -/
structure Contract.Demands (dialect : Schema.Dialect) (c : Contract)
    (validator : Schema.Validator) : Prop where
  required : c.requiresParameters = true
  wellFormed : c.inputSchema.bind dialect.validator? = some validator

section Values

variable {text : String} {checked : Value}

/-- What parameters that look like JSON are checked as, they spell when trimmed. -/
theorem parseChars?_of_parameterValue (hl : looksLikeJson (Text.trim text) = true)
    (h : parameterValue (Text.trim text) = .ok checked) :
    Json.parseChars? (Text.trimChars text.toList) = some checked := by
  unfold parameterValue at h
  rw [if_pos hl] at h
  rw [Json.parseChars?, ← Text.toList_trim]
  unfold Json.parse at h
  split at h
  · next hv =>
    cases h
    rw [hv]
    rfl
  · cases h

/-- What looks like JSON and parses is an array or an object. -/
theorem isStructured_of_parameterValue (hl : looksLikeJson (Text.trim text) = true)
    (h : parameterValue (Text.trim text) = .ok checked) : checked.isStructured = true := by
  obtain ⟨r, hr, -⟩ := Json.parseChars?_eq_some.1 (parseChars?_of_parameterValue hl h)
  rw [looksLikeJson, Text.toList_trim] at hl
  cases ht : Text.trimChars text.toList with
  | nil => simp [ht] at hl
  | cons c s =>
    rw [ht] at hr hl
    exact Json.readValue_isStructured (by simpa [or_comm] using hl) hr

/-- What a tool is handed for parameters that look like JSON. -/
theorem toolInput_of_looksLikeJson (hl : looksLikeJson (Text.trim text) = true)
    (h : parameterValue (Text.trim text) = .ok checked) :
    toolInput (some text) =
      if (Text.leadingBlanks text.toList ++ Text.trailingBlanks text.toList).all Json.isSpace = true
      then checked else .string text := by
  have hp := Json.parseChars?_blanks_around (Text.leadingBlanks_blank text.toList)
    (Text.trailingBlanks_blank text.toList) (parseChars?_of_parameterValue hl h)
  rw [Text.blanks_around_trimChars] at hp
  unfold toolInput Json.parse?
  dsimp only
  rw [hp]
  split <;> rfl

/-- Parameters that do not look like JSON are checked as the text that they are. -/
theorem checked_eq_string (hl : looksLikeJson (Text.trim text) = false)
    (h : parameterValue (Text.trim text) = .ok checked) : checked = .string (Text.trim text) := by
  unfold parameterValue at h
  rw [hl] at h
  cases h
  rfl

/-- **When a tool is handed what was checked.** -/
theorem toolInput_eq_iff (h : parameterValue (Text.trim text) = .ok checked) :
    toolInput (some text) = checked ↔ SentAsChecked text := by
  constructor
  · intro heq
    cases hl : looksLikeJson (Text.trim text) with
    | true =>
      have hv := isStructured_of_parameterValue hl h
      rw [toolInput_of_looksLikeJson hl h] at heq
      split at heq
      · next hall => exact .json hl hall
      · subst heq
        cases hv
    | false =>
      obtain rfl := checked_eq_string hl h
      rw [toolInput] at heq
      cases hp : Json.parse? text with
      | none =>
        rw [hp] at heq
        exact .plain hl (Value.string.inj heq).symm hp
      | some v =>
        rw [hp] at heq
        obtain rfl : v = .string (Text.trim text) := heq
        exact absurd (Text.toList_trim text) (Json.parseChars?_ne_trimmed hp)
  · intro hsent
    cases hsent with
    | json hl hall => rw [toolInput_of_looksLikeJson hl h, if_pos hall]
    | plain hl ht hp =>
      rw [checked_eq_string hl h, ht, toolInput, hp]
      rfl

end Values

/-! ### Contracts that demand a schema -/

/-- The dialect in which every schema allows this value and no other. -/
def Schema.Dialect.only (v : Value) : Schema.Dialect where
  validator? _ := some { isValid := fun w => w = v, errors := fun _ => [] }

/-- What a contract that demands a schema accepts. -/
theorem Contract.Demands.check_eq_ok {dialect : Schema.Dialect} {c : Contract}
    {validator : Schema.Validator} (hc : c.Demands dialect validator)
    {parameters : Option String} : c.check dialect parameters = .ok () ↔
      ∃ text checked, parameters = some text ∧ Text.trim text ≠ "" ∧
        parameterValue (Text.trim text) = .ok checked ∧ validator.isValid checked = true := by
  obtain ⟨schema, hschema, hvalidator⟩ := Option.bind_eq_some_iff.1 hc.wellFormed
  unfold Contract.check
  rw [hc.required, hschema]
  cases parameters with
  | none => simp
  | some text =>
    by_cases ht : Text.trim text = ""
    · simp [Text.trimmed?, ht]
    · cases hv : parameterValue (Text.trim text) with
      | error f => simp [Text.trimmed?, ht, hv]
      | ok v =>
        cases hs : validator.isValid v <;>
          simp [Text.trimmed?, ht, hv, checkSchema, hvalidator, hs]

/-- **Parameters that are sent as checked are those of which every schema that they were
accepted by holds,** whatever the schema means. -/
theorem sentAsChecked_iff {text : String} {checked : Value} (ht : Text.trim text ≠ "")
    (h : parameterValue (Text.trim text) = .ok checked) :
    SentAsChecked text ↔
      ∀ (dialect : Schema.Dialect) (c : Contract) (validator : Schema.Validator),
        c.Demands dialect validator → c.check dialect (some text) = .ok () →
          validator.isValid (toolInput (some text)) = true := by
  constructor
  · intro hsent dialect c validator hc hok
    obtain ⟨_, checked', hp, -, hv, hvalid⟩ := hc.check_eq_ok.1 hok
    cases hp
    cases h.symm.trans hv
    rw [(toolInput_eq_iff h).2 hsent]
    exact hvalid
  · intro hall
    have hc : Contract.Demands (.only checked) ⟨"", true, some .null⟩ _ := ⟨rfl, rfl⟩
    have hok := hc.check_eq_ok.2 ⟨text, checked, rfl, ht, h, decide_eq_true rfl⟩
    exact (toolInput_eq_iff h).1 (of_decide_eq_true (hall _ _ _ hc hok))

/-! ### Runs -/

section Runs

variable {σ : Type}

/-- What a step hands the tool that its target resolves to: what parameters spell that
binding gave and the tool's contract accepted. -/
def Hands (s : Setting) (step : Step) (e : Engine σ) (tool : Tool σ)
    (parameters : Option String) (request : Request) : Prop :=
  (e.registry.resolve step.targetName).1 = some (.tool tool) ∧
    BoundFor s tool step.rawParameters e.bindings parameters ∧
    request = .tool tool.name (toolInput parameters)

/-- Every question that a step puts to a tool hands it bound parameters. -/
theorem runStep_hands (s : Setting) (step : Step) (e : Engine σ) :
    ∃ asked, (runStep s step e).2.journal = e.journal ++ asked ∧
      ∀ x ∈ asked, x.request.isTool = true →
        ∃ tool parameters, Hands s step e tool parameters x.request := by
  obtain ⟨asked, hj, hasked⟩ := runStep_asks s step e
  refine ⟨asked, hj, fun x hx ht => ?_⟩
  have hasks := hasked x hx
  generalize x.request = request at ht hasks ⊢
  cases hasks with
  | tool htarget hb => exact ⟨_, _, htarget, hb, rfl⟩
  | generator i htarget => cases ht
  | function htarget hr =>
    rw [Request.role?_eq_none ht] at hr
    cases hr

end Runs

/-! ### A tool under any contract -/

namespace Probe

/-- A tool under a contract. -/
def tool (c : Contract) : Tool Unit where
  name := "tool"
  contract := c
  run _ := fun w => (.answered .empty, w)

/-- The engine that has the tool, and a text bound. -/
def engine (c : Contract) (text : String) : Engine Unit where
  world := ⟨(), 0, false⟩
  registry := ({} : Registry Unit).registerTool (tool c)
  bindings := Bindings.empty.set "x" (.string text)

/-- A setting in which a bound text stands for itself. -/
def setting (dialect : Schema.Dialect) : Setting where
  goal := ""
  dialect
  rules := { contentProperties := [] }

/-- The step that sends the bound text to the tool. -/
def step : Step where
  stepNumber := 1
  targetName := "tool"
  rawParameters := some "\x7bx\x7d"

/-- The step's template is filled with the text. -/
theorem filled_eq (dialect : Schema.Dialect) (c : Contract) (text : String) :
    step.rawParameters.map
        (Placeholder.substitute (setting dialect).rules (engine c text).bindings) =
      some text := by
  have hsegments : Placeholder.segments "\x7bx\x7d" =
      [.slot ['{', 'x', '}'] (some ⟨"x", none, none⟩)] := rfl
  have hplain : Placeholder.looksLikeObject "\x7bx\x7d" = false := rfl
  have hbound : (engine c text).bindings.get? "x" = some (.string text) := Bindings.get?_set_self ..
  have hwhole : Placeholder.primaryContent (setting dialect).rules (.string text) =
      .string text := by
    unfold Placeholder.primaryContent
    split <;> rfl
  have hresolve : Placeholder.resolve? (setting dialect).rules (engine c text).bindings
      ⟨"x", none, none⟩ = some text := by
    rw [Placeholder.resolve?, hbound, Option.bind_some, Placeholder.lookup?, hwhole]
    rfl
  refine congrArg some ?_
  unfold Placeholder.substitute
  rw [hsegments, hplain]
  simp [Placeholder.fillSegment, hresolve]

/-- **Whatever the contract accepts is handed to the tool.** -/
theorem hands {dialect : Schema.Dialect} {c : Contract} {text : String}
    (hc : c.check dialect (some text) = .ok ()) :
    ∃ x ∈ (runStep (setting dialect) step (engine c text)).2.journal,
      Hands (setting dialect) step (engine c text) (tool c) (some text) x.request := by
  have hfilled := filled_eq dialect c text
  have hbind (e : Engine Unit) (he : e.bindings = (engine c text).bindings) :
      bindParameters (setting dialect) (some (tool c)) step.rawParameters step.description e =
        (.ok (.bound (some text)), e) := by
    rw [← hfilled, ← he]
    refine bindParameters_of_ok step.description ?_
    rw [he, hfilled]
    exact hc
  have huntimed : runStepUntimed (setting dialect) step (engine c text) = _ :=
    Run.bind_eq_ok.2 ⟨some (.tool (tool c)), _, rfl, Run.bind_eq_ok.2 ⟨_, _, hbind _ rfl,
      Run.bind_eq_ok.2 ⟨_, _, rfl, rfl⟩⟩⟩
  have hrun : runStep (setting dialect) step (engine c text) = _ :=
    Run.bind_eq_ok.2 ⟨_, _, rfl, Run.bind_eq_ok.2 ⟨_, _, huntimed,
      Run.bind_eq_ok.2 ⟨_, _, rfl, rfl⟩⟩⟩
  rw [hrun]
  exact ⟨⟨.tool "tool" (toolInput (some text)), false, .answered (), false⟩,
    List.mem_singleton.2 rfl, rfl, ⟨hc, .inl hfilled.symm⟩, rfl⟩

end Probe

/-- **What a tool that demands a schema is handed.**  Any question that a step puts to a
tool hands it what its bound parameters spell.  That is a value which meets the schema
if the parameters are sent as checked.  Among the parameters that can be accepted, these
are those whose checked value is the one handed on, and those that no run of a step turns
into a value which does not meet the tool's schema.  What schemas mean is left open. -/
theorem runStep_input_valid (σ : Type) :
    (∀ (s : Setting) (step : Step) (e : Engine σ), ∃ asked,
      (runStep s step e).2.journal = e.journal ++ asked ∧
        ∀ x ∈ asked, x.request.isTool = true → ∃ tool parameters,
          Hands s step e tool parameters x.request ∧
            ∀ validator, tool.contract.Demands s.dialect validator →
              ∃ text, parameters = some text ∧
                (SentAsChecked text → validator.isValid (toolInput parameters) = true)) ∧
    ∀ (dialect : Schema.Dialect) (text : String) (c : Contract) (validator : Schema.Validator),
      c.Demands dialect validator → c.check dialect (some text) = .ok () →
        (SentAsChecked text ↔ parameterValue (Text.trim text) = .ok (toolInput (some text))) ∧
        (SentAsChecked text ↔
          ∀ (s : Setting) (step : Step) (e : Engine Unit) (tool : Tool Unit)
            (validator : Schema.Validator), tool.contract.Demands s.dialect validator →
              ∀ x ∈ (runStep s step e).2.journal, Hands s step e tool (some text) x.request →
                validator.isValid (toolInput (some text)) = true) := by
  refine ⟨fun s step e => ?_, fun dialect text c validator hc hok => ?_⟩
  · obtain ⟨asked, hj, ha⟩ := runStep_hands s step e
    refine ⟨asked, hj, fun x hx ht => ?_⟩
    obtain ⟨tool, parameters, hands⟩ := ha x hx ht
    refine ⟨tool, parameters, hands, fun validator hd => ?_⟩
    obtain ⟨text, checked, rfl, hne, hv, -⟩ := hd.check_eq_ok.1 hands.2.1.checked
    exact ⟨text, rfl, fun hsent => (sentAsChecked_iff hne hv).1 hsent _ _ _ hd hands.2.1.checked⟩
  · obtain ⟨_, checked, ht, hne, hv, -⟩ := hc.check_eq_ok.1 hok
    cases ht
    refine ⟨?_, fun hsent _ _ _ _ _ hd _ _ hands => ?_, fun hall => ?_⟩
    · rw [← toolInput_eq_iff hv, hv, eq_comm]
      exact ⟨congrArg Except.ok, Except.ok.inj⟩
    · exact (sentAsChecked_iff hne hv).1 hsent _ _ _ hd hands.2.1.checked
    · refine (sentAsChecked_iff hne hv).2 fun dialect c validator hd hok => ?_
      obtain ⟨x, hx, hands⟩ := Probe.hands hok
      exact hall _ _ _ _ validator hd x hx hands

namespace Probe

/-- The schema of texts. -/
def textSchema : Value := .object [("type", .string "string")]

/-- A contract that demands a text. -/
def textContract : Contract := { requiresParameters := true, inputSchema := some textSchema }

/-- What the common keywords make of the schema of texts. -/
def textValidator : Schema.Validator where
  isValid := Schema.isValid textSchema
  errors v := (Schema.violations textSchema v).map Schema.Violation.message

theorem textContract_demands : textContract.Demands .common textValidator := ⟨rfl, rfl⟩

end Probe

open Probe

/-- The hypotheses of `runStep_input_valid` are satisfiable: a word is a text, and is sent
as checked. -/
theorem runStep_input_valid_word :
    textContract.Demands .common textValidator ∧
      textContract.check .common (some "hi") = .ok () ∧
        SentAsChecked "hi" ∧ parameterValue (Text.trim "hi") = .ok (toolInput (some "hi")) := by
  have hok : textContract.check .common (some "hi") = .ok () := rfl
  have hsent : SentAsChecked "hi" := .plain rfl rfl rfl
  have h := (runStep_input_valid Unit).2 .common "hi" textContract _ textContract_demands hok
  exact ⟨textContract_demands, hok, hsent, h.1.1 hsent⟩

/-- Digits are accepted as a text and handed to the tool as a number. -/
theorem runStep_input_not_valid_digits :
    textContract.Demands .common textValidator ∧
      ∃ x ∈ (runStep { goal := "", dialect := .common }
          { stepNumber := 1, targetName := "tool", rawParameters := some "42" }
          (engine textContract "")).2.journal,
        x.request = .tool "tool" (.number (.int 42)) ∧
          textValidator.isValid (.number (.int 42)) = false :=
  ⟨textContract_demands, ⟨.tool "tool" (.number (.int 42)), false, .answered (), false⟩,
    List.mem_singleton.2 rfl, rfl, rfl⟩

end Errand

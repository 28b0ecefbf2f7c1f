/-
# Plans that are written

SPEC_FULL.md, section 3 (Plan, Step), on the JSON they are read from.

A plan is written as an object, and each of its steps as one: every key under any of its
spellings, the members in any order (`Plan.Written`).  A step may be given its parameters inline,
as any value.  What the step keeps of them is the text of their template, from which a value
that is neither null nor a text is read back (`KeepsParameters`).

However it is written, the plan is read, from a value and from text alike: the layouts read what
is written from any faithful source (`Plan.layout_reads`).  The JSON that a plan is turned into
is one way of writing it (`Plan.written_toJson`).  So a plan is read back from its JSON, and from
any respelling of that (`Plan.readsBack`).
-/

import Errand.Proofs.Json.WrittenText
import Errand.Proofs.Step

namespace Errand

open Json (FromText FromValue Literal Members Source SpellsText Tree Value)

/-! ### Ways of writing a plan -/

/-- An object that has each of the values, in any order, under one of the spellings of its
key. -/
def Json.Value.HasUnder (w : Value) (spellings : List (List String)) (vs : List Value) : Prop :=
  ∃ keys ms, List.Forall₂ (· ∈ ·) keys spellings ∧ List.Perm ms (keys.zip vs) ∧ w = .object ms

/-- The spellings of the keys of a step. -/
def Step.spellings : List (List String) :=
  [["stepNumber", "step_number"], ["description"], ["targetName", "target_name", "target", "tool"],
    Step.parameterFields, ["outputVariable", "output_variable"]]

/-- The spellings of the keys of a plan. -/
def Plan.spellings : List (List String) :=
  [["isExecutable", "is_executable"], ["executionBlocker", "execution_blocker"], ["summary"],
    ["steps"]]

/-- The step as it is written, its parameters given as a value of which it keeps the template.
What values may be given is left open. -/
def Step.Written (inline : Value → Prop) (s : Step) (w : Value) : Prop :=
  ∃ parameters, inline parameters ∧ templateOf parameters = s.rawParameters ∧
    w.HasUnder Step.spellings [.ofNat s.stepNumber, .string s.description, .string s.targetName,
      parameters, .ofOption .string s.outputVariable]

/-- The plan as it is written. -/
def Plan.Written (inline : Value → Prop) (p : Plan) (w : Value) : Prop :=
  ∃ steps, List.Forall₂ (Step.Written inline) p.steps steps ∧
    w.HasUnder Plan.spellings [.bool p.isExecutable, .ofOption .string p.executionBlocker,
      .ofOption .string p.summary, .array steps]

/-- The steps are numbered with 32 bits. -/
def Plan.IsNumbered (p : Plan) : Prop := ∀ s ∈ p.steps, s.stepNumber < Nat.pow 2 32

/-! ### What is written is read -/

section Reading

variable {D : Type → Type} {src : Source D} {reads : Nat → {β : Type} → D β → Value → β → Prop}
  {admits : Nat → Value → Prop}

/-- **A step is read as it is written,** from any source. -/
theorem Step.layout_reads (h : src.IsFaithful reads admits) {depth : Nat} {s : Step} {w : Value}
    (hnumber : s.stepNumber < Nat.pow 2 32) (hw : s.Written (admits depth) w) :
    reads (depth + 1) (Step.layout src) w s := by
  obtain ⟨stepNumber, description, targetName, rawParameters, outputVariable⟩ := s
  obtain ⟨parameters, hinline, rfl, keys, ms, hkeys, hperm, rfl⟩ := hw
  obtain _ | ⟨hn, _ | ⟨hd, _ | ⟨ht, _ | ⟨hp, _ | ⟨ho, _ | _⟩⟩⟩⟩⟩ := hkeys
  refine h.map _ (h.record (c := (_, _, _, _, _, ())) "Step" ?_ ?_ hperm)
  · show List.Nodup ["stepNumber", "step_number", "description", "targetName", "target_name",
      "target", "tool", "rawParameters", "raw_parameters", "parameters", "outputVariable",
      "output_variable"]
    decide
  · exact .given hn (h.natural "u32" hnumber) (.given hd (h.text _)
      (.given ht (h.text _) (.given hp (h.map _ (h.any hinline))
        (.given ho (h.optionalText _) .nil))))

/-- **A plan is read as it is written,** from any source. -/
theorem Plan.layout_reads (h : src.IsFaithful reads admits) {depth : Nat} {p : Plan} {w : Value}
    (hp : p.IsNumbered) (hw : p.Written (admits depth) w) :
    reads (depth + 3) (Plan.layout src) w p := by
  obtain ⟨isExecutable, executionBlocker, summary, steps⟩ := p
  obtain ⟨ws, hsteps, keys, ms, hkeys, hperm, rfl⟩ := hw
  obtain _ | ⟨he, _ | ⟨hb, _ | ⟨hm, _ | ⟨ht, _ | _⟩⟩⟩⟩ := hkeys
  have hread : List.Forall₂ (reads (depth + 1) (Step.layout src)) ws steps :=
    ((List.forall₂_and_left _ _).2 ⟨hp, hsteps⟩).flip.imp fun _ _ hs =>
      Step.layout_reads h hs.1 hs.2
  refine h.map _ (h.record (c := (_, _, _, _, ())) "Plan" ?_ ?_ hperm)
  · show List.Nodup ["isExecutable", "is_executable", "executionBlocker", "execution_blocker",
      "summary", "steps"]
    decide
  · exact .given he (h.bool _) (.given hb (h.optionalText _) (.given hm (h.optionalText _)
      (.given ht (h.list hread) .nil)))

end Reading

/-- A plan nests three levels: its own, that of its steps, and that of each step. -/
abbrev Plan.inlineDepth : Nat := Json.maxDepth - 3

section Written

variable {inline inline' : Value → Prop} {p : Plan} {w : Value}

theorem Plan.Written.mono (h : p.Written inline w) (hinline : ∀ v, inline v → inline' v) :
    p.Written inline' w := by
  obtain ⟨steps, hsteps, hw⟩ := h
  refine ⟨steps, hsteps.imp ?_, hw⟩
  rintro s w ⟨parameters, hparameters, hs⟩
  exact ⟨parameters, hinline _ hparameters, hs⟩

/-- A plan is read from a value that it is written as. -/
theorem Plan.Written.ofJson (h : p.Written inline w) (hp : p.IsNumbered) : Plan.ofJson w = .ok p :=
  @Plan.layout_reads _ _ _ _ Source.value_isFaithful 0 p w hp (h.mono fun _ _ => trivial)

/-- A plan is read from a text that spells it. -/
theorem Plan.Written.ofText (h : p.Written (·.Legible Plan.inlineDepth) w) (hp : p.IsNumbered)
    {text : String} (htext : SpellsText Literal text.toList (Tree.ofValue String.toList w)) :
    Plan.ofText text = .ok p := by
  have hread : FromText.Reads Json.maxDepth (Plan.layout Source.document) w p :=
    Plan.layout_reads Source.document_isFaithful hp h
  rw [Plan.ofText]
  generalize text.toList = chars at htext
  obtain ⟨hpad, htrail, hw⟩ := htext
  have hstops : Json.Stops _ := (Json.Bars.of_blanks htrail).stops
  rw [Json.readWhole, hread hpad hw hstops]
  dsimp only
  rw [Json.skipSpace, List.dropWhile_eq_nil_iff.2 (List.all_eq_true.1 htrail)]

/-- A value can be written if what it has under its names can. -/
theorem Json.Value.HasUnder.writable {spellings : List (List String)} {vs : List Value}
    {depth : Nat} (h : w.HasUnder spellings vs) (hvs : ∀ v ∈ vs, v.Writable depth) :
    w.Writable (depth + 1) := by
  obtain ⟨keys, ms, -, hperm, rfl⟩ := h
  exact .object fun m hm => hvs _ (List.of_mem_zip (hperm.mem_iff.1 hm)).2

/-- An optional text can be written. -/
theorem Json.writable_ofOption (s? : Option String) {depth : Nat} :
    (Value.ofOption .string s?).Writable depth := by
  cases s? with
  | none => exact .null
  | some s => exact .string

/-- A written step can be written as a text, -/
theorem Step.Written.writable {s : Step} {depth : Nat} (h : s.Written (·.Legible depth) w)
    (hnumber : s.stepNumber < Nat.pow 2 32) : w.Writable (depth + 1) := by
  obtain ⟨parameters, hinline, -, hw⟩ := h
  refine hw.writable fun v hv => ?_
  simp only [List.mem_cons, List.not_mem_nil, or_false] at hv
  rcases hv with rfl | rfl | rfl | rfl | rfl
  · have hpow : Nat.pow 2 32 = 4294967296 ∧ Nat.pow 2 64 = 18446744073709551616 := by decide
    exact .number ⟨by omega, by omega⟩
  · exact .string
  · exact .string
  · exact hinline.writable
  · exact Json.writable_ofOption _

/-- What a plan is written as can be written out. -/
theorem Plan.Written.writable (h : p.Written (·.Legible Plan.inlineDepth) w)
    (hp : p.IsNumbered) : w.Writable Json.maxDepth := by
  obtain ⟨steps, hsteps, hw⟩ := h
  show w.Writable (Plan.inlineDepth + 2 + 1)
  refine hw.writable fun v hv => ?_
  simp only [List.mem_cons, List.not_mem_nil, or_false] at hv
  rcases hv with rfl | rfl | rfl | rfl
  · exact .bool
  · exact Json.writable_ofOption _
  · exact Json.writable_ofOption _
  · have hall := ((List.forall₂_and_left _ _).2 ⟨hp, hsteps⟩).flip.imp fun v s hs =>
      And.intro (hs.2.writable hs.1) trivial
    exact .array ((List.forall₂_and_left _ _).1 hall).1

/-! ### The JSON that a plan is turned into -/

/-- An object made from pairs has the values of the pairs under their keys. -/
theorem Json.hasUnder_ofPairs (pairs : List (String × Value)) {spellings : List (List String)}
    (hapart : (pairs.map (·.1)).Nodup) (hkeys : List.Forall₂ (· ∈ ·) (pairs.map (·.1)) spellings) :
    (Value.ofPairs pairs).HasUnder spellings (pairs.map (·.2)) := by
  refine ⟨_, _, hkeys, ?_, rfl⟩
  rw [List.zip_map', List.map_id']
  exact Members.ofList_perm hapart

/-- and the JSON of a step is a spelling of it. -/
theorem Step.written_toJson (hinline : ∀ r : Option String, inline (.ofOption .string r))
    (s : Step) : s.Written inline s.toJson := by
  refine ⟨.ofOption .string s.rawParameters, hinline _, ?_, Json.hasUnder_ofPairs
    [("stepNumber", _), ("description", _), ("targetName", _), ("rawParameters", _),
      ("outputVariable", _)] ?_ ?_⟩
  · cases s.rawParameters <;> rfl
  · simp
  · simp [Step.spellings, Step.parameterFields]

/-- **The JSON that a plan is turned into** is one way of writing it. -/
theorem Plan.written_toJson (hinline : ∀ r : Option String, inline (.ofOption .string r))
    (p : Plan) : p.Written inline p.toJson := by
  refine ⟨p.steps.map Step.toJson, ?_, Json.hasUnder_ofPairs
    [("isExecutable", _), ("executionBlocker", _), ("summary", _), ("steps", _)] ?_ ?_⟩
  · rw [List.forall₂_map_right_iff]
    exact List.forall₂_same.2 fun s _ => Step.written_toJson hinline s
  · simp
  · simp [Plan.spellings]

end Written

/-! ### Parameters given inline -/

/-- What a step keeps of parameters that it is given as a value. -/
structure KeepsParameters (v : Value) (raw : Option String) : Prop where
  null : v = .null → raw = none
  text : ∀ s, v = .string s → raw = some s
  /-- Of any other value it keeps a text from which the value is read, if it can be read from its
  compact form at all. -/
  json : v ≠ .null → v.text? = none → ∃ text, raw = some text ∧
    (Json.parse? text = some v ↔ v.Legible Json.maxDepth)

/-- A template keeps the parameters that it was made of. -/
theorem keepsParameters_templateOf (v : Value) : KeepsParameters v (templateOf v) where
  null hv := by rw [hv, templateOf]
  text s hv := by
    subst hv
    rfl
  json hnull htext := by
    refine ⟨v.compact, ?_, Value.parse?_compact_iff⟩
    rw [templateOf, Value.render_eq_compact htext]
    exact hnull

/-! ### Reading back -/

/-- The plan is read back, from its own JSON and from whatever else it may be written as. -/
structure Plan.ReadsBack (p : Plan) : Prop where
  own : Plan.ofJson p.toJson = .ok p
  /-- Its own JSON is one way of writing it, and it is read from any, -/
  own_written : p.Written (·.Legible Plan.inlineDepth) p.toJson
  value : ∀ {w : Value}, p.Written (fun _ => True) w → Plan.ofJson w = .ok p
  /-- from text as well: from any that spells what is written, -/
  text : ∀ {w : Value} {text : String}, p.Written (·.Legible Plan.inlineDepth) w →
    SpellsText Literal text.toList (Tree.ofValue String.toList w) → Plan.ofText text = .ok p
  /-- such as its compact and its pretty form. -/
  forms : ∀ {w : Value}, p.Written (·.Legible Plan.inlineDepth) w →
    Plan.ofText w.compact = .ok p ∧ Plan.ofText w.pretty = .ok p

/-- **Every plan is read back** from the JSON that it is turned into, and so it is whichever
spelling each key is given, in whatever order the members stand.  Of parameters that are given
inline every step that is read keeps what it should. -/
theorem Plan.readsBack : (∀ p : Plan, p.IsNumbered → p.ReadsBack) ∧
    ∀ (v : Value) (step : Step), step.Carries v → KeepsParameters v step.rawParameters := by
  constructor
  · intro p hp
    have hown : p.Written (·.Legible Plan.inlineDepth) p.toJson := by
      refine Plan.written_toJson (fun r => ?_) p
      cases r with
      | none => exact .null
      | some s => exact .string
    refine ⟨hown.ofJson hp, hown, fun hw => hw.ofJson hp, fun hw => hw.ofText hp, fun hw => ?_⟩
    have hforms {chars : List Char} (hchars : SpellsText Literal chars _) :
        Plan.ofText (String.ofList chars) = .ok p :=
      hw.ofText hp (by rwa [String.toList_ofList])
    exact ⟨hforms (Json.compact_isForm.spellsText (hw.writable hp) 0),
      hforms (Json.pretty_isForm.spellsText (hw.writable hp) 0)⟩
  · intro v step hcarries
    rw [hcarries.rawParameters_eq]
    exact keepsParameters_templateOf v

namespace Excerpt

/-- Parameters that name a file. -/
def path : Value := .object [("path", .string "a.txt")]

/-- A step that reads the file. -/
def step : Step where
  stepNumber := 1
  targetName := "read"
  rawParameters := some "\x7b\"path\":\"a.txt\"\x7d"

/-- The step as it may be written, its parameters inline. -/
def stepJson : Value := .object [("tool", .string "read"), ("step_number", .ofNat 1),
  ("parameters", path), ("description", .string ""), ("output_variable", .null)]

/-- The plan that is this step, as it may be written. -/
def planJson : Value := .object [("steps", .array [stepJson]), ("is_executable", .bool true),
  ("summary", .null), ("execution_blocker", .null)]

theorem path_legible (depth : Nat) : path.Legible (depth + 1) :=
  .object (List.pairwise_singleton _ _) (by simp [Value.Legible.string])

/-- The excerpt spells the plan. -/
theorem planJson_written :
    (Plan.executable [step]).Written (·.Legible Plan.inlineDepth) planJson := by
  refine ⟨[stepJson], .cons ⟨path, path_legible _, by decide +kernel, ?_⟩ .nil, ?_⟩
  · exact ⟨["step_number", "description", "tool", "parameters", "output_variable"], _,
      by simp [Step.spellings, Step.parameterFields], by decide +kernel, rfl⟩
  · exact ⟨["is_executable", "execution_blocker", "summary", "steps"], _,
      by simp [Plan.spellings], by decide +kernel, rfl⟩

end Excerpt

open Excerpt

/-- The hypotheses of `Plan.readsBack` are satisfiable: a plan is read from a respelling with
parameters inline, and these are read back from what its step keeps. -/
theorem Plan.readsBack_excerpt : (Plan.executable [step]).IsNumbered ∧
    (Plan.executable [step]).Written (·.Legible Plan.inlineDepth) planJson ∧
      Plan.ofText planJson.compact = .ok (.executable [step]) ∧ step.Carries path ∧
        ∃ text, step.rawParameters = some text ∧ Json.parse? text = some path := by
  have hnumbered : (Plan.executable [step]).IsNumbered := by
    rw [Plan.IsNumbered]
    decide
  have hcarries : step.Carries path := .decoded (w := stepJson) (by rfl) (by rfl)
  obtain ⟨hplans, hsteps⟩ := Plan.readsBack
  obtain ⟨text, htext, hread⟩ := (hsteps path step hcarries).json nofun rfl
  exact ⟨hnumbered, planJson_written, ((hplans _ hnumbered).forms planJson_written).1, hcarries,
    text, htext, hread.2 (path_legible _)⟩

end Errand

/-
# What a model's reply says

SPEC_FULL.md, section 2, item 10 (Tolerant model-output parsing).

A model's reply is text, perhaps with JSON in it: bare, between fences of three
backticks, or in the midst of prose.  Keys vary in case and spelling, and
sometimes nothing can be read at all.  Reading a reply never fails; it comes down
to none, an empty list, or a finish.
-/

import Errand.Action
import Errand.Placeholder
import Errand.Text.Search

namespace Errand
namespace Reply

open Json (Value Members)

/-! ### The JSON of a reply -/

/-- Three backticks. -/
def fence : List Char := [Char.ofNat 0x60, Char.ofNat 0x60, Char.ofNat 0x60]

/-- The characters of the word that may follow an opening fence. -/
def isTagChar (c : Char) : Bool := c.isAlphanum || c == '_' || c == '-'

/-- The texts between an opening fence, with its tag and the blanks after it, and
the next fence, at most `fuel` of them. -/
def fencedFrom : (fuel : Nat) → List Char → List (List Char)
  | 0, _ => []
  | fuel + 1, s =>
    match Text.cut? fence s with
    | none => []
    | some (_, r) =>
      match Text.cut? fence ((r.dropWhile isTagChar).dropWhile Text.isBlank) with
      | none => []
      | some (body, t) => body :: fencedFrom fuel t

/-- The fenced texts of a text, in order. -/
def fenced (s : List Char) : List (List Char) := fencedFrom s.length s

/-- The part of a text from the first `opening` to the last `closing`, if that
comes later. -/
def span? (opening closing : Char) (s : List Char) : Option (List Char) :=
  match s.dropWhile (· ≠ opening) with
  | [] => none
  | c :: r =>
    match r.reverse.dropWhile (· ≠ closing) with
    | [] => none
    | t => some (c :: t.reverse)

/-- The outermost braces of a text, or else the outermost brackets. -/
def outermost? (s : List Char) : Option (List Char) :=
  (span? '{' '}' s).or (span? '[' ']' s)

/-- The JSON of a trimmed text: the whole of it if it is an object or an array,
else the first fenced text that is JSON, else its outermost braces or
brackets. -/
def extractChars? (s : List Char) : Option Value :=
  match s with
  | [] => none
  | s =>
    match (Json.parseChars? s).filter Value.isStructured with
    | some v => some v
    | none =>
      match (fenced s).findSome? fun t => Json.parseChars? (Text.trimChars t) with
      | some v => some v
      | none => (outermost? s).bind Json.parseChars?

/-- The JSON of a reply. -/
def extract? (text : String) : Option Value := extractChars? (Text.trimChars text.toList)

/-- A result as structured JSON: arrays and objects as they are, texts searched
for JSON. -/
def structured? : Value → Option Value
  | .array vs => some (.array vs)
  | .object ms => some (.object ms)
  | .string s => extract? s
  | _ => none

/-- The member of an object under the first of several names it has, each
exactly or ignoring the case of ASCII letters. -/
def field? (names : List String) (ms : Members) : Option Value :=
  names.findSome? fun n => Members.findIgnoringCase? n ms

/-! ### Actions -/

/-- The spellings of an action's name. -/
def nameFields : List String := ["name", "tool", "target", "targetName", "function"]

/-- The spellings of an action's kind. -/
def kindFields : List String := ["type", "actionType", "action_type", "kind"]

/-- The spellings of an action's parameters. -/
def parameterFields : List String := ["parameters", "params", "arguments", "args", "input"]

/-- The spellings of an action's output variable. -/
def variableFields : List String := ["outputVariable", "output_variable"]

/-- The trimmed name of an action; empty if it has none. -/
def actionName (ms : Members) : String :=
  ((field? nameFields ms).bind Value.text?).elim "" Text.trim

/-- The kind of an action.  One that gives no kind is a tool call if it has a
name. -/
def actionKind? (ms : Members) : Option ActionKind :=
  match field? kindFields ms with
  | some (.string t) => ActionKind.ofWord? t
  | some _ => none
  | none => if (actionName ms).isEmpty then none else some .tool

/-- The action that a value describes. -/
def action? : Value → Option Action
  | .object ms =>
    match actionKind? ms with
    | none => none
    | some kind =>
      if kind ≠ .finish ∧ (actionName ms).isEmpty then none
      else some
        { kind
          name := actionName ms
          parameters := (field? parameterFields ms).filter (· ≠ .null)
          outputVariable := (field? variableFields ms).bind Value.text? }
  | _ => none

/-- The values that a plan lists as actions: an array's items, the items under
one of the usual names, or the object itself when it has no such name. -/
def actionEntries : Value → List Value
  | .array vs => vs
  | .object ms =>
    match field? ["actions", "steps", "plan"] ms with
    | some (.array vs) => vs
    | some _ => []
    | none => [.object ms]
  | _ => []

/-- The actions of a planning reply; what is no action is passed over. -/
def actions (content : Value) : List Action :=
  match structured? content with
  | none => []
  | some v => (actionEntries v).filterMap action?

/-! ### Decisions -/

/-- What a model decides to do next. -/
inductive Decision where
  | act (action : Action)
  /-- `explicit` is false when no decision could be read. -/
  | finish (answer : Option String) (explicit : Bool)
deriving DecidableEq

/-- The answer that an object gives. -/
def answer? : Value → Option String
  | .object ms =>
    ((field? ["answer", "finalAnswer", "final_answer", "result"] ms).bind Value.text?).bind
      Text.trimmed?
  | _ => none

/-- The value that holds the action of a decision: an object under one of the
usual names, or the whole. -/
def decisionAction (v : Value) : Value :=
  match v.members?.bind (field? ["action", "decision"]) with
  | some (.object ms) => .object ms
  | _ => v

/-- The next move that a reply decides on.  Whatever is unusable means to
finish. -/
def decision (content : Value) : Decision :=
  match structured? content with
  | none => .finish none false
  | some v =>
    let answer := (answer? v).or (answer? (decisionAction v))
    match action? (decisionAction v) with
    | some a => if a.kind = .finish then .finish answer true else .act a
    | none => .finish answer false

/-! ### Verdicts -/

/-- The first run of ASCII letters and digits. -/
def firstWord (s : List Char) : List Char :=
  (s.dropWhile fun c => !c.isAlphanum).takeWhile Char.isAlphanum

/-- The words that say yes, and those that say no. -/
def verdictWords : List (String × Bool) :=
  [("true", true), ("yes", true), ("complete", true), ("completed", true), ("done", true),
    ("false", false), ("no", false), ("incomplete", false), ("not", false)]

/-- The verdict of a text is that of its first word. -/
def wordVerdict? (text : String) : Option Bool :=
  (verdictWords.find? (·.1.toList == (firstWord text.toList).map Char.toLower)).map (·.2)

/-- The verdict that a field's value gives. -/
def fieldVerdict? : Value → Option Bool
  | .bool b => some b
  | .string s => wordVerdict? s
  | _ => none

/-- The spellings of the field that holds a verdict. -/
def verdictFields : List String :=
  ["isComplete", "is_complete", "complete", "goalAchieved", "goal_achieved", "achieved", "done"]

/-- Whether a checker's reply says that the goal is reached, if it can be
read. -/
def verdict? (content : Value) : Option Bool :=
  match content with
  | .bool b => some b
  | _ =>
    match structured? content with
    | some (.object ms) => (field? verdictFields ms).bind fieldVerdict?
    | some _ => none
    | none => content.text?.bind wordVerdict?

/-! ### Success indicators -/

/-- What a structured result says about its own success. -/
structure Indicator where
  flag : Bool
  error : Option String
deriving DecidableEq

/-- The indicator that a structured result carries. -/
def indicator? : Value → Option Indicator
  | .object ms => do
    let flag ← (field? ["isSuccess", "is_success", "success"] ms).bind Value.bool?
    let error := ((field? ["errorMessage", "error_message", "error"] ms).bind Value.text?).filter
      (!Text.isBlankText ·)
    some ⟨flag, error⟩
  | _ => none

end Reply
end Errand

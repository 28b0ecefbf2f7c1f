/-
# Running one step

SPEC_FULL.md, section 4.3 (Step Executors).

A step's target is resolved, its parameters are bound, and the target is called:
a tool with the value its parameters spell, a function with an invocation made of
the ambient and the bound parameters.  Whatever fails, the step comes back as an
unsuccessful result that says so.
-/

import Errand.Run.Bind

namespace Errand

open Json (Value Members)

/-- What a tool is handed: the value that the parameters spell, else their text,
and null if there are none. -/
def toolInput : Option String → Value
  | none => .null
  | some t => (Json.parse? t).getD (.string t)

/-- Add members to others, instead of those under the same keys. -/
def overlay (ms : Members) : Members → Members
  | [] => ms
  | (k, v) :: r => overlay (ms.insert k v) r

/-- What a function is handed: the ambient parameters with the bound ones on top.
Bound parameters that are no object go under `input`. -/
def stepInvocation (s : Setting) (step : Step) (parameters : Option String) : Invocation :=
  let merged := match toolInput parameters with
    | .null => s.ambient
    | .object ms => overlay s.ambient ms
    | v => s.ambient.insert "input" v
  let i : Invocation := { goal := s.goal, parameters := merged }
  if Text.isBlankText step.description then i else i.withAuxiliary "step" step.description

/-- The result of a step whose tool gave an output. -/
def resultOfTool (step : Step) (o : ToolOutput) : StepResult :=
  { StepResult.success step (o.data.map Value.render) with
    isSuccess := o.isSuccess
    errorMessage := o.errorMessage }

/-- The result of a step whose function gave an output.  A structured result that
tells of its own success has the last word. -/
def resultOfFunction (step : Step) (o : FunctionOutput) : StepResult :=
  let text := match o.parsed with
    | some v => some v.render
    | none => o.rawResponse
  let result := StepResult.success step text
  match o.parsed.bind Reply.indicator? with
  | some i => { result with isSuccess := i.flag, errorMessage := i.error.or o.errorMessage }
  | none => { result with isSuccess := o.isSuccess, errorMessage := o.errorMessage }

variable {σ : Type}

/-- Run a tool. -/
def runTool (step : Step) (parameters : Option String) (tool : Tool σ) : Run σ StepResult := do
  let input := toolInput parameters
  match ← Run.ask (.tool tool.name input) (tool.run input) with
  | .ok o => return resultOfTool step o
  | .error f => return .failure step ("tool " ++ tool.name ++ " failed: " ++ f.text)

/-- That no chunk is left, as a stream says it. -/
def noChunkLeft : Ask σ Unit := fun w => (.answered (), w)

/-- Read a stream to its end, sending every piece of text on.  `raw` holds the
text so far and `parsed` the structured result of the last final chunk.  That the
stream has ended is read like a chunk. -/
def readChunks (step : Step) (role : Role) :
    ChunkFeed σ → (raw : String) → (parsed : Option Value) → Run σ FunctionOutput
  | .done, raw, parsed => do
    let _ ← Run.ask (.nextChunk role) noChunkLeft
    return ⟨true, parsed, some raw, none⟩
  | .item read rest, raw, parsed => do
    match ← Run.ask (.nextChunk role) read with
    | .error f => return .failure ("stream failed: " ++ f.text)
    | .ok c =>
      if !c.text.isEmpty then Run.send (.chunk step.stepNumber c.text)
      readChunks step role (rest (.answered c)) (raw ++ c.text)
        (if c.isFinal then c.parsed else parsed)

/-- Call a function and read its reply piece by piece. -/
def streamFunction (step : Step) (f : ModelFunction σ) (i : Invocation) :
    Run σ FunctionOutput := do
  match ← Run.ask (.openStream f.role i) (f.openStream i) with
  | .error e => return .failure e.text
  | .ok feed => readChunks step f.role feed "" none

/-- Call a function for its whole reply. -/
def executeFunction (f : ModelFunction σ) (i : Invocation) : Run σ FunctionOutput := do
  match ← Run.ask (.execute f.role i) (f.execute i) with
  | .ok o => return o
  | .error e => return .failure (f.role.name ++ " failed: " ++ e.text)

/-- Run a function, piece by piece if it streams and the observer wants that. -/
def runFunction (s : Setting) (step : Step) (parameters : Option String)
    (f : ModelFunction σ) : Run σ StepResult := do
  let i := stepInvocation s step parameters
  let o ← if f.streams && s.wantsChunks then streamFunction step f i else executeFunction f i
  return resultOfFunction step o

/-- Run the target of a step. -/
def runTarget (s : Setting) (step : Step) (parameters : Option String) :
    Target σ → Run σ StepResult
  | .tool t => runTool step parameters t
  | .function f => runFunction s step parameters f

/-- Run a step: the result that counts, its time yet to be taken. -/
def runStepUntimed (s : Setting) (step : Step) : Run σ StepResult := do
  match ← Run.resolve step.targetName with
  | none => return .failure step ("target not found: " ++ step.targetName)
  | some target =>
    match ← bindParameters s target.tool? step.rawParameters step.description with
    | .failed e => return .failure step e
    | .bound parameters =>
      let r ← runTarget s step parameters target
      return { r with boundParameters := parameters }

/-- Run a step and take its time. -/
def runStep (s : Setting) (step : Step) : Run σ StepResult := do
  let started ← Run.now
  let r ← runStepUntimed s step
  let ended ← Run.now
  return { r with executionTimeMs := elapsedMillis started ended }

end Errand

/-
# The prompts of the roles

SPEC_FULL.md, section 11.1, on the templates of the roles.

Every role's prompt opens with its contract, which says what the function has to do
and in what form it replies, and the goal.  Then comes the material of the role.
-/

import Errand.Prompt.Budget
import Errand.Prompt.Template

namespace Errand
namespace Prompt

/-- Lines of text. -/
def textLines (ls : List String) : Piece := .text (String.intercalate "\n" ls)

/-- The part that states a role's contract. -/
def contractPart (heading : String) (body : List Piece) : Part :=
  .fixed "contract" (heading ++ " Contract") body

/-- The part that states the goal. -/
def goalPart : Part := .fixed "goal" "Goal" [.slot .goal]

/-- The part that lists the targets. -/
def toolsPart : Part :=
  .given "tools" "Available Targets" (.auxiliary "tools")
    [.text "Name only these targets.\n\n", .slot (.auxiliary "tools")]

/-- The part that tells what was done so far. -/
def historyPart (heading : String) : Part := .droppable "history" heading (.auxiliary "history")

/-- The part that shows the parameters. -/
def parametersPart (heading : String) : Part := .droppable "parameters" heading .parameters

/-- The prompt of the planner. -/
def plannerTemplate : Template :=
  [contractPart "Planner" [textLines
      ["You plan the next batch of actions that move the goal forward.",
        "Reply with JSON only, shaped as:",
        "",
        "```json",
        "\x7b\"actions\": [\x7b\"type\": \"tool\", \"name\": \"ToolName\", " ++
          "\"parameters\": \x7b\x7d, " ++
          "\"outputVariable\": \"optional\"\x7d]\x7d",
        "```",
        "",
        "- `type` is `tool`, `function` or `finish`.",
        "- Use `finish` alone once the goal is achieved.",
        "- Parameters may reference earlier outputs as `\x7bvariable\x7d`, " ++
          "`\x7bvariable.property\x7d` or `\x7bvariable[0]\x7d`."]],
    goalPart,
    toolsPart,
    .given "iteration" "Iteration" (.parameter "iteration")
      [.text "This is iteration ", .slot (.parameter "iteration"), .text "."],
    historyPart "History",
    parametersPart "Parameters"]

/-- The prompt of the action planner. -/
def actionPlannerTemplate : Template :=
  [contractPart "Action Planner" [textLines
      ["Choose exactly one next action. Reply with JSON only:",
        "",
        "```json",
        "\x7b\"type\": \"tool\", \"name\": \"ToolName\", \"parameters\": \x7b\x7d, " ++
          "\"outputVariable\": \"optional\"\x7d",
        "```",
        "",
        "Reply `\x7b\"type\": \"finish\", \"answer\": \"...\"\x7d` " ++
          "when no further action is needed."]],
    goalPart,
    toolsPart,
    .given "thought" "Current Thought" (.auxiliary "thought") [.slot (.auxiliary "thought")],
    historyPart "Previous Cycles",
    parametersPart "Parameters"]

/-- The prompt of the reasoner. -/
def reasonerTemplate : Template :=
  [contractPart "Reasoner" [textLines
      ["Think about what to do next toward the goal. Reply with a short paragraph,",
        "or JSON shaped as `\x7b\"thought\": \"...\"\x7d`."]],
    goalPart,
    historyPart "Previous Cycles",
    parametersPart "Parameters"]

/-- The prompt of the completion checker. -/
def completionCheckerTemplate : Template :=
  [contractPart "Completion Checker" [textLines
      ["Decide whether the goal has been achieved by the work so far.",
        "Reply with JSON only: `\x7b\"isComplete\": true, \"reason\": \"...\"\x7d`."]],
    goalPart,
    historyPart "Work So Far",
    parametersPart "Parameters"]

/-- The prompt of the summarizer. -/
def summarizerTemplate : Template :=
  [contractPart "Summarizer" [textLines
      ["Write the final answer for the goal from the material below.",
        "Reply with plain text, or JSON shaped as `\x7b\"summary\": \"...\"\x7d`."]],
    goalPart,
    .given "outcome" "Outcome" (.parameter "stop_reason")
      [.text "The run stopped because: ", .slot (.parameter "stop_reason")],
    historyPart "Work So Far",
    parametersPart "Material"]

/-- The prompt of the parameter generator. -/
def parameterGeneratorTemplate : Template :=
  [contractPart "Parameter Generator"
      [.text "Produce input parameters for the tool `", .slot (.parameter "tool_name"),
        .text "`.\nReply with JSON only: `\x7b\"parameters\": \x7b...\x7d\x7d`."],
    goalPart,
    .fixed "step" "Step"
      [.slot (.parameter "step_description"),
        .text "\n",
        .around "\nThe previous parameters were rejected: " (.parameter "validation_error") "\n"],
    .given "schema" "Input Schema" (.parameter "input_schema")
      [.slot (.parameter "input_schema")],
    .droppable "bindings" "Available Variables" (.auxiliary "bindings")]

/-- The prompt of the text transformer. -/
def textTransformerTemplate : Template :=
  [contractPart "Text Transformer" [textLines
      ["Transform the input as instructed. Reply with JSON shaped as",
        "`\x7b\"transformedText\": \"...\"\x7d`, or with the transformed text alone."]],
    goalPart,
    .given "instruction" "Instruction" (.parameter "instruction")
      [.slot (.parameter "instruction")],
    parametersPart "Input"]

/-- The prompt of a role. -/
def template : Role → Template
  | .planner => plannerTemplate
  | .actionPlanner => actionPlannerTemplate
  | .reasoner => reasonerTemplate
  | .completionChecker => completionCheckerTemplate
  | .summarizer => summarizerTemplate
  | .parameterGenerator => parameterGeneratorTemplate
  | .textTransformer => textTransformerTemplate

/-- The sections of the prompt of a role, before any budget. -/
def sectionsFor (role : Role) (i : Invocation) : List Section :=
  sections ((template role).render i)

/-- The prompt of a role within a budget. -/
def build (budget : Nat) (role : Role) (i : Invocation) : String :=
  join (fit budget (sectionsFor role i))

end Prompt
end Errand

/-
# Signs that a goal is reached

SPEC_FULL.md, section 4.5, where no completion checker is registered.

When nobody judges whether a goal is reached, two signs stand in: enough actions
succeeded, or the last observation mentions one of a list of phrases, whatever
its case.
-/

import Errand.Outcome
import Errand.Text.Case
import Errand.Text.Search

namespace Errand
namespace Goal

/-- Phrases by which an observation reports that a goal is reached. -/
def defaultKeywords : List String :=
  ["goal achieved", "goal has been achieved", "task complete", "task completed",
    "successfully completed", "final answer"]

/-- How many entries succeeded. -/
def successes (history : List HistoryEntry) : Nat := history.countP (·.isSuccess)

/-- Whether at least `threshold` actions succeeded. -/
def enoughSuccesses (history : List HistoryEntry) (threshold : Nat) : Bool :=
  threshold ≤ successes history

/-- Whether the observation mentions one of the keywords, compared in lower
case. -/
def isMentioned (observation : String) (keywords : List String) : Bool :=
  keywords.any fun k => Text.contains (Text.lower k).toList (Text.lower observation).toList

end Goal
end Errand

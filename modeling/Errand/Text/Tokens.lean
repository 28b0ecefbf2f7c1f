/-
# A rough count of tokens

SPEC_FULL.md, section 4.6, on the local estimate.

Where nobody counts the tokens of a text, they are taken to be four for every
three words, rounded up.
-/

import Errand.Text.Blank

namespace Errand
namespace Text

/-- The number of tokens a text is taken to have. -/
def estimateTokens (s : String) : Nat := (wordCount s * 4 + 2) / 3

/-- **The estimate is the least integer that is at least four thirds of the
words.** -/
theorem estimateTokens_le_iff (s : String) (n : Nat) :
    estimateTokens s ≤ n ↔ wordCount s * 4 ≤ 3 * n := by
  unfold estimateTokens; omega

end Text
end Errand

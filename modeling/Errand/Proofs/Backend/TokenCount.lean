/-
# Counting tokens in a group

SPEC_FULL.md, section 4.6: counting tokens never fails.

A group that is asked to count tokens asks its members in order, like any other operation,
but it always has an answer.  Members that fail are passed over and recorded as failures, up
to the first that counts, which is recorded as a success.  If none counts, or if one is
cancelled, the tokens are estimated instead, and of a cancellation nothing is recorded
(`countTokens_isCount`).

The estimate is four tokens for every three words, rounded up.  Words are what remains of a
text when it is split at each blank and empty pieces are left out (`words`); the scan that
counts them without splitting counts just as many (`wordCount_eq`).
-/

import Errand.Proofs.Backend.Streaming
import Errand.Proofs.Backend.Tree
import Mathlib.Order.Bounds.Defs

namespace Errand

/-! ### The estimate -/

namespace Text

/-- The words of a text: what stands between its blanks. -/
def words (s : List Char) : List (List Char) := (s.splitOnP isBlank).filter (!·.isEmpty)

/-- The scan counts the words, by induction on the text.  While a word is open, its piece was
counted already. -/
theorem wordCountFrom_eq (s : List Char) :
    wordCountFrom true s = (words s).length ∧
      wordCountFrom false s = ((s.splitOnP isBlank).tail.filter (!·.isEmpty)).length := by
  induction s with
  | nil => exact ⟨rfl, rfl⟩
  | cons c r ih =>
    obtain ⟨hfresh, hopen⟩ := ih
    by_cases hc : isBlank c = true
    · have hsplit : (c :: r).splitOnP isBlank = [] :: r.splitOnP isBlank := by
        rw [List.splitOnP_cons_eq_if_modifyHead, if_pos hc]
      rw [words, hsplit, wordCountFrom, if_pos hc, wordCountFrom, if_pos hc, hfresh]
      exact ⟨rfl, rfl⟩
    · obtain ⟨piece, pieces, hr⟩ :=
        List.exists_cons_of_ne_nil (List.splitOnP_ne_nil isBlank r)
      have hsplit : (c :: r).splitOnP isBlank = (c :: piece) :: pieces := by
        rw [List.splitOnP_cons_eq_if_modifyHead, if_neg hc, hr, List.modifyHead_cons]
      rw [hr, List.tail_cons] at hopen
      rw [words, hsplit, wordCountFrom, if_neg hc, wordCountFrom, if_neg hc, hopen, List.tail_cons,
        List.filter_cons_of_pos rfl, List.length_cons]
      exact ⟨Nat.add_comm _ _, Nat.zero_add _⟩

/-- **Words are counted without being split off.** -/
theorem wordCount_eq (s : String) : wordCount s = (words s.toList).length :=
  (wordCountFrom_eq s.toList).1

/-- The number is the least integer that is at least four thirds of the words. -/
def IsEstimate (text : String) (count : Nat) : Prop :=
  IsLeast {n | 4 * (words text.toList).length ≤ 3 * n} count

/-- The estimate is a quarter of the characters, rounded up. -/
theorem estimateTokens_isEstimate (text : String) : IsEstimate text (estimateTokens text) := by
  have hleast (n : Nat) : estimateTokens text ≤ n ↔ 4 * (words text.toList).length ≤ 3 * n := by
    rw [estimateTokens_le_iff, wordCount_eq, Nat.mul_comm]
  exact ⟨(hleast _).1 (Nat.le_refl _), fun n hn => (hleast n).2 hn⟩

end Text

namespace Failover

variable {σ : Type}

/-! ### Counting -/

/-- Members are asked to count one after another, and all fail, but none because it is
cancelled. -/
def FailToCount (text : String) (v : World σ) (vs : List (Visit σ Nat)) (v' : World σ) : Prop :=
  Calls (fun b => b.countTokens text) v vs v' ∧ ∀ x ∈ vs, x.Failed

/-- **How tokens are counted.**  The members that may be asked are in order those that fail,
the one at which the counting ends, and those left. -/
inductive IsCount (g : Failover σ) (text : String) (w : World (State σ)) :
    Nat → World (State σ) → Prop
  /-- A member counts.  It is recorded as a success. -/
  | counted {vs : List (Visit σ Nat)} {b : Backend σ} {left : List (Backend σ)} {v : World σ}
      {count : Nat} {w' : World (State σ)} :
      (g.members.filter fun b => (w.state.breakers b.name).isAvailable g.policy w.now) =
        vs.map (·.member) ++ b :: left →
      FailToCount text (sharedWorld w) vs v → b.countTokens text v = (.ok count, sharedWorld w') →
      w'.state.breakers = w.state.breakers.afterAll g.policy
        (failuresOf (passedBy vs) ++ [(b.name, ⟨true, w'.now⟩)]) →
      IsCount g text w count w'
  /-- A member is cancelled.  Nothing is recorded of it. -/
  | cancelled {vs : List (Visit σ Nat)} {b : Backend σ} {left : List (Backend σ)} {v : World σ}
      {f : Fault} {count : Nat} {w' : World (State σ)} :
      (g.members.filter fun b => (w.state.breakers b.name).isAvailable g.policy w.now) =
        vs.map (·.member) ++ b :: left →
      FailToCount text (sharedWorld w) vs v →
      b.countTokens text v = (.error f, sharedWorld w') → Fault.cancelled ∈ f.causes →
      Text.IsEstimate text count →
      w'.state.breakers = w.state.breakers.afterAll g.policy (failuresOf (passedBy vs)) →
      IsCount g text w count w'
  /-- All fail, or there is nobody to ask. -/
  | failed {vs : List (Visit σ Nat)} {count : Nat} {w' : World (State σ)} :
      (g.members.filter fun b => (w.state.breakers b.name).isAvailable g.policy w.now) =
        vs.map (·.member) →
      FailToCount text (sharedWorld w) vs (sharedWorld w') → Text.IsEstimate text count →
      w'.state.breakers = w.state.breakers.afterAll g.policy (failuresOf (passedBy vs)) →
      IsCount g text w count w'

/-- How a walk for a count ended tells what the count is, by what its visits were. -/
theorem Ends.isCount {vs : List (Visit σ Nat)} {left : List (Backend σ)} {ending : Walk Nat}
    (h : Ends vs left ending) {g : Failover σ} {text : String} {w : World (State σ)} {v' : World σ}
    (hwalk : g.walk (fun b => b.countTokens text) (g.eligible none w) w =
      (ending, withBreakers (w.state.breakers.afterAll g.policy (reports vs)) v'))
    (hmembers : g.eligible none w = vs.map (·.member) ++ left)
    (hcalls : Calls (fun b => b.countTokens text) (sharedWorld w) vs v') :
    ∃ count, (g.countTokens text w).1 = .ok count ∧
      IsCount g text w count (g.countTokens text w).2 := by
  rw [eligible_eq] at hmembers
  simp only [Option.all_none, Bool.true_and] at hmembers
  have hestimate := Text.estimateTokens_isEstimate text
  rw [countTokens, hwalk]
  cases h with
  | @answered us u _ n hfailed hanswer =>
    obtain ⟨v, hpassed, hcall, htime⟩ := hcalls.of_concat
    rw [hanswer] at hcall
    rw [List.map_append, List.append_assoc] at hmembers
    rw [reports_answered hfailed hanswer, htime]
    exact ⟨n, rfl, .counted hmembers ⟨hpassed, hfailed⟩ hcall rfl⟩
  | @cancelled us u _ f hfailed hanswer hf =>
    obtain ⟨v, hpassed, hcall, -⟩ := hcalls.of_concat
    rw [hanswer] at hcall
    rw [List.map_append, List.append_assoc] at hmembers
    rw [reports_cancelled hfailed hanswer hf]
    exact ⟨_, rfl, .cancelled hmembers ⟨hpassed, hfailed⟩ hcall (f.isCancellation_iff.1 hf)
      hestimate rfl⟩
  | failed hfailed _ =>
    rw [List.append_nil] at hmembers
    rw [reports_of_failed hfailed]
    exact ⟨_, rfl, .failed hmembers ⟨hcalls, hfailed⟩ hestimate rfl⟩

/-- **Tokens are always counted.**  The count is that of the first member, in the order of
those that may be asked, that counts, if all before it failed; if one was cancelled or none
counts, it is the estimate.  Each member that failed is recorded as one failure, the one that
counts as a success, and nothing else changes in the breakers. -/
theorem countTokens_isCount (g : Failover σ) (text : String) (w : World (State σ)) :
    ∃ count, (g.backend.countTokens text w).1 = .ok count ∧
      IsCount g text w count (g.backend.countTokens text w).2 := by
  obtain ⟨left, ending, hwalk, hmembers, hcalls, hends⟩ :=
    walk_visits g (fun b => b.countTokens text) (g.eligible none w) w.state.breakers
      (sharedWorld w)
  rw [withBreakers_sharedWorld] at hwalk
  exact hends.isCount hwalk hmembers hcalls

/-- A group within a group always counts, if need be by an estimate, so that what stands behind
it is not asked. -/
example : ((BackendTree.backend [] (.group {} [.group {} [.leaf
      { Backend.ofGenerate "mute" (fun _ w => (.ok "", w)) with
        countTokens := fun _ w => (.error (.message "cannot count"), w) }], .leaf
      { Backend.ofGenerate "exact" (fun _ w => (.ok "", w)) with
        countTokens := fun _ w => (.ok 7, w) }])).countTokens "three short words"
      ⟨⟨(), fun _ => .fresh⟩, 0, false⟩).1 = .ok 4 := by
  decide +kernel

end Failover
end Errand

/-
# Outcomes that are read back

What is left of a run is turned into JSON and read again.  Most of it is records that are
written as they are read, so that the faithful source gives them back.  Two parts are not.  A
stop reason is told by its tag, and holds what its tag says (`StopReason.ofJson_toJson`).  An
action leaves out the fields that it lacks, and null is read as lacking: parameters that are null
are not read back (`Action.ofJson_toJson`).

Numbers are read as far as their bits go.  So an outcome is read back if its numbers are no
larger, and no action in it has null for its parameters (`RunOutcome.IsPlain`).
-/

import Errand.Outcome
import Errand.Proofs.Json.Written

namespace Errand

open Json (Fields FromValue Members Source Value)

/-! ### What records are made of -/

/-- A record is read from the pairs that it is turned into, in the order of its fields. -/
theorem Json.ofPairs_reads {α δ γ : Type} {fs : Fields FromValue δ γ}
    {pairs : List (String × Value)} {c : γ} (f : γ → α) (name : String)
    (hapart : fs.spellings.Nodup) (hkeys : (pairs.map (·.1)).Nodup)
    (h : fs.Written FromValue.Reads pairs c) :
    FromValue.Reads (Source.value.map f (Source.value.record name fs)) (.ofPairs pairs) (f c) :=
  FromValue.map_reads f (FromValue.record_reads name hapart h (Members.ofList_perm hkeys))

/-- An optional text is read from the text or null. -/
theorem textOrNull_reads (s? : Option String) :
    FromValue.Reads (Source.value.optional Source.value.text) (textOrNull s?) s? := by
  cases s? <;> rfl

/-- A list is read back if each of its items is. -/
theorem Json.list_toJson_reads {α : Type} {d : FromValue α} {toJson : α → Value} {as : List α}
    (h : ∀ a ∈ as, d (toJson a) = .ok a) :
    FromValue.Reads (Source.value.list d) (.array (as.map toJson)) as := by
  refine FromValue.list_reads ?_
  rw [List.forall₂_map_left_iff]
  exact List.forall₂_same.2 h

/-! ### Actions -/

/-- A kind is read back from its name. -/
theorem ActionKind.ofJson_name (kind : ActionKind) :
    ActionKind.ofJson (.string kind.name) = .ok kind := by
  cases kind <;> rfl

/-- **An action is read back but for null.** -/
theorem Action.ofJson_toJson (a : Action) :
    Action.ofJson a.toJson = .ok { a with parameters := a.parameters.filter (· ≠ .null) } := by
  obtain ⟨kind, name, parameters, output⟩ := a
  refine Json.ofPairs_reads (c := (_, _, _, _, ())) _ "Action" ?_ ?_ ?_
  · show List.Nodup ["type", "name", "parameters", "output_variable"]
    decide
  · cases parameters <;> cases output <;> simp [fields]
  · refine .given List.mem_cons_self (ActionKind.ofJson_name kind)
      (.given List.mem_cons_self rfl ?_)
    -- What is lacking was left out, and null is read as lacking.
    have houtput : Fields.Written FromValue.Reads (.cons (.withDefault "output_variable" none
        (Source.value.optional Source.value.text)) .nil)
        (output.map fun o => ("output_variable", Value.string o)).toList (output, ()) := by
      cases output with
      | none => exact .left rfl .nil
      | some o => exact .given List.mem_cons_self rfl .nil
    cases parameters with
    | none => exact .left rfl houtput
    | some p =>
      refine .given List.mem_cons_self ?_ houtput
      cases p <;> rfl

/-- An action is read back exactly if its parameters are not null. -/
theorem Action.ofJson_toJson_iff {a : Action} :
    Action.ofJson a.toJson = .ok a ↔ a.parameters ≠ some .null := by
  rw [Action.ofJson_toJson]
  obtain ⟨kind, name, parameters, output⟩ := a
  cases parameters <;> simp [Option.filter_some]

/-! ### Stop reasons -/

/-- The number in a stop reason is held in 32 bits. -/
def StopReason.Fits (stop : StopReason) : Prop :=
  ∀ n, stop = .maxIterationsExceeded n → n < Nat.pow 2 32

/-- What a stop reason holds beside its tag is taken for what the tag says. -/
theorem StopReason.ofJson_tagged {kind field : String} (hkind : kind ∈ kinds)
    (hfield : field ≠ "kind") (v : Value) :
    ofJson (.ofPairs [("kind", .string kind), (field, v)]) = ofKind kind (.inl [(field, v)]) := by
  have htag : kindOf (.string kind) = .ok kind := if_pos (List.contains_iff_mem.2 hkind)
  have hpair : Members.ofList [("kind", .string kind), (field, v)] =
      Members.insert field v [("kind", .string kind)] := rfl
  have hfind : (Members.insert field v [("kind", .string kind)]).find? "kind" =
      some (.string kind) := by
    rw [Members.find?_insert_of_ne hfield.symm, Members.find?, if_pos rfl]
  have herase : (Members.insert field v [("kind", .string kind)]).erase "kind" = [(field, v)] := by
    simp only [Members.insert, if_neg hfield]
    split <;> simp [Members.erase, hfield]
  rw [Value.ofPairs, ofJson, hpair, hfind, herase]
  simp only [htag, Except.bind]

/-- **A stop reason is read back.** -/
theorem StopReason.ofJson_toJson {stop : StopReason} (h : stop.Fits) :
    ofJson stop.toJson = .ok stop := by
  cases stop with
  | goalAchieved => rfl
  | finished => rfl
  | maxIterationsExceeded n =>
    have hn : FromValue.Reads Source.value.nat32 (.ofNat n) n :=
      FromValue.natural_reads "u32" (h n rfl)
    rw [FromValue.Reads] at hn
    rw [toJson, ofJson_tagged (by decide) (by decide)]
    show (Source.value.nat32 (.ofNat n)).map StopReason.maxIterationsExceeded = _
    rw [hn]
    rfl
  | blocked reason => exact ofJson_tagged (by decide) (by decide) _
  | failed error => exact ofJson_tagged (by decide) (by decide) _

/-! ### Records of a run -/

/-- The entry holds nothing that is lost when it is read again. -/
structure HistoryEntry.IsPlain (entry : HistoryEntry) : Prop where
  iteration : entry.iteration < Nat.pow 2 32
  action : entry.action.parameters ≠ some .null
  executionTimeMs : entry.executionTimeMs < Nat.pow 2 64

/-- The cycle holds nothing that is lost when it is read again. -/
structure Cycle.IsPlain (cycle : Cycle) : Prop where
  iteration : cycle.iteration < Nat.pow 2 32
  action : cycle.action.parameters ≠ some .null

/-- The outcome holds nothing that is lost when it is read again. -/
structure RunOutcome.IsPlain (o : RunOutcome) : Prop where
  iterations : o.iterations < Nat.pow 2 32
  stop : o.stop.Fits
  history : ∀ entry ∈ o.history, entry.IsPlain
  cycles : ∀ cycle ∈ o.cycles, cycle.IsPlain

/-- A plain entry is read back, -/
theorem HistoryEntry.ofJson_toJson {entry : HistoryEntry} (h : entry.IsPlain) :
    ofJson entry.toJson = .ok entry := by
  refine Json.ofPairs_reads (c := (_, _, _, _, _, _, ())) _ "HistoryEntry" ?_ ?_ ?_
  · show List.Nodup ["iteration", "action", "is_success", "output", "error_message",
      "execution_time_ms"]
    decide
  · simp [fields]
  · exact .given List.mem_cons_self (FromValue.natural_reads "u32" h.iteration)
      (.given List.mem_cons_self (Action.ofJson_toJson_iff.2 h.action)
      (.given List.mem_cons_self rfl
      (.given List.mem_cons_self (textOrNull_reads _)
      (.given List.mem_cons_self (textOrNull_reads _)
      (.given List.mem_cons_self (FromValue.natural_reads "u64" h.executionTimeMs) .nil)))))

/-- and so is a plain cycle. -/
theorem Cycle.ofJson_toJson {cycle : Cycle} (h : cycle.IsPlain) :
    ofJson cycle.toJson = .ok cycle := by
  refine Json.ofPairs_reads (c := (_, _, _, _, ())) _ "ReactRecord" ?_ ?_ ?_
  · show List.Nodup ["iteration", "thought", "action", "observation"]
    decide
  · simp [fields]
  · exact .given List.mem_cons_self (FromValue.natural_reads "u32" h.iteration)
      (.given List.mem_cons_self rfl
      (.given List.mem_cons_self (Action.ofJson_toJson_iff.2 h.action)
      (.given List.mem_cons_self rfl .nil)))

/-- **An outcome is read back,** if it is plain. -/
theorem RunOutcome.ofJson_toJson {o : RunOutcome} (h : o.IsPlain) :
    ofJson o.toJson = .ok o := by
  refine Json.ofPairs_reads (c := (_, _, _, _, _, _, _, _, _, _, ())) _ "StrategyOutcome" ?_ ?_ ?_
  · show List.Nodup ["is_success", "is_complete", "iterations", "stop", "error_message",
      "final_answer", "history", "records", "bindings", "shared_data"]
    decide
  · simp
  · exact .given List.mem_cons_self rfl
      (.given List.mem_cons_self rfl
      (.given List.mem_cons_self (FromValue.natural_reads "u32" h.iterations)
      (.given List.mem_cons_self (StopReason.ofJson_toJson h.stop)
      (.given List.mem_cons_self (textOrNull_reads _)
      (.given List.mem_cons_self (textOrNull_reads _)
      (.given List.mem_cons_self
        (Json.list_toJson_reads fun entry hentry =>
          HistoryEntry.ofJson_toJson (h.history entry hentry))
      (.given List.mem_cons_self
        (Json.list_toJson_reads fun cycle hcycle =>
          Cycle.ofJson_toJson (h.cycles cycle hcycle))
      (.given List.mem_cons_self rfl
      (.given List.mem_cons_self rfl .nil)))))))))

end Errand

/-
# Faults: why a call failed

SPEC_FULL.md, sections 7 and 10.2, on errors and cancellation.

A fault is a chain of causes, the outermost first.  Its text is the texts of the
chain, and it is a cancellation when any cause in the chain is one, however many
contexts were put around it.
-/

namespace Errand

/-- Why a call failed. -/
inductive Fault where
  /-- The call was cancelled. -/
  | cancelled
  | message (text : String)
  /-- No backend could be called. -/
  | noneAvailable (operation : String) (backends : List String)
  /-- Every backend that was called failed, the last one with `last`. -/
  | exhausted (operation : String) (attempted : List String) (last : Fault)
  | context (text : String) (inner : Fault)
deriving DecidableEq, Repr

namespace Fault

/-- The texts of the causes, the outermost first. -/
def chain : Fault → List String
  | .cancelled => ["operation cancelled"]
  | .message t => [t]
  | .noneAvailable op bs =>
    ["no backend available for " ++ op ++ " (tried: " ++ String.intercalate ", " bs ++ ")"]
  | .exhausted op bs last =>
    ("all backends failed for " ++ op ++ " (attempted: " ++ String.intercalate ", " bs ++ ")") ::
      last.chain
  | .context t inner => t :: inner.chain

/-- The whole chain in one text. -/
def text (f : Fault) : String := String.intercalate ": " f.chain

/-- Whether some cause in the chain is a cancellation. -/
def isCancellation : Fault → Bool
  | .cancelled => true
  | .message _ | .noneAvailable _ _ => false
  | .exhausted _ _ last => last.isCancellation
  | .context _ inner => inner.isCancellation

/-- The faults of the chain, the outermost first. -/
def causes : Fault → List Fault
  | .exhausted op bs last => .exhausted op bs last :: last.causes
  | .context t inner => .context t inner :: inner.causes
  | f => [f]

/-- A chain of texts as a fault, `root` at its end. -/
def ofContexts (contexts : List String) (root : Fault) : Fault := contexts.foldr .context root

/-- **Depth does not matter:** a fault is a cancellation exactly when one is in its
chain. -/
theorem isCancellation_iff (f : Fault) : f.isCancellation = true ↔ .cancelled ∈ f.causes := by
  induction f with
  | cancelled | message | noneAvailable => simp [isCancellation, causes]
  | exhausted op bs last ih | context t last ih => simp [isCancellation, causes, ih]

end Fault
end Errand

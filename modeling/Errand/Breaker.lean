/-
# Circuit breakers

SPEC_FULL.md, section 3 (Circuit-breaker state) and section 4.6.

A breaker counts the failures of one backend since its last success.  At a
threshold it opens, and an open breaker turns calls away until a timeout has
passed since the last failure; the outcome of the next call then decides.
-/

import Errand.Clock

namespace Errand

/-- When breakers open, and for how long they turn calls away. -/
structure BreakerPolicy where
  failureThreshold : Nat := 3
  /-- In nanoseconds. -/
  openTimeout : Nat := ofMillis 60000
deriving DecidableEq, Repr

/-- The record of one backend. -/
structure Breaker where
  isOpen : Bool := false
  failureCount : Nat := 0
  lastFailure : Option Instant := none
  lastSuccess : Option Instant := none
deriving DecidableEq, Repr, Inhabited

namespace Breaker

/-- The greatest count of failures; further failures leave it there. -/
def maxCount : Nat := Nat.pow 2 32 - 1

/-- Whether a call may be made at `now`. -/
def isAvailable (policy : BreakerPolicy) (now : Instant) (b : Breaker) : Bool :=
  !b.isOpen ||
    match b.lastFailure with
    | some t => policy.openTimeout < now - t
    | none => true

/-- The record after a success at `now`. -/
def recordSuccess (now : Instant) (b : Breaker) : Breaker :=
  { b with isOpen := false, failureCount := 0, lastSuccess := some now }

/-- The record after a failure at `now`. -/
def recordFailure (policy : BreakerPolicy) (now : Instant) (b : Breaker) : Breaker :=
  let count := min (b.failureCount + 1) maxCount
  { b with
    isOpen := b.isOpen || policy.failureThreshold ≤ count
    failureCount := count
    lastFailure := some now }

/-- Whether a failure at `now` opens the breaker. -/
def opensOnFailure (policy : BreakerPolicy) (now : Instant) (b : Breaker) : Bool :=
  (b.recordFailure policy now).isOpen && !b.isOpen

/-- A success makes the breaker available at once. -/
@[simp] theorem isAvailable_recordSuccess (policy : BreakerPolicy) (now later : Instant)
    (b : Breaker) : (b.recordSuccess now).isAvailable policy later = true := by
  simp [isAvailable, recordSuccess]

end Breaker
end Errand

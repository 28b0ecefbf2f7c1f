/-
# Time

SPEC_FULL.md, sections 4.4 and 4.5, where steps, plans and history entries are timed.

An instant is a number of nanoseconds.  What took some time is reported to have taken
whole milliseconds: the fraction that is left over is cut off, and whatever is beyond a
word of 64 bits is reported as the greatest such word.

So reports of spans that follow one another need not add up to the report of the whole.
`reportedMillis_add` says by how much they miss: by the one millisecond that two fractions
can make up together, and by what is beyond the greatest word.
-/

namespace Errand

/-- A point in time, in nanoseconds from when the clock was started. -/
abbrev Instant := Nat

/-- How many nanoseconds make a millisecond. -/
def nanosPerMilli : Nat := 1000000

/-- The most milliseconds that are reported. -/
def maxMilliseconds : Nat := Nat.pow 2 64 - 1

/-- How many nanoseconds some milliseconds are. -/
def ofMillis (millis : Nat) : Nat := millis * nanosPerMilli

/-- A span of nanoseconds as it is reported, in milliseconds. -/
def reportedMillis (span : Nat) : Nat := min (span / nanosPerMilli) maxMilliseconds

/-- The time from one instant to another as it is reported.  Time never runs backwards. -/
def elapsedMillis (started ended : Instant) : Nat := reportedMillis (ended - started)

/-- Six tenths of a millisecond are reported as nothing, twice as much as a millisecond. -/
example : reportedMillis 600000 = 0 ∧ reportedMillis (600000 + 600000) = 1 := by decide +kernel

end Errand

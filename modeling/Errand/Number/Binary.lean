/-
# Binary floating-point numbers, exactly

A finite binary number is a sign, a mantissa and a power of two.  All
operations are computed on the exact rational value and rounded once, to the
nearest number of the format and to the even mantissa on a tie, so that they
are plain functions on natural numbers: no machine float is involved, and two
numbers are equal exactly when they have the same bits.

`Format.binary64` and `Format.binary32` are the two formats in use.
-/

namespace Errand
namespace Number

/-- A binary format: the bits of a full mantissa, and the least and greatest
power of two that a mantissa is multiplied by. -/
structure Format where
  digits : Nat
  minExponent : Int
  maxExponent : Int
deriving DecidableEq, Repr

/-- Double precision: 53 bits, powers from `2^-1074` to `2^971`. -/
def Format.binary64 : Format := ⟨53, -1074, 971⟩

/-- Single precision: 24 bits, powers from `2^-149` to `2^104`. -/
def Format.binary32 : Format := ⟨24, -149, 104⟩

/-- The number `± mantissa · 2^exponent`.  Zero has a sign of its own. -/
structure Binary where
  negative : Bool
  mantissa : Nat
  exponent : Int
deriving DecidableEq, Repr, Inhabited

/-- The integer nearest to `num / den`, the even one of two that are equally
near. -/
def roundDiv (num den : Nat) : Nat :=
  let q := num / den
  let r := num % den
  if 2 * r < den then q
  else if den < 2 * r then q + 1
  else if q % 2 = 0 then q else q + 1

/-- Multiply a ratio by `2^e`, for either sign of `e`. -/
def scaleRatio (num den : Nat) (e : Int) : Nat × Nat :=
  if 0 ≤ e then (num * Nat.pow 2 e.toNat, den) else (num, den * Nat.pow 2 (-e).toNat)

/-- The mantissa and exponent of the number of format `f` nearest to the
positive ratio `num / den`, or nothing when that ratio is too large for `f`. -/
def Format.nearest? (f : Format) (num den : Nat) : Option (Nat × Int) :=
  if num = 0 then some (0, f.minExponent)
  else
    let rough : Int := (num.log2 : Int) - (den.log2 : Int) - f.digits
    let floorAt (e : Int) : Nat := let (n, d) := scaleRatio num den (-e); n / d
    let fitted := if floorAt rough < Nat.pow 2 f.digits then rough else rough + 1
    let e := max f.minExponent fitted
    let (n, d) := scaleRatio num den (-e)
    let m := roundDiv n d
    let (m, e) := if m < Nat.pow 2 f.digits then (m, e) else (m / 2, e + 1)
    if e ≤ f.maxExponent then some (m, e) else none

namespace Binary

/-- Zero with a sign. -/
def zero (negative : Bool) : Binary := ⟨negative, 0, Format.binary64.minExponent⟩

/-- Whether the number is one of the two zeros. -/
def isZero (x : Binary) : Bool := x.mantissa == 0

/-- The double nearest to a signed ratio. -/
def ofRatio? (negative : Bool) (num den : Nat) : Option Binary :=
  (Format.binary64.nearest? num den).map fun (m, e) => ⟨negative, m, e⟩

/-- The absolute value as a ratio of natural numbers. -/
def ratio (x : Binary) : Nat × Nat := scaleRatio x.mantissa 1 x.exponent

/-- The product of the absolute values, rounded, under the sign of `x`. -/
def scaleUp? (x y : Binary) : Option Binary :=
  let (a, b) := x.ratio
  let (c, d) := y.ratio
  ofRatio? x.negative (a * c) (b * d)

/-- The quotient of the absolute values, rounded, under the sign of `x`. -/
def scaleDown? (x y : Binary) : Option Binary :=
  let (a, b) := x.ratio
  let (c, d) := y.ratio
  if c = 0 then none else ofRatio? x.negative (a * d) (b * c)

/-- The value as a fraction: a signed numerator over a positive denominator. -/
def fraction (x : Binary) : Int × Nat :=
  let (n, d) := x.ratio
  (if x.negative then -(n : Int) else n, d)

/-- Whether the value is a whole number. -/
def isWhole (x : Binary) : Bool := let (n, d) := x.ratio; n % d == 0

end Binary

/-- A number in single precision, given as the double of the same value. -/
inductive Single where
  | finite (x : Binary)
  | infinite (negative : Bool)
  | undefined
deriving DecidableEq, Repr

namespace Single

/-- The single-precision number nearest to a signed ratio. -/
def ofRatio (negative : Bool) (num den : Nat) : Single :=
  match Format.binary32.nearest? num den with
  | none => .infinite negative
  | some (m, e) =>
    let (n, d) := scaleRatio m 1 e
    match Binary.ofRatio? negative n d with
    | some y => .finite y
    | none => .infinite negative

/-- The single-precision number nearest to a double. -/
def ofBinary (x : Binary) : Single := ofRatio x.negative x.ratio.1 x.ratio.2

/-- The single-precision number nearest to an integer. -/
def ofInt (i : Int) : Single := ofRatio (i < 0) i.natAbs 1

/-- Whether the number lies between zero and a whole number, both included. -/
def isWithin (top : Nat) : Single → Bool
  | .finite x => x.isZero || (!x.negative && x.ratio.1 ≤ top * x.ratio.2)
  | .infinite _ | .undefined => false

end Single
end Number
end Errand

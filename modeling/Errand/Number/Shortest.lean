/-
# The shortest decimal that reads back

Every number of a binary format owns an interval of reals that round to it; its
ends belong to the interval exactly when the mantissa is even.  The shortest
decimal of a number is a decimal with the fewest digits in that interval, the
one nearest to the number when there are several.  If a point of a decimal grid
lies in the interval then so does one of the two grid neighbours of the number,
so only those two are tried, on finer and finer grids.
-/

import Errand.Number.Binary

namespace Errand
namespace Number

/-- The decimal `digits · 10^exponent`; no trailing zero in `digits` unless it
is zero. -/
structure Decimal where
  digits : Nat
  exponent : Int
deriving DecidableEq, Repr, Inhabited

/-- A ratio times `10^k`, for either sign of `k`. -/
def scaleTen (num den : Nat) (k : Int) : Nat × Nat :=
  if 0 ≤ k then (num * Nat.pow 10 k.toNat, den) else (num, den * Nat.pow 10 (-k).toNat)

/-- Move trailing zeros of the digits into the exponent, at most `fuel` of
them. -/
def Decimal.strip : Nat → Decimal → Decimal
  | 0, d => d
  | fuel + 1, d =>
    if d.digits ≠ 0 ∧ d.digits % 10 = 0 then strip fuel ⟨d.digits / 10, d.exponent + 1⟩ else d

/-- The interval of reals that round to `mantissa · 2^exponent`, as two ratios
over one denominator, with the number itself between them. -/
structure Cell where
  low : Nat
  value : Nat
  high : Nat
  den : Nat
  closed : Bool

/-- The cell of a number of format `f`.  Below a power of two the neighbours
are half as far apart. -/
def Format.cell (f : Format) (m : Nat) (e : Int) : Cell :=
  let tight := m = Nat.pow 2 (f.digits - 1) ∧ f.minExponent < e
  let (unit, den) := scaleRatio 1 4 e
  { low := (4 * m - if tight then 1 else 2) * unit
    value := 4 * m * unit
    high := (4 * m + 2) * unit
    den := den
    closed := m % 2 == 0 }

/-- Whether the ratio `n / d` lies in the cell. -/
def Cell.holds (c : Cell) (n d : Nat) : Bool :=
  let lo := c.low * d
  let hi := c.high * d
  let x := n * c.den
  if c.closed then lo ≤ x && x ≤ hi else lo < x && x < hi

/-- The multiple of `10^k` in the cell that is nearest to its number, if one of
the two neighbours lies in it; the even one on a tie. -/
def Cell.onGrid? (c : Cell) (k : Int) : Option Nat :=
  let (n, d) := scaleTen c.value c.den (-k)
  let a := n / d
  let inside (x : Nat) : Bool := let (xn, xd) := scaleTen x 1 k; c.holds xn xd
  match decide (0 < a) && inside a, inside (a + 1) with
  | true, true => some (roundDiv n d)
  | true, false => some a
  | false, true => some (a + 1)
  | false, false => none

/-- The first grid with a hit, from `10^k` downward through `fuel` finer grids. -/
def Cell.search (c : Cell) : Nat → Int → Option Decimal
  | 0, _ => none
  | fuel + 1, k =>
    match c.onGrid? k with
    | some a => some ⟨a, k⟩
    | none => c.search fuel (k - 1)

/-- A power of ten above the number: `10^k > value`, found from the powers of
two around it. -/
def Cell.ceilingPower (c : Cell) : Int :=
  let bits : Int := (c.value.log2 : Int) - (c.den.log2 : Int) + 1
  let guess := (bits * 30103) / 100000 + 1
  let above (k : Int) : Bool := let (n, d) := scaleTen 1 1 k; c.value * d < n * c.den
  if above (guess - 2) then guess - 2 else if above (guess - 1) then guess - 1 else guess

/-- The shortest decimal that rounds to `m · 2^e` in format `f`. -/
def Format.shortest (f : Format) (m : Nat) (e : Int) : Decimal :=
  if m = 0 then ⟨0, 0⟩
  else
    let c := f.cell m e
    match c.search 20 c.ceilingPower with
    | some d => d.strip 20
    | none => ⟨0, 0⟩

/-- The double that the shortest decimal of a single-precision number names, the
number being given as the double of the same value. -/
def Single.spelled (x : Binary) : Binary :=
  match Format.binary32.nearest? x.ratio.1 x.ratio.2 with
  | none => x
  | some (m, e) =>
    let d := Format.binary32.shortest m e
    let (num, den) := scaleTen d.digits 1 d.exponent
    (Binary.ofRatio? x.negative num den).getD x

end Number
end Errand

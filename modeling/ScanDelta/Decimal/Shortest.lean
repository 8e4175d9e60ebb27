import ScanDelta.Decimal.Binary64

/-!
# The shortest decimal of a double

`Binary64.shortest` gives the fewest digits that read back as the number; of those with as few digits
the nearest, and of two equally near the one with the even last digit.
-/

set_option autoImplicit false

namespace ScanDelta

/-- The decimal `digits · 10 ^ exponent`. -/
structure Decimal where
  digits : Nat
  exponent : Int
  deriving DecidableEq, Repr

namespace Binary64

/-- The reals that round to a positive double: between `low / den` and `high / den`, the ends included
if `closed`; the double itself is `mid / den`. -/
structure Interval where
  low : Nat
  mid : Nat
  high : Nat
  den : Nat
  closed : Bool

/-- The interval of `x`, on the grid of a quarter of its unit in the last place. The unit below a power
of two is half as large. -/
def interval (x : Binary64) : Interval :=
  let (unit, den) := if 2 ≤ x.exponent then (Nat.pow 2 (x.exponent - 2).toNat, 1)
    else (1, Nat.pow 2 (2 - x.exponent).toNat)
  let below := if x.mantissa = Nat.pow 2 52 && leastExponent < x.exponent then 1 else 2
  { low := (4 * x.mantissa - below) * unit
    mid := 4 * x.mantissa * unit
    high := (4 * x.mantissa + 2) * unit
    den := den
    closed := x.mantissa % 2 == 0 }

/-- Is the decimal in the interval? -/
def Interval.holds (i : Interval) (d : Decimal) : Bool :=
  let n := d.digits * i.den * Nat.pow 10 d.exponent.toNat
  let s := Nat.pow 10 (-d.exponent).toNat
  if i.closed then i.low * s ≤ n && n ≤ i.high * s else i.low * s < n && n < i.high * s

/-- The point of the grid `10 ^ exponent` at or below the number. -/
def Interval.floorAt (i : Interval) (exponent : Int) : Nat :=
  i.mid * Nat.pow 10 (-exponent).toNat / (i.den * Nat.pow 10 exponent.toNat)

/-- Of the number's two neighbours on the grid `10 ^ exponent`, the nearest one in the interval. -/
def Interval.bestAt (i : Interval) (exponent : Int) : Option Decimal :=
  let k := i.floorAt exponent
  let low : Decimal := ⟨k, exponent⟩
  let high : Decimal := ⟨k + 1, exponent⟩
  match i.holds low && k != 0, i.holds high with
  | false, false => none
  | true, false => some low
  | false, true => some high
  | true, true =>
    let twice := 2 * (i.mid * Nat.pow 10 (-exponent).toNat)
    let middle := (2 * k + 1) * (i.den * Nat.pow 10 exponent.toNat)
    some (if twice < middle then low else if middle < twice then high
      else if k % 2 = 0 then low else high)

/-- An exponent `e` with `10 ^ e` above the number and not more than a hundred times as large. -/
def Interval.topExponent (i : Interval) : Int :=
  let bits : Int := (Nat.log2 i.mid : Int) - Nat.log2 i.den + 1
  bits * 30103 / 100000 + 1

/-- The first grid, from coarse to fine, with a point in the interval. -/
def Interval.search (i : Interval) (exponent : Int) : Nat → Decimal
  | 0 => ⟨i.floorAt exponent, exponent⟩
  | n + 1 => (i.bestAt exponent).getD (i.search (exponent - 1) n)

/-- The shortest decimal of the magnitude; more than nineteen grids are never needed. -/
def shortest (x : Binary64) : Decimal :=
  if x.isZero then ⟨0, 0⟩ else x.interval.search x.interval.topExponent 20

end Binary64

end ScanDelta

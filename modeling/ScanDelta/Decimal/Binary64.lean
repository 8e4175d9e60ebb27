/-!
# Finite binary64 numbers

A finite double is `± mantissa · 2 ^ exponent`, kept in exact arithmetic.

* `Binary64.ofRatio` : the double nearest to a quotient of naturals, ties to the even mantissa;
* `Binary64.nearest` : the double nearest to `significand · 10 ^ exponent`;
* `Binary64.ofDecimal` : the value of `significand · 10 ^ exponent`, in two roundings: the significand,
  then one product with (or quotient by) the double nearest to the power of ten.
-/

set_option autoImplicit false

namespace ScanDelta

/-- The number `mantissa · 2 ^ exponent`, negated if `negative`. In normal form the mantissa is below
`2 ^ 53` and at least `2 ^ 52` unless the exponent is the least one, `-1074`. -/
structure Binary64 where
  negative : Bool
  mantissa : Nat
  exponent : Int
  deriving DecidableEq, Repr

namespace Binary64

def leastExponent : Int := -1074
def greatestExponent : Int := 971

def zero : Binary64 := ⟨false, 0, leastExponent⟩

def isZero (x : Binary64) : Bool := x.mantissa == 0

def neg (x : Binary64) : Binary64 := { x with negative := !x.negative }

/-! ## Rounding -/

/-- The integer nearest to `num / den`, ties to even. -/
def roundDiv (num den : Nat) : Nat :=
  let q := num / den
  let twice := 2 * (num % den)
  if twice < den then q
  else if den < twice then q + 1
  else q + q % 2

/-- The number `num / den · 2 ^ (-e)` as a quotient of naturals. -/
def scaled (num den : Nat) (e : Int) : Nat × Nat :=
  if 0 ≤ e then (num, den * Nat.pow 2 e.toNat) else (num * Nat.pow 2 (-e).toNat, den)

/-- The exponent at which `num / den` has a mantissa of 53 bits, or the least one. -/
def exponentFor (num den : Nat) : Int :=
  let guess : Int := (Nat.log2 num : Int) - Nat.log2 den - 52
  let (n, d) := scaled num den guess
  let e := if n / d < Nat.pow 2 52 then guess - 1 else guess
  max e leastExponent

/-- The positive double nearest to `num / den`; `none` if that is beyond the greatest one. -/
def ofRatio (num den : Nat) : Option Binary64 :=
  if num = 0 then some zero
  else
    let e := exponentFor num den
    let (n, d) := scaled num den e
    let m := roundDiv n d
    let (m, e) := if m = Nat.pow 2 53 then (Nat.pow 2 52, e + 1) else (m, e)
    if greatestExponent < e then none else some ⟨false, m, e⟩

/-- The magnitude as a quotient of naturals. -/
def ratio (x : Binary64) : Nat × Nat :=
  if 0 ≤ x.exponent then (x.mantissa * Nat.pow 2 x.exponent.toNat, 1)
  else (x.mantissa, Nat.pow 2 (-x.exponent).toNat)

def mulMagnitude (x y : Binary64) : Option Binary64 :=
  ofRatio (x.ratio.1 * y.ratio.1) (x.ratio.2 * y.ratio.2)

def divMagnitude (x y : Binary64) : Option Binary64 :=
  ofRatio (x.ratio.1 * y.ratio.2) (x.ratio.2 * y.ratio.1)

/-! ## Decimals -/

/-- A decimal whose leading digit is further from the units than this rounds to zero or is too great. -/
def farPlace : Int := 400

/-- The double nearest to `significand · 10 ^ exponent`; `none` if it is beyond the greatest one. Whether the
leading digit stands far from the units is told without computing the power. -/
def nearest (significand : Nat) (exponent : Int) : Option Binary64 :=
  let place := (Nat.log2 significand : Int) * 30103 / 100000 + exponent
  if significand = 0 || place < -farPlace then some zero
  else if farPlace < place then none
  else ofRatio (significand * Nat.pow 10 exponent.toNat) (Nat.pow 10 (-exponent).toNat)

/-- The greatest power of ten that is a finite double. -/
def greatestTenPower : Nat := 308

def tenPower (n : Nat) : Binary64 := (ofRatio (Nat.pow 10 n) 1).getD zero

/-- The quotient `x / 10 ^ n`, in steps of the greatest power of ten; zero stays as it is. -/
def divTenPower (x : Binary64) (n : Nat) : Binary64 :=
  if n ≤ greatestTenPower then (divMagnitude x (tenPower n)).getD zero
  else if x.isZero then x
  else divTenPower ((divMagnitude x (tenPower greatestTenPower)).getD zero) (n - greatestTenPower)
termination_by n
decreasing_by simp only [greatestTenPower] at *; omega

/-- The double for `significand · 10 ^ exponent`, rounded twice; `none` if it is beyond the greatest one. -/
def ofDecimal (significand : Nat) (exponent : Int) : Option Binary64 := do
  let x ← ofRatio significand 1
  if exponent < 0 then return divTenPower x (-exponent).toNat
  else if exponent.toNat ≤ greatestTenPower then mulMagnitude x (tenPower exponent.toNat)
  else if x.isZero then return x
  else none

end Binary64

end ScanDelta

import ScanDelta.Decimal.Shortest

/-!
# The text of a number

Whole numbers are written in decimal digits. A double is written with its shortest digits, positionally
while its leading digit stands between two given places, and in scientific notation outside of them.
-/

set_option autoImplicit false

namespace ScanDelta

/-- The decimal digits of a natural number, without leading zeros. -/
def natChars (n : Nat) : List Char := Nat.toDigits 10 n

def natText (n : Nat) : String := String.ofList (natChars n)

def intChars (n : Int) : List Char :=
  if n < 0 then '-' :: natChars n.natAbs else natChars n.natAbs

/-- Where positional notation begins and ends: the places of the leading digit, counted from the units. -/
structure Layout where
  leastPlace : Int
  greatestPlace : Int

/-- The place of the leading digit, counted from the units. -/
def Decimal.place (d : Decimal) : Int := (natChars d.digits).length - 1 + d.exponent

/-- Positional notation with at least one digit on either side of the point. -/
def Decimal.positional (d : Decimal) : List Char :=
  let ds := natChars d.digits
  if 0 ≤ d.exponent then ds ++ List.replicate d.exponent.toNat '0' ++ ['.', '0']
  else
    let places := (-d.exponent).toNat
    if places < ds.length then ds.take (ds.length - places) ++ '.' :: ds.drop (ds.length - places)
    else ['0', '.'] ++ List.replicate (places - ds.length) '0' ++ ds

/-- One digit, the others after a point, and the exponent with its sign. -/
def Decimal.scientific (d : Decimal) : List Char :=
  let mark := if d.place < 0 then ['e', '-'] else ['e', '+']
  (match natChars d.digits with
    | [] => []
    | [c] => [c]
    | c :: cs => c :: '.' :: cs) ++ mark ++ natChars d.place.natAbs

def Decimal.chars (l : Layout) (d : Decimal) : List Char :=
  if l.leastPlace ≤ d.place && d.place ≤ l.greatestPlace then d.positional else d.scientific

/-- The text of a double; a negative zero keeps its sign. -/
def Binary64.chars (l : Layout) (x : Binary64) : List Char :=
  if x.negative then '-' :: x.shortest.chars l else x.shortest.chars l

end ScanDelta

/-!
# Reading unsigned numbers

The text of a number of 64 bits without sign: digits, at least one, with a plus sign in front if any.
-/

set_option autoImplicit false

namespace ScanDelta.Unsigned

/-- The greatest number of 64 bits. -/
def greatest : Nat := Nat.pow 2 64 - 1

def digitsValue (cs : List Char) : Nat := cs.foldl (fun n c => n * 10 + (c.toNat - '0'.toNat)) 0

/-- The digits without the plus sign in front of them. -/
def unsignedDigits : List Char → List Char
  | '+' :: cs => cs
  | cs => cs

def parseChars? (cs : List Char) : Option Nat :=
  let ds := unsignedDigits cs
  if ds.isEmpty || !ds.all Char.isDigit then none
  else if digitsValue ds ≤ greatest then some (digitsValue ds) else none

def parse? (s : String) : Option Nat := parseChars? s.toList

end ScanDelta.Unsigned

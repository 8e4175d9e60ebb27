/-!
# Percent signs in addresses

A character that may not stand in a part of an address is written as its bytes, each a percent sign and two
hexadecimal digits. `percentEncode` takes the characters that a part adds to those that never stand in one;
`percentDecode` gives the bytes back.
-/

set_option autoImplicit false

namespace ScanDelta.Http

def percentByte (b : UInt8) : List Char :=
  ['%', (Nat.digitChar (b.toNat / 16)).toUpper, (Nat.digitChar (b.toNat % 16)).toUpper]

/-- The bytes of a character, each behind a percent sign. -/
def percentChar (c : Char) : List Char := (String.singleton c).toUTF8.toList.flatMap percentByte

/-- Is it one of the visible ASCII characters or the space? -/
def isPlainChar (c : Char) : Bool := 0x20 ≤ c.toNat && c.toNat < 0x7F

/-- Writes the characters of `special`, and those that are not plain, behind percent signs. -/
def percentEncode (special : List Char) (cs : List Char) : List Char :=
  cs.flatMap fun c => if isPlainChar c && !special.contains c then [c] else percentChar c

/-! ## What the parts of an address do not take -/

def fragmentSpecials : List Char := " \"<>\x60".toList

def pathSpecials : List Char := fragmentSpecials ++ "#?\x7b\x7d".toList

def credentialSpecials : List Char := pathSpecials ++ "/:;=@[\\]^|".toList

def querySpecials : List Char := " \"#<>".toList

/-! ## Reading -/

def hexValue? (c : Char) : Option Nat :=
  if c.isDigit then some (c.toNat - '0'.toNat)
  else if 'a' ≤ c.toLower && c.toLower ≤ 'f' then some (c.toLower.toNat - 'a'.toNat + 10)
  else none

/-- The bytes of a text; a percent sign without two hexadecimal digits behind it stands for itself. -/
def percentDecode : List Char → List UInt8
  | '%' :: a :: b :: cs =>
    match hexValue? a, hexValue? b with
    | some x, some y => UInt8.ofNat (x * 16 + y) :: percentDecode cs
    | _, _ => '%'.toNat.toUInt8 :: percentDecode (a :: b :: cs)
  | c :: cs => (String.singleton c).toUTF8.toList ++ percentDecode cs
  | [] => []
termination_by cs => cs.length

/-- The text of the bytes of a text, if they are the bytes of one. -/
def percentDecodeText? (cs : List Char) : Option (List Char) :=
  (String.fromUTF8? ⟨(percentDecode cs).toArray⟩).map String.toList

/-! ## Forms -/

def isFormChar (c : Char) : Bool := c.isAlphanum || c = '*' || c = '-' || c = '.' || c = '_'

def formChar (c : Char) : List Char :=
  if c = ' ' then ['+'] else if isFormChar c then [c] else percentChar c

/-- The form encoding: letters, digits and `*-._` as they are, and a plus sign for a space. -/
def formEncode (s : String) : List Char := s.toList.flatMap formChar

end ScanDelta.Http

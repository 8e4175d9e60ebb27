import ScanDelta.Text.Quoted

/-!
# Text for a terminal

`terminalSafe` writes the control characters to which a terminal may react as escapes: of the first 128
characters bell, backspace, form feed, escape and delete, and all from U+0080 to U+009F. Line feeds, carriage
returns and tabs stay as they are.
-/

set_option autoImplicit false

namespace ScanDelta.Text

/-- The control characters among the first 128 that become escapes. -/
def terminalControls : List Nat := [0x07, 0x08, 0x0C, 0x1B, 0x7F]

def twoHexDigits (n : Nat) : List Char := [Nat.digitChar (n / 16), Nat.digitChar (n % 16)]

def terminalChar (c : Char) : List Char :=
  if terminalControls.contains c.toNat then ['\\', 'x'] ++ twoHexDigits c.toNat
  else if 0x80 ≤ c.toNat && c.toNat ≤ 0x9F then ['\\', 'u', '\x7b'] ++ hexDigits c.toNat ++ ['\x7d']
  else [c]

def terminalSafe (s : String) : String := String.ofList (s.toList.flatMap terminalChar)

end ScanDelta.Text

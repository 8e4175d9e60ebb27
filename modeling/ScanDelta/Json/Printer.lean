import ScanDelta.Json.Basic

/-!
# JSON text

`Json.compact` writes a value without blanks, `Json.pretty` with every item and member on a line of its
own, indented by two spaces a level. Members are written in the order in which the object holds them.
Strings escape the quote, the backslash and the characters below U+0020, and nothing else.
-/

set_option autoImplicit false

namespace ScanDelta.Json

/-! ## Strings -/

def hexDigit (n : Nat) : Char := Nat.digitChar (n % 16)

def escapeChar (c : Char) : List Char :=
  if c = '"' then ['\\', '"']
  else if c = '\\' then ['\\', '\\']
  else if c.toNat = 0x08 then ['\\', 'b']
  else if c.toNat = 0x0C then ['\\', 'f']
  else if c = '\n' then ['\\', 'n']
  else if c = '\r' then ['\\', 'r']
  else if c = '\t' then ['\\', 't']
  else if c.toNat < 0x20 then ['\\', 'u', '0', '0', hexDigit (c.toNat / 16), hexDigit c.toNat]
  else [c]

/-- A string literal. -/
def literal (s : String) : String := String.ofList ('"' :: s.toList.flatMap escapeChar ++ ['"'])

/-! ## Values on one line -/

mutual

def compact : Json → String
  | .null => "null"
  | .bool b => if b then "true" else "false"
  | .num n => n.text
  | .str s => literal s
  | .arr xs => "[" ++ compactItems xs ++ "]"
  | .obj ms => "\x7b" ++ compactMembers ms ++ "\x7d"
termination_by structural j => j

def compactItems : List Json → String
  | [] => ""
  | [x] => compact x
  | x :: y :: xs => compact x ++ "," ++ compactItems (y :: xs)
termination_by structural xs => xs

def compactMembers : List (String × Json) → String
  | [] => ""
  | [m] => compactMember m
  | m :: n :: ms => compactMember m ++ "," ++ compactMembers (n :: ms)
termination_by structural ms => ms

def compactMember : String × Json → String
  | (name, v) => literal name ++ ":" ++ compact v
termination_by structural m => m

end

/-! ## Values on several lines -/

/-- A line break and the indentation of a level. -/
def lineBreak (level : Nat) : String := String.ofList ('\n' :: List.replicate (2 * level) ' ')

mutual

def prettyAt (level : Nat) : Json → String
  | .null => "null"
  | .bool b => if b then "true" else "false"
  | .num n => n.text
  | .str s => literal s
  | .arr [] => "[]"
  | .arr (x :: xs) => "[" ++ prettyItems (level + 1) (x :: xs) ++ lineBreak level ++ "]"
  | .obj [] => "\x7b\x7d"
  | .obj (m :: ms) => "\x7b" ++ prettyMembers (level + 1) (m :: ms) ++ lineBreak level ++ "\x7d"
termination_by structural j => j

def prettyItems (level : Nat) : List Json → String
  | [] => ""
  | [x] => lineBreak level ++ prettyAt level x
  | x :: y :: xs => lineBreak level ++ prettyAt level x ++ "," ++ prettyItems level (y :: xs)
termination_by structural xs => xs

def prettyMembers (level : Nat) : List (String × Json) → String
  | [] => ""
  | [m] => lineBreak level ++ prettyMember level m
  | m :: n :: ms => lineBreak level ++ prettyMember level m ++ "," ++ prettyMembers level (n :: ms)
termination_by structural ms => ms

def prettyMember (level : Nat) : String × Json → String
  | (name, v) => literal name ++ ": " ++ prettyAt level v
termination_by structural m => m

end

def pretty (j : Json) : String := prettyAt 0 j

end ScanDelta.Json

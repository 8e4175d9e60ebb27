import ScanDelta.Json.Basic

/-!
# Reading JSON

`Json.parse` reads one value with nothing but blanks around it. Arrays and objects nest at most 127 deep.
Of two members with the same name the later one counts.

A number without fraction and exponent that fits in 64 bits stays whole, except `-0`. Any other number is
a double: the leading digits that fit in 64 bits make its significand, later ones are dropped.
-/

set_option autoImplicit false

namespace ScanDelta.Json

/-- Why a text is not JSON. -/
inductive ParseError where
  | endOfText
  | unexpected (c : Char)
  | invalidNumber
  | numberOutOfRange
  | invalidEscape
  | loneSurrogate
  | controlCharacter
  | tooDeep
  | trailingCharacters
  deriving DecidableEq, Repr

def ParseError.message : ParseError → String
  | .endOfText => "unexpected end of text"
  | .unexpected c => "unexpected character " ++ String.singleton c
  | .invalidNumber => "invalid number"
  | .numberOutOfRange => "number out of range"
  | .invalidEscape => "invalid escape"
  | .loneSurrogate => "lone surrogate in escape"
  | .controlCharacter => "control character in string"
  | .tooDeep => "nesting too deep"
  | .trailingCharacters => "trailing characters"

/-- A reader takes a text from its start and gives what it read and the rest of the text. -/
abbrev Reader (α : Type) := List Char → Except ParseError (α × List Char)

def isSpace (c : Char) : Bool := c = ' ' || c = '\n' || c = '\r' || c = '\t'

def skipSpace (cs : List Char) : List Char := cs.dropWhile isSpace

def unexpectedAt {α : Type} : List Char → Except ParseError α
  | [] => .error .endOfText
  | c :: _ => .error (.unexpected c)

/-- A fixed word. -/
def word (w : List Char) : Reader Unit := fun cs =>
  if w.isPrefixOf cs then .ok ((), cs.drop w.length) else unexpectedAt (cs.drop 1)

/-! ## Strings -/

def hexValue? (c : Char) : Option Nat :=
  if '0' ≤ c ∧ c ≤ '9' then some (c.toNat - '0'.toNat)
  else if 'a' ≤ c ∧ c ≤ 'f' then some (c.toNat - 'a'.toNat + 10)
  else if 'A' ≤ c ∧ c ≤ 'F' then some (c.toNat - 'A'.toNat + 10)
  else none

/-- Four hexadecimal digits. -/
def hexUnit : Reader Nat
  | a :: b :: c :: d :: cs =>
    match hexValue? a, hexValue? b, hexValue? c, hexValue? d with
    | some a, some b, some c, some d => .ok (((a * 16 + b) * 16 + c) * 16 + d, cs)
    | _, _, _, _ => .error .invalidEscape
  | _ => .error .endOfText

def isHighSurrogate (n : Nat) : Bool := 0xD800 ≤ n && n ≤ 0xDBFF
def isLowSurrogate (n : Nat) : Bool := 0xDC00 ≤ n && n ≤ 0xDFFF

/-- What follows `\u`: one unit, or the two units of a surrogate pair. -/
def unicodeEscape : Reader Char := fun cs => do
  let (high, cs) ← hexUnit cs
  if isHighSurrogate high then
    match cs with
    | '\\' :: 'u' :: cs =>
      let (low, cs) ← hexUnit cs
      if isLowSurrogate low then
        return (Char.ofNat (0x10000 + (high - 0xD800) * 0x400 + (low - 0xDC00)), cs)
      else throw .loneSurrogate
    | _ => throw .loneSurrogate
  else if isLowSurrogate high then throw .loneSurrogate
  else return (Char.ofNat high, cs)

/-- What follows a backslash. -/
def escapeSequence : Reader Char
  | '"' :: cs => .ok ('"', cs)
  | '\\' :: cs => .ok ('\\', cs)
  | '/' :: cs => .ok ('/', cs)
  | 'b' :: cs => .ok (Char.ofNat 0x08, cs)
  | 'f' :: cs => .ok (Char.ofNat 0x0C, cs)
  | 'n' :: cs => .ok ('\n', cs)
  | 'r' :: cs => .ok ('\r', cs)
  | 't' :: cs => .ok ('\t', cs)
  | 'u' :: cs => unicodeEscape cs
  | [] => .error .endOfText
  | _ => .error .invalidEscape

/-- The characters up to the closing quote, put in front of `acc` in reverse. Every step takes a
character, so a budget of as many steps as there are characters never runs out. -/
def stringBody : Nat → List Char → Reader String
  | 0, _, _ => .error .endOfText
  | _ + 1, _, [] => .error .endOfText
  | _ + 1, acc, '"' :: cs => .ok (String.ofList acc.reverse, cs)
  | n + 1, acc, '\\' :: cs =>
    match escapeSequence cs with
    | .ok (c, cs) => stringBody n (c :: acc) cs
    | .error e => .error e
  | n + 1, acc, c :: cs =>
    if c.toNat < 0x20 then .error .controlCharacter else stringBody n (c :: acc) cs

/-! ## Numbers -/

def digitValue (c : Char) : Nat := c.toNat - '0'.toNat

/-- Takes digits into the significand while it fits in 64 bits; gives it with the count of the digits
left out. -/
def absorb (significand : Nat) : List Char → Nat × Nat
  | [] => (significand, 0)
  | c :: cs =>
    let next := significand * 10 + digitValue c
    if next ≤ greatestNat then absorb next cs else (significand, cs.length + 1)

/-- The text of a number cut into its parts; an absent fraction or exponent is `none`. -/
structure NumberText where
  negative : Bool
  whole : List Char
  fraction : Option (List Char)
  exponent : Option (Bool × List Char)

def digitsValue (cs : List Char) : Nat := cs.foldl (fun n c => n * 10 + digitValue c) 0

/-- Digits, at least one. -/
def digits1 : Reader (List Char) := fun cs =>
  match cs.span Char.isDigit with
  | ([], rest) => if rest.isEmpty then .error .endOfText else .error .invalidNumber
  | (ds, rest) => .ok (ds, rest)

def fractionPart : Reader (Option (List Char))
  | '.' :: cs => do
    let (ds, cs) ← digits1 cs
    return (some ds, cs)
  | cs => .ok (none, cs)

def exponentPart : Reader (Option (Bool × List Char)) := fun cs =>
  match cs with
  | c :: rest =>
    if c = 'e' || c = 'E' then do
      let (negative, rest) := match rest with
        | '-' :: rest => (true, rest)
        | '+' :: rest => (false, rest)
        | rest => (false, rest)
      let (ds, rest) ← digits1 rest
      return (some (negative, ds), rest)
    else .ok (none, cs)
  | [] => .ok (none, [])

def numberText (negative : Bool) : Reader NumberText := fun cs => do
  let (whole, cs) ← digits1 cs
  if whole.head? = some '0' ∧ whole.length ≠ 1 then throw .invalidNumber
  let (fraction, cs) ← fractionPart cs
  let (exponent, cs) ← exponentPart cs
  return (⟨negative, whole, fraction, exponent⟩, cs)

/-- The number a text stands for. -/
def NumberText.number (t : NumberText) : Except ParseError Number :=
  let (whole, dropped) := absorb 0 t.whole
  let int : Int := if t.negative then -whole else whole
  if t.fraction.isNone ∧ t.exponent.isNone ∧ dropped = 0 ∧
      (t.negative → 0 < whole ∧ whole ≤ Nat.pow 2 63) then .ok (.int int)
  else
    let places := t.fraction.getD []
    let (significand, lost) := absorb whole places
    let start : Int := dropped - (places.length - lost : Nat)
    let power : Int := match t.exponent with
      | none => 0
      | some (true, ds) => -(digitsValue ds)
      | some (false, ds) => digitsValue ds
    match Binary64.ofDecimal significand (start + power) with
    | some x => .ok (.double (if t.negative then x.neg else x))
    | none => .error .numberOutOfRange

def number (negative : Bool) : Reader Json := fun cs => do
  let (t, cs) ← numberText negative cs
  return (.num (← t.number), cs)

/-! ## Values -/

/-- The items after the first one and the closing bracket. The budget bounds the items. -/
def itemsAfter (item : Reader Json) : Nat → List Json → Reader (List Json)
  | 0, _, _ => .error .endOfText
  | n + 1, acc, cs =>
    match skipSpace cs with
    | ']' :: cs => .ok (acc.reverse, cs)
    | ',' :: cs => do
      let (x, cs) ← item (skipSpace cs)
      itemsAfter item n (x :: acc) cs
    | cs => unexpectedAt cs

def items (item : Reader Json) (budget : Nat) : Reader (List Json) := fun cs =>
  match skipSpace cs with
  | ']' :: cs => .ok ([], cs)
  | cs => do
    let (x, cs) ← item cs
    itemsAfter item budget [x] cs

/-- A name, a colon and a value. -/
def member (item : Reader Json) (budget : Nat) : Reader (String × Json)
  | '"' :: cs => do
    let (name, cs) ← stringBody budget [] cs
    match skipSpace cs with
    | ':' :: cs => do
      let (x, cs) ← item (skipSpace cs)
      return ((name, x), cs)
    | cs => unexpectedAt cs
  | cs => unexpectedAt cs

def membersAfter (item : Reader Json) (budget : Nat) :
    Nat → List (String × Json) → Reader (List (String × Json))
  | 0, _, _ => .error .endOfText
  | n + 1, acc, cs =>
    match skipSpace cs with
    | '\x7d' :: cs => .ok (acc.reverse, cs)
    | ',' :: cs => do
      let (m, cs) ← member item budget (skipSpace cs)
      membersAfter item budget n (m :: acc) cs
    | cs => unexpectedAt cs

def members (item : Reader Json) (budget : Nat) : Reader (List (String × Json)) := fun cs =>
  match skipSpace cs with
  | '\x7d' :: cs => .ok ([], cs)
  | cs => do
    let (m, cs) ← member item budget cs
    membersAfter item budget budget [m] cs

/-- Reads the inside of an array or object with a reader for values one level further down. -/
def nested (inner : Option (Reader Json)) (budget : Nat) (isArray : Bool) : Reader Json := fun cs =>
  match inner with
  | none => .error .tooDeep
  | some item =>
    if isArray then do
      let (xs, cs) ← items item budget cs
      return (.arr xs, cs)
    else do
      let (ms, cs) ← members item budget cs
      return (ofMembers ms, cs)

/-- A value that starts here; `inner` reads the values inside it. -/
def valueWith (inner : Option (Reader Json)) (budget : Nat) : Reader Json
  | 'n' :: cs => do
    let ((), cs) ← word ['u', 'l', 'l'] cs
    return (.null, cs)
  | 't' :: cs => do
    let ((), cs) ← word ['r', 'u', 'e'] cs
    return (.bool true, cs)
  | 'f' :: cs => do
    let ((), cs) ← word ['a', 'l', 's', 'e'] cs
    return (.bool false, cs)
  | '"' :: cs => do
    let (s, cs) ← stringBody budget [] cs
    return (.str s, cs)
  | '[' :: cs => nested inner budget true cs
  | '\x7b' :: cs => nested inner budget false cs
  | '-' :: cs => number true cs
  | c :: cs => if c.isDigit then number false (c :: cs) else .error (.unexpected c)
  | [] => .error .endOfText

/-- A value in which arrays and objects nest at most `depth` deep. -/
def value (budget : Nat) : Nat → Reader Json
  | 0 => valueWith none budget
  | depth + 1 => valueWith (some (value budget depth)) budget

/-- How deep arrays and objects may nest. -/
def greatestDepth : Nat := 127

def parseChars (cs : List Char) : Except ParseError Json :=
  match value (cs.length + 1) greatestDepth (skipSpace cs) with
  | .error e => .error e
  | .ok (v, rest) => if (skipSpace rest).isEmpty then .ok v else .error .trailingCharacters

def parse (text : String) : Except ParseError Json := parseChars text.toList

end ScanDelta.Json

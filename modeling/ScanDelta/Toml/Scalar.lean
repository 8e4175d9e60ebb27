import ScanDelta.Decimal.Binary64
import ScanDelta.Text.Split
import ScanDelta.Toml.Basic

/-!
# Numbers, dates and times

The values of a document that are written without quotes. `Scalar.read` takes the text of one; floats,
dates and times keep their text.
-/

set_option autoImplicit false

namespace ScanDelta.Toml.Scalar

/-! ## Numbers -/

/-- Digits with single underscores between them, without the underscores. -/
def groups? (isDigit : Char → Bool) (cs : List Char) : Option (List Char) :=
  let parts := Text.splitOn '_' cs
  if parts.all fun p => !p.isEmpty && p.all isDigit then some parts.flatten else none

def digitValue (c : Char) : Nat :=
  if c.isDigit then c.toNat - '0'.toNat else c.toLower.toNat - 'a'.toNat + 10

def valueIn (base : Nat) (ds : List Char) : Nat := ds.foldl (fun n c => n * base + digitValue c) 0

def isHexDigit (c : Char) : Bool := c.isDigit || ('a' ≤ c.toLower && c.toLower ≤ 'f')
def isOctalDigit (c : Char) : Bool := '0' ≤ c && c ≤ '7'
def isBinaryDigit (c : Char) : Bool := c = '0' || c = '1'

/-- The sign in front, if any, and what follows it. -/
def signed : List Char → Bool × List Char
  | '-' :: cs => (true, cs)
  | '+' :: cs => (false, cs)
  | cs => (false, cs)

/-- A decimal number without a leading zero. -/
def whole? (cs : List Char) : Option Nat := do
  let ds ← groups? Char.isDigit cs
  if ds.head? = some '0' ∧ cs.length ≠ 1 then none else some (valueIn 10 ds)

def natural? : List Char → Option Nat
  | '0' :: 'x' :: cs => (groups? isHexDigit cs).map (valueIn 16)
  | '0' :: 'o' :: cs => (groups? isOctalDigit cs).map (valueIn 8)
  | '0' :: 'b' :: cs => (groups? isBinaryDigit cs).map (valueIn 2)
  | _ => none

/-- Integers have 128 bits, with or without sign. -/
def integer? (cs : List Char) : Option Int := do
  let n : Int ← match natural? cs with
    | some n => some n
    | none =>
      let (negative, cs) := signed cs
      (whole? cs).map fun n => if negative then -(n : Int) else n
  if -(Nat.pow 2 127 : Int) ≤ n ∧ n < (Nat.pow 2 128 : Int) then some n else none

def exponent? (cs : List Char) : Option Int :=
  let (negative, ds) := signed cs
  (groups? Char.isDigit ds).map fun ds => if negative then -(valueIn 10 ds : Int) else valueIn 10 ds

/-- The part before the exponent mark and the part after it. -/
def cutExponent (cs : List Char) : List Char × Option (List Char) :=
  match cs.span fun c => c ≠ 'e' && c ≠ 'E' with
  | (before, _ :: after) => (before, some after)
  | (before, []) => (before, none)

/-- The number of a float's text without its sign, as `digits · 10 ^ exponent`. -/
def decimal? (cs : List Char) : Option (Nat × Int) := do
  let (mantissa, mark) := cutExponent cs
  let shift ← match mark with
    | some e => exponent? e
    | none => some 0
  match Text.splitFirst '.' mantissa with
  | some (w, f) =>
    let whole ← whole? w
    let ds ← groups? Char.isDigit f
    return (whole * Nat.pow 10 ds.length + valueIn 10 ds, shift - ds.length)
  | none => if mark.isSome then (whole? mantissa).map fun whole => (whole, shift) else none

def isNamedFloat (cs : List Char) : Bool := cs = "inf".toList || cs = "nan".toList

/-- Is it the text of a float? -/
def isFloat (cs : List Char) : Bool :=
  let (_, cs) := signed cs
  isNamedFloat cs || (decimal? cs).isSome

/-- Is the number of a float's text within the range of the doubles? -/
def inRange (cs : List Char) : Bool :=
  match decimal? (signed cs).2 with
  | some (digits, exponent) => (Binary64.nearest digits exponent).isSome
  | none => true

/-! ## Dates and times -/

/-- A number of exactly so many digits, within bounds. -/
def field? (width least greatest : Nat) (cs : List Char) : Option (Nat × List Char) :=
  let ds := cs.take width
  let n := valueIn 10 ds
  if ds.length = width && ds.all Char.isDigit && least ≤ n && n ≤ greatest then some (n, cs.drop width)
  else none

def skip? (c : Char) : List Char → Option (List Char)
  | d :: cs => if d = c then some cs else none
  | [] => none

def isLeap (year : Nat) : Bool := year % 4 = 0 && (year % 100 ≠ 0 || year % 400 = 0)

def daysIn (year month : Nat) : Nat :=
  if month = 2 then (if isLeap year then 29 else 28)
  else if month = 4 || month = 6 || month = 9 || month = 11 then 30 else 31

def date? (cs : List Char) : Option (List Char) := do
  let (year, cs) ← field? 4 0 9999 cs
  let (month, cs) ← field? 2 1 12 (← skip? '-' cs)
  let (_, cs) ← field? 2 1 (daysIn year month) (← skip? '-' cs)
  return cs

/-- Digits of a fraction of a second, if there is one. -/
def fraction? : List Char → Option (List Char)
  | '.' :: cs => if (cs.takeWhile Char.isDigit).isEmpty then none else some (cs.dropWhile Char.isDigit)
  | cs => some cs

/-- Hours and minutes, with seconds or without. -/
def time? (cs : List Char) : Option (List Char) := do
  let (_, cs) ← field? 2 0 23 cs
  let (_, cs) ← field? 2 0 59 (← skip? ':' cs)
  match cs with
  | ':' :: cs =>
    let (_, cs) ← field? 2 0 60 cs
    fraction? cs
  | cs => some cs

/-- The offset from universal time, if there is one. -/
def offset? : List Char → Option (List Char)
  | [] => some []
  | c :: cs =>
    if c = 'Z' || c = 'z' then some cs
    else if c = '+' || c = '-' then do
      let (_, cs) ← field? 2 0 23 cs
      let (_, cs) ← field? 2 0 59 (← skip? ':' cs)
      return cs
    else none

def isDatetime (cs : List Char) : Bool :=
  match date? cs with
  | some [] => true
  | some (c :: rest) =>
    (c = 'T' || c = 't' || c = ' ') && ((time? rest).bind offset?).any List.isEmpty
  | none => (time? cs).any List.isEmpty

/-! ## The text of a value -/

def isScalarChar (c : Char) : Bool :=
  c.isAlphanum || c = '+' || c = '-' || c = '.' || c = ':' || c = '_'

/-- The text of a value and what follows it. A date may have its time behind a space. -/
def span (cs : List Char) : List Char × List Char :=
  let (word, rest) := cs.span isScalarChar
  match rest with
  | ' ' :: c :: more =>
    if c.isDigit && date? word = some [] then
      let (time, rest) := (c :: more).span isScalarChar
      (word ++ ' ' :: time, rest)
    else (word, rest)
  | _ => (word, rest)

def read (cs : List Char) : Except ParseError Toml :=
  if cs = "true".toList then .ok (.boolean true)
  else if cs = "false".toList then .ok (.boolean false)
  else
    match integer? cs with
    | some n => .ok (.integer n)
    | none =>
      if isFloat cs then
        if inRange cs then .ok (.float (String.ofList cs)) else .error (.outOfRange (String.ofList cs))
      else if isDatetime cs then .ok (.datetime (String.ofList cs))
      else .error (.invalidValue (String.ofList cs))

end ScanDelta.Toml.Scalar

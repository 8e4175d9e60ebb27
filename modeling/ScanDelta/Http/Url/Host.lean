import ScanDelta.Decimal.Layout
import ScanDelta.Http.Url.Domain
import ScanDelta.Http.Url.Percent
import ScanDelta.Text.Quoted

/-!
# Hosts

What stands between the credentials and the port of an address: the name of a host, its number in one of two
forms, or any text, if the scheme does not say what hosts are.

* `Host.parse` reads a host of a scheme that names hosts, `Host.parseFree` one of any other scheme;
* `Host.chars` writes it.
-/

set_option autoImplicit false

namespace ScanDelta.Http

/-- Why a text is no address. -/
inductive Url.ParseError where
  /-- The text does not begin with a scheme. -/
  | noScheme
  | emptyHost
  | invalidDomain
  | invalidPort
  | invalidIpv4
  | invalidIpv6
  /-- A character that no host holds. -/
  | invalidHostCharacter
  deriving DecidableEq, Repr

def Url.ParseError.message : Url.ParseError → String
  | .noScheme => "relative URL without a base"
  | .emptyHost => "empty host"
  | .invalidDomain => "invalid international domain name"
  | .invalidPort => "invalid port number"
  | .invalidIpv4 => "invalid IPv4 address"
  | .invalidIpv6 => "invalid IPv6 address"
  | .invalidHostCharacter => "invalid domain character"

inductive Host where
  /-- A name in ASCII characters. -/
  | domain (name : List Char)
  /-- A number of 32 bits. -/
  | ipv4 (number : Nat)
  /-- Eight numbers of 16 bits. -/
  | ipv6 (pieces : List Nat)
  /-- A text without meaning here. -/
  | free (text : List Char)
  deriving DecidableEq, Repr

namespace Host

/-! ## Numbers of 32 bits -/

/-- A part of a number with points, in base 8, 10 or 16 as its start tells. -/
def ipv4Part? (cs : List Char) : Option Nat :=
  let value (base : Nat) (ds : List Char) : Option Nat :=
    ds.foldlM (fun n c => (hexValue? c).bind fun d => if d < base then some (n * base + d) else none) 0
  match cs with
  | [] => none
  | '0' :: 'x' :: ds => value 16 ds
  | '0' :: c :: ds => value 8 (c :: ds)
  | ds => value 10 ds

/-- The parts between the points; a point at the end does not count. -/
def ipv4Parts (cs : List Char) : List (List Char) :=
  match (Text.splitOn '.' cs).reverse with
  | [] :: (p :: ps) => (p :: ps).reverse
  | ps => ps.reverse

/-- A name whose last part is a number is no name. -/
def endsInNumber (cs : List Char) : Bool :=
  (ipv4Parts cs).getLast?.any fun p => (!p.isEmpty && p.all Char.isDigit) || (ipv4Part? p).isSome

/-- The number of some parts, of which the last one counts for all that are missing. -/
def ipv4Number? (numbers : List Nat) : Option Nat :=
  let last := numbers.getLast?.getD 0
  let firsts := numbers.dropLast
  if numbers.length ≤ 4 && firsts.all (· < 256) && last < Nat.pow 256 (5 - numbers.length) then
    some (firsts.zipIdx.foldl (fun total (n, i) => total + n * Nat.pow 256 (3 - i)) last)
  else none

def parseIpv4? (cs : List Char) : Option Nat := ((ipv4Parts cs).mapM ipv4Part?).bind ipv4Number?

def ipv4Chars (n : Nat) : List Char :=
  Text.joinWith '.' ([n / Nat.pow 256 3, n / Nat.pow 256 2 % 256, n / 256 % 256, n % 256].map natChars)

/-! ## Numbers of 128 bits -/

/-- One to four hexadecimal digits. -/
def ipv6Piece? (cs : List Char) : Option Nat :=
  if cs.isEmpty || 4 < cs.length then none
  else cs.foldlM (fun n c => (hexValue? c).map (n * 16 + ·)) 0

/-- A number below 256 in decimal digits without leading zeros. -/
def octet? (cs : List Char) : Option Nat :=
  if cs.isEmpty || 3 < cs.length || !cs.all Char.isDigit || (cs.head? = some '0' && cs.length ≠ 1) then none
  else
    let n := cs.foldl (fun n c => n * 10 + (c.toNat - '0'.toNat)) 0
    if n < 256 then some n else none

/-- Two pieces written as four decimal numbers with points between them. -/
def dottedPieces? (cs : List Char) : Option (List Nat) :=
  match (Text.splitOn '.' cs).mapM octet? with
  | some [a, b, c, d] => some [a * 256 + b, c * 256 + d]
  | _ => none

/-- Pieces with colons between them; the last two may be written with points if `dotted`. -/
def ipv6Pieces? (dotted : Bool) (cs : List Char) : Option (List Nat) :=
  if cs.isEmpty then some []
  else
    let parts := Text.splitOn ':' cs
    match parts.dropLast.mapM ipv6Piece?, parts.getLast? with
    | some ns, some last =>
      if dotted && last.contains '.' then (dottedPieces? last).map (ns ++ ·)
      else (ipv6Piece? last).map fun n => ns ++ [n]
    | _, _ => none

/-- The text before and after the first two colons in a row. -/
def cutDoubleColon : List Char → Option (List Char × List Char)
  | ':' :: ':' :: cs => some ([], cs)
  | c :: cs => (cutDoubleColon cs).map fun (a, b) => (c :: a, b)
  | [] => none

/-- Eight pieces; two colons in a row stand for one or more that are zero. -/
def parseIpv6? (cs : List Char) : Option (List Nat) := do
  match cutDoubleColon cs with
  | none =>
    let ns ← ipv6Pieces? true cs
    if ns.length = 8 then some ns else none
  | some (before, after) =>
    let ms ← ipv6Pieces? false before
    let ns ← ipv6Pieces? true after
    if ms.length + ns.length < 8 then some (ms ++ List.replicate (8 - ms.length - ns.length) 0 ++ ns) else none

/-- How many zeros a list begins with. -/
def leadingZeros (ns : List Nat) : Nat := (ns.takeWhile (· = 0)).length

/-- Place and length of the first longest run of zeros. -/
def longestZeros (ns : List Nat) : Nat × Nat :=
  (List.range ns.length).foldl
    (fun best i => if best.2 < leadingZeros (ns.drop i) then (i, leadingZeros (ns.drop i)) else best) (0, 0)

/-- The pieces in hexadecimal digits; the first longest run of two or more zeros is left out. -/
def ipv6Chars (ns : List Nat) : List Char :=
  let written (ms : List Nat) := Text.joinWith ':' (ms.map Text.hexDigits)
  let (start, length) := longestZeros ns
  if length < 2 then written ns else written (ns.take start) ++ [':', ':'] ++ written (ns.drop (start + length))

/-! ## Reading and writing -/

/-- What follows an opening bracket: a number and the closing bracket. -/
def parseBracketed (cs : List Char) : Except Url.ParseError Host :=
  match cs.getLast?, parseIpv6? cs.dropLast with
  | some ']', some ns => .ok (.ipv6 ns)
  | _, _ => .error .invalidIpv6

/-- A host of a scheme that names hosts. -/
def parse : List Char → Except Url.ParseError Host
  | '[' :: cs => parseBracketed cs
  | cs =>
    match (percentDecodeText? cs).bind Url.Domain.toAscii? with
    | none => .error .invalidDomain
    | some [] => .error .emptyHost
    | some name =>
      if endsInNumber name then
        match parseIpv4? name with
        | some n => .ok (.ipv4 n)
        | none => .error .invalidIpv4
      else .ok (.domain name)

/-- The characters that stand in no host at all. -/
def isForbidden (c : Char) : Bool :=
  "\t\n\r #/:<>?@[\\]^|".toList.contains c || c.toNat = 0

/-- A host of a scheme that does not say what hosts are. -/
def parseFree : List Char → Except Url.ParseError Host
  | '[' :: cs => parseBracketed cs
  | cs => if cs.any isForbidden then .error .invalidHostCharacter else .ok (.free (percentEncode [] cs))

def isEmpty : Host → Bool
  | free [] => true
  | _ => false

def chars : Host → List Char
  | domain name => name
  | ipv4 n => ipv4Chars n
  | ipv6 ns => '[' :: ipv6Chars ns ++ [']']
  | free text => text

end Host

end ScanDelta.Http

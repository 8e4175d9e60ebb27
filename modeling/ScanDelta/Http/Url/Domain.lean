import ScanDelta.Http.Url.DomainCharacter
import ScanDelta.Http.Url.Punycode
import ScanDelta.Text.Composition
import ScanDelta.Text.Direction
import ScanDelta.Text.Joining
import ScanDelta.Text.Mark

/-!
# Domains

The name of a host is made of labels with points between them. `Domain.toAscii?` writes it in ASCII: its
characters are mapped and composed, and a label with other characters than those of ASCII is written in
Punycode behind `xn--`. A label that is so written already is read and has to follow the same rules.

`Domain.isValidLabel` and `Domain.isBidiLabel` hold these rules.
-/

set_option autoImplicit false

namespace ScanDelta.Http.Url.Domain

open Text Punycode

/-! ## Labels -/

/-- The start of a label in Punycode. -/
def mark : List Char := "xn--".toList

/-- The mapped characters of a name in the normal form C; none if one of them is refused. Those of ASCII are
only written in lower case. -/
def normal? (cs : List Char) : Option (List Char) :=
  if cs.all isAscii then some (cs.map Char.toLower)
  else (cs.mapM DomainCharacter.mapped?).map fun css => compose css.flatten

/-- What joins or separates letters without showing. -/
def isJoiner (c : Char) : Bool := c.toNat = 0x200C || c.toNat = 0x200D

/-- May a joiner stand behind these characters, the nearest first, and in front of those? It may behind a
virama, and one that separates may also between two letters that would join. -/
def joinerFits (c : Char) (before after : List Char) : Bool :=
  (before.head?.any fun b => combiningClass b = viramaClass) ||
    (c.toNat = 0x200C && (before.dropWhile isTransparent).head?.any joinsNext &&
      (after.dropWhile isTransparent).head?.any joinsPrevious)

/-- Does every joiner fit in its place? `before` are the characters passed, the last one first. -/
def joinersFit (before : List Char) : List Char → Bool
  | [] => true
  | c :: cs => (!isJoiner c || joinerFits c before cs) && joinersFit (c :: before) cs

/-- Is it a label by itself: no mark in front, and every joiner in place? -/
def isValidLabel (cs : List Char) : Bool := !cs.head?.any isMark && joinersFit [] cs

/-- The characters of a label: those that its Punycode stands for, if it is so written. -/
def readLabel? (cs : List Char) : Option (List Char) :=
  if mark.isPrefixOf cs then
    match decode? (cs.drop mark.length) with
    | some ds => if normal? ds = some ds && !ds.all isAscii then some ds else none
    | none => none
  else some cs

def writeLabel? (cs : List Char) : Option (List Char) :=
  if cs.all isAscii then some cs else (encode? cs).map (mark ++ ·)

/-! ## Writing directions -/

/-- Is it a character of a script written from right to left? No ASCII character is. -/
def isRightToLeft (c : Char) : Bool :=
  if isAscii c then false
  else
    match Direction.of c with
    | .rightToLeft | .arabicLetter | .arabicNumber => true
    | _ => false

/-- The directions that labels of either direction may hold. -/
def sharedDirections : List Direction :=
  [.europeanNumber, .europeanSeparator, .commonSeparator, .europeanTerminator, .otherNeutral, .boundaryNeutral,
    .nonspacing]

/-- The direction of the last character that is not a nonspacing mark. -/
def lastDirection? (ds : List Direction) : Option Direction := (ds.reverse.dropWhile (· = .nonspacing)).head?

/-- May the label stand in a name that has labels written from right to left? -/
def isBidiLabel (cs : List Char) : Bool :=
  let ds := cs.map Direction.of
  match ds.head? with
  | none => true
  | some .leftToRight =>
    (ds.all fun d => d = .leftToRight || sharedDirections.contains d) &&
      (lastDirection? ds).any fun d => d = .leftToRight || d = .europeanNumber
  | some .rightToLeft | some .arabicLetter =>
    (ds.all fun d => d = .rightToLeft || d = .arabicLetter || d = .arabicNumber || sharedDirections.contains d) &&
      ((lastDirection? ds).any fun d =>
        d = .rightToLeft || d = .arabicLetter || d = .europeanNumber || d = .arabicNumber) &&
      !(ds.contains .europeanNumber && ds.contains .arabicNumber)
  | _ => false

/-! ## Names -/

/-- The ASCII characters that no name of a host holds. -/
def isForbidden (c : Char) : Bool :=
  c.toNat ≤ 0x20 || c.toNat = 0x7F || "%#/:<>?@[\\]^|".toList.contains c

/-- The name in ASCII letters, if all its labels follow the rules. -/
def toAscii? (cs : List Char) : Option (List Char) := do
  let mapped ← normal? cs
  let labels ← (splitOn '.' mapped).mapM readLabel?
  if labels.all isValidLabel && (!labels.any (·.any isRightToLeft) || labels.all isBidiLabel) &&
      !labels.any (·.any isForbidden) then
    return joinWith '.' (← labels.mapM writeLabel?)
  else none

end ScanDelta.Http.Url.Domain

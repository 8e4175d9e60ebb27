import ScanDelta.Text.Blank
import ScanDelta.Text.Split

/-!
# Tables written as text

The data of a character property is kept as a text: rows between blanks and line breaks, a row being numbers
in hexadecimal digits with points between them.

* `Table.rows` : the rows of a text;
* `Table.ranges` : rows of one number or two as ranges of characters;
* `Table.holds` : is a character in one of the ranges?
-/

set_option autoImplicit false

namespace ScanDelta.Text.Table

/-- The value of a digit from `0` to `F`. -/
def digitValue (c : Char) : Nat := if c.isDigit then c.toNat - '0'.toNat else c.toNat - 'A'.toNat + 10

def number (cs : List Char) : Nat := cs.foldl (fun n c => n * 16 + digitValue c) 0

def row (cs : List Char) : List Nat := (splitOn '.' cs).map number

def rows (text : String) : List (List Nat) :=
  (text.splitOn "\n").flatMap fun line => (words line.toList).map row

/-- A row as a range, both ends included. -/
def range? : List Nat → Option (Nat × Nat)
  | [a] => some (a, a)
  | [a, b] => some (a, b)
  | _ => none

def ranges (text : String) : List (Nat × Nat) := (rows text).filterMap range?

def holds (ranges : List (Nat × Nat)) (c : Char) : Bool :=
  ranges.any fun (first, last) => first ≤ c.toNat && c.toNat ≤ last

end ScanDelta.Text.Table

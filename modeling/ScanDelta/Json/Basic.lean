import ScanDelta.Decimal.Layout

/-!
# JSON values

An object keeps its members in increasing order of their names, each name once; `Json.ofMembers` builds
one from members in any order, of two with the same name keeping the later one. The readers for loosely
typed records (`get?`, `member?`, `list`, `text?`, `firstText?`) take any value and find nothing in one
of another shape.
-/

set_option autoImplicit false

namespace ScanDelta

/-- A whole number that fits in 64 bits, signed or unsigned, or a double. -/
inductive Number where
  | int (value : Int)
  | double (value : Binary64)
  deriving DecidableEq, Repr

/-- Doubles are positional from five places after the point to sixteen before it. -/
def Number.layout : Layout := ⟨-5, 15⟩

def Number.text : Number → String
  | .int n => String.ofList (intChars n)
  | .double x => String.ofList (x.chars Number.layout)

inductive Json where
  | null
  | bool (value : Bool)
  | num (value : Number)
  | str (value : String)
  | arr (items : List Json)
  | obj (members : List (String × Json))
  deriving Repr, BEq, Inhabited

namespace Json

def nat (n : Nat) : Json := .num (.int n)

/-- The text `s`, or null if there is none. -/
def optStr (s : Option String) : Json := s.elim .null .str

/-! ## Objects -/

/-- Puts a member where its name belongs, in place of one with the same name. -/
def put (name : String) (value : Json) : List (String × Json) → List (String × Json)
  | [] => [(name, value)]
  | m :: ms =>
    if name < m.1 then (name, value) :: m :: ms
    else if name = m.1 then (name, value) :: ms
    else m :: put name value ms

/-- The object of these members. -/
def ofMembers (ms : List (String × Json)) : Json :=
  .obj (ms.foldl (fun acc m => put m.1 m.2 acc) [])

/-- The member of an object with this name. -/
def get? (name : String) : Json → Option Json
  | .obj ms => (ms.find? fun m => m.1 = name).map (·.2)
  | _ => none

def getOrNull (name : String) (j : Json) : Json := (j.get? name).getD .null

/-! ## Loosely typed records -/

def isNull : Json → Bool
  | .null => true
  | _ => false

def str? : Json → Option String
  | .str s => some s
  | _ => none

def items? : Json → Option (List Json)
  | .arr xs => some xs
  | _ => none

/-- A member that is not null. -/
def member? (name : String) (j : Json) : Option Json := (j.get? name).filter fun v => !v.isNull

/-- The items of the array that is the member of this name; none if there is no such array. -/
def list (name : String) (j : Json) : List Json := ((j.get? name).bind items?).getD []

/-- A usable text: a string that is not empty, or the text of a number. -/
def text? : Json → Option String
  | .str s => if s.isEmpty then none else some s
  | .num n => some n.text
  | _ => none

def textAt? (name : String) (j : Json) : Option String := (j.get? name).bind text?

/-- The first usable text among the members of these names. -/
def firstText? (names : List String) (j : Json) : Option String := names.findSome? fun n => j.textAt? n

/-- The greatest unsigned number of 64 bits. -/
def greatestNat : Nat := Nat.pow 2 64 - 1

/-- The value of a whole number in the unsigned 64-bit range. -/
def nat? : Json → Option Nat
  | .num (.int n) => if 0 ≤ n ∧ n ≤ greatestNat then some n.toNat else none
  | _ => none

end Json

end ScanDelta

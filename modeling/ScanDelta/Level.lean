import ScanDelta.Text.Blank
import ScanDelta.Text.Lowercase

/-!
# Alert levels

The four levels in order of severity. `Level.parse?` reads a name in any letter case with blanks around
it; `Level.normalize` takes whatever is not a name for a warning.
-/

set_option autoImplicit false

namespace ScanDelta

inductive Level where
  | none
  | note
  | warning
  | error
  deriving DecidableEq, Repr

namespace Level

def all : List Level := [none, note, warning, error]

def name : Level → String
  | none => "none"
  | note => "note"
  | warning => "warning"
  | error => "error"

/-- The name as it stands in headings. -/
def title : Level → String
  | none => "None"
  | note => "Note"
  | warning => "Warning"
  | error => "Error"

def rank : Level → Nat
  | none => 0
  | note => 1
  | warning => 2
  | error => 3

/-- Is the level at or above the threshold? -/
def meets (l threshold : Level) : Bool := threshold.rank ≤ l.rank

def max (a b : Level) : Level := if a.rank ≤ b.rank then b else a

/-- The highest of some levels. -/
def highest : List Level → Option Level
  | [] => Option.none
  | l :: ls => some (ls.foldl max l)

/-- The level of this name, in any letter case and with blanks around it. -/
def parse? (raw : String) : Option Level :=
  let s := Text.lowercase (Text.trim raw)
  all.find? fun l => l.name = s

/-- The level of this name; a warning if there is no name or no such level. -/
def normalize (raw : Option String) : Level := (raw.bind parse?).getD warning

/-- What is said of a text that is no level. -/
def unknown (raw : String) : String :=
  "unknown level '" ++ raw ++ "' (expected none, note, warning or error)"

end Level

end ScanDelta

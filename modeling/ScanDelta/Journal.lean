import ScanDelta.Files.Disk
import ScanDelta.Trace

/-!
# The diagnostic log

A `Journal` appends lines to a file that is emptied when it is opened. Each line carries a time stamp. A log
that could not be opened is disabled, and no failure to write ever shows.
-/

set_option autoImplicit false

namespace ScanDelta

/-- The log of a run; disabled if it has no file. -/
structure Journal where
  path : Option String
  deriving DecidableEq, Repr

namespace Journal

def disabled : Journal := ⟨none⟩

/-- The first line of a fresh log. -/
def header : String := "alertdiff log (truncated for new run)"

/-- A line with its time stamp. -/
def stamped (stamp text : String) : String := stamp ++ " " ++ text ++ "\n"

/-- Empties the file, in a directory made if need be, and writes the first line. The log is disabled, and
the console warned, if that fails. -/
def openAt (stamp : String) (d : Disk) (p : String) : Disk × Traced Note Journal :=
  match d.writeWithParent p (stamped stamp header) with
  | (d, .ok ()) => (d, pure ⟨some p⟩)
  | (d, .error e) => (d, do
      warn ("Could not open diagnostic log " ++ p ++ ": " ++ e.message)
      return disabled)

/-- Adds a line. -/
def append (j : Journal) (stamp : String) (d : Disk) (text : String) : Disk :=
  match j.path with
  | none => d
  | some p =>
    match d.append p (stamped stamp text) with
    | .ok d => d
    | .error _ => d

/-- Adds the lines among some notes, in order. -/
def appendAll (j : Journal) (stamp : String) (d : Disk) (notes : List Note) : Disk :=
  (notes.filterMap Note.line?).foldl (j.append stamp) d

end Journal

end ScanDelta

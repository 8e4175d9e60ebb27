import ScanDelta.Files.Disk

/-!
# Searching a directory

`Node.regularFiles` lists the regular files of a tree at any depth, links left aside, and `Disk.search` the
paths of the scan files below a directory, name by name in increasing order. The path `-` stands for the
standard input, below which there are no files.
-/

set_option autoImplicit false

namespace ScanDelta

namespace Node

mutual

/-- Where the regular files at or below a node are, seen from it. -/
def regularFiles : Node → List Location
  | .file _ => [[]]
  | .dir es => regularFilesIn es
  | .link _ => []
termination_by structural n => n

def regularFilesIn : List (String × Node) → List Location
  | [] => []
  | e :: es => regularFilesAt e ++ regularFilesIn es
termination_by structural es => es

def regularFilesAt : String × Node → List Location
  | (name, n) => (regularFiles n).map (name :: ·)
termination_by structural e => e

end

end Node

namespace Location

/-- In increasing order, name by name. -/
def sorted (ls : List Location) : List Location := ls.mergeSort fun a b => !decide (b < a)

/-- Is the extension of the last name `sarif`? -/
def isSarif (l : Location) : Bool :=
  match l.getLast? with
  | some name => Path.extension? name.toList = some "sarif".toList
  | none => false

/-- The path of a location below a directory. -/
def under (directory : String) (l : Location) : String := Path.join directory (Text.join "/" l)

end Location

/-- The regular files below the directory at the end of a path, in increasing order. -/
def Disk.filesUnder (d : Disk) (p : String) : List Location :=
  if Path.isStandardInput p then [] else Location.sorted (((d.node? p).map Node.regularFiles).getD [])

/-- The scan files below a directory, in increasing order of their names from the directory down. -/
def Disk.search (d : Disk) (p : String) : List String :=
  ((d.filesUnder p).filter Location.isSarif).map (Location.under p)

end ScanDelta

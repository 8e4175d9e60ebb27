import ScanDelta.Failure
import ScanDelta.Files.Search
import ScanDelta.Sarif.Baseline

/-!
# Loading scan documents

`Sarif.load` reads one file, or all scan files below a directory and puts them together: the runs of all
of them in path order, with version and schema of the first.
-/

set_option autoImplicit false

namespace ScanDelta.Sarif

/-- The version of a document that does not tell its own. -/
def defaultVersion : String := "2.1.0"

/-- One document with the runs of all, in order. -/
def merge (documents : List Json) : Json :=
  let first := documents.head?
  let version := (first.bind (·.member? "version")).getD (.str defaultVersion)
  let schema := (first.bind (·.get? "$schema")).getD .null
  Json.ofMembers [("version", version), ("$schema", schema), ("runs", .arr (documents.flatMap runs))]

/-- The document in a file. -/
def loadFile (d : Disk) (p : String) : ExceptT Failure (Traced Note) Json := do
  match d.readText p with
  | .error .noEntry => throw (.notFound ("SARIF file not found: " ++ p))
  | .error e => throw (.file e)
  | .ok text =>
    debug ("Read " ++ natText text.utf8ByteSize ++ " bytes from " ++ p)
    match Json.parse text with
    | .ok j => return j
    | .error e => throw (.notJson p e)

def loadFiles (d : Disk) : List String → ExceptT Failure (Traced Note) (List Json)
  | [] => return []
  | p :: ps => do
    let j ← loadFile d p
    let js ← loadFiles d ps
    return j :: js

/-- Tells of the files below a directory that are no scan files. -/
def noteOthers (d : Disk) (p : String) : Traced Note Unit :=
  .tellAll (((d.filesUnder p).filter fun l => !l.isSarif).map fun l =>
    .console .debug ("Not a SARIF file: " ++ l.under p))

/-- The document at a path: a file, or a directory with scan files at any depth. -/
def load (d : Disk) (p : String) : ExceptT Failure (Traced Note) Json := do
  if d.isDir p then
    noteOthers d p
    let files := d.search p
    if files.isEmpty then throw (.notFound ("No SARIF files found under directory: " ++ p))
    info ("Merging " ++ natText files.length ++ " SARIF files from " ++ p)
    return merge (← loadFiles d files)
  else loadFile d p

end ScanDelta.Sarif

import ScanDelta.Json.Basic

/-!
# Locations in scan results

`Location.physical?` writes a physical location as path, line and column; `Location.candidates` lists all
locations a result offers, in the order in which they are tried, and `Location.ofResult?` is the first.
-/

set_option autoImplicit false

namespace ScanDelta.Sarif.Location

/-- A path with a line, and a column if there is a line. -/
def joined (path : String) (line column : Option String) : String :=
  match line, column with
  | some l, some c => path ++ ":" ++ l ++ ":" ++ c
  | some l, none => path ++ ":" ++ l
  | none, _ => path

/-- A physical location: the address of the artifact, or the name of its base, with the region's start. -/
def physical? (phys : Json) : Option String := do
  let artifact ← phys.member? "artifactLocation"
  let path ← artifact.firstText? ["uri", "uriBaseId"]
  let region := phys.member? "region"
  return joined path (region.bind (·.textAt? "startLine")) (region.bind (·.textAt? "startColumn"))

/-- The physical location of an object that has one. -/
def physicalOf? (owner : Json) : Option String := (owner.member? "physicalLocation").bind physical?

def logical? (logical : Json) : Option String := logical.firstText? ["fullyQualifiedName", "name"]

/-- The steps of all thread flows of all code flows, in order. -/
def flowSteps (result : Json) : List Json :=
  (result.list "codeFlows").flatMap fun flow =>
    (flow.list "threadFlows").flatMap fun thread => thread.list "locations"

/-- The usable locations of a result: its own, related ones, logical ones, and the steps of its flows. -/
def candidates (result : Json) : List String :=
  (result.list "locations").filterMap physicalOf? ++
    (result.list "relatedLocations").filterMap physicalOf? ++
    (result.list "logicalLocations").filterMap logical? ++
    (flowSteps result).filterMap fun step => (step.member? "location").bind physicalOf?

def firstPhysical? (owners : List Json) : Option String := owners.findSome? physicalOf?

/-- The location to show for a result: the first usable one. -/
def ofResult? (result : Json) : Option String :=
  firstPhysical? (result.list "locations") <|>
    firstPhysical? (result.list "relatedLocations") <|>
    (result.list "logicalLocations").findSome? logical? <|>
    (flowSteps result).findSome? fun step => (step.member? "location").bind physicalOf?

end ScanDelta.Sarif.Location

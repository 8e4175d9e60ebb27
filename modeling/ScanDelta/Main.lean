import ScanDelta.Command.Run
import Std.Time.Format

/-!
# The program

Takes a picture of the files that a command names, carries the command out on it, and writes back what
changed. It works without a network. A directory cannot be listed from here, so the scan must be one file.
-/

set_option autoImplicit false

namespace ScanDelta

open Command

/-- The variables a command may look at. -/
def variableNames : List String :=
  Parameter.all.filterMap Parameter.envName? ++ ["GH_TOKEN", "RUNNER_TEMP", "TMPDIR"]

def readEnvironment : IO Environment := do
  let found ← variableNames.mapM fun name => do
    return (← IO.getEnv name).map fun value => (name, value)
  return ⟨found.filterMap id⟩

/-- What stands at a path: a file, or else anything that has a path. -/
def probe (p : String) : IO (Option Node) := do
  try
    return some (.file (← IO.FS.readBinFile p))
  catch _ =>
    try
      let _ ← IO.FS.realPath p
      return some (.dir [])
    catch _ => return none

/-- The disk with what stands at a path. -/
def addNode (d : Disk) (p : String) : IO Disk := do
  match d.resolve p with
  | .ok (.vacant loc) =>
    match ← probe p with
    | some n => return { d with root := d.root.set n loc }
    | none => return d
  | _ => return d

/-- The disk with what stands at the paths and above them. -/
def addPaths (d : Disk) (ps : List String) : IO Disk :=
  (ps.flatMap fun p => (Path.ancestors (Path.join d.cwdPath p)).reverse).foldlM addNode d

/-- The files that a check names, besides its configuration files. -/
def pathsOf (a : CheckArguments) (p : Plan) : List String :=
  [a.sarif, p.logPath, p.reportPath] ++ a.outputFile.toList ++ a.stepSummary.toList

/-- The disk as far as an action needs it. -/
def picture (env : Environment) (action : Action) : IO Disk := do
  let here := toString (← IO.currentDir)
  let d : Disk := ⟨.dir [], (Disk.names here).filter fun name => !name.isEmpty⟩
  let d ← addPaths d ((Path.ancestors here).map Config.pathIn)
  match action with
  | .init => return d
  | .check a =>
    match planned a env d with
    | .error _ => return d
    | .ok p => addPaths d (pathsOf a p)

/-- Writes the files that are new or changed. -/
def writeBack (before after : Disk) : IO Unit := do
  for loc in after.root.regularFiles do
    if let some (.file bytes) := after.root.at? loc then
      let same := match before.root.at? loc with
        | some (.file old) => old == bytes
        | _ => false
      if !same then
        IO.FS.createDirAll ("/" ++ Text.join "/" loc.dropLast)
        IO.FS.writeBinFile ("/" ++ Text.join "/" loc) bytes

/-- The time, to the nanosecond. -/
def timeStamp : IO String := do
  let t := Std.Time.DateTime.ofTimestamp (← Std.Time.Timestamp.now) Std.Time.TimeZone.ZoneRules.UTC
  return t.format "uuuu-MM-dd" ++ "T" ++ t.format "HH:mm:ss.SSSSSSSSSxxx"

/-- The scan of an action, if it is a directory. -/
def directoryToSearch? (d : Disk) : Action → Option String
  | .check a => if d.isDir a.sarif then some a.sarif else none
  | .init => none

def carryOutHere (env : Environment) (i : Invocation) : IO UInt32 := do
  let before ← picture env i.action
  if let some p := directoryToSearch? before i.action then
    IO.eprintln ("Error: cannot search the directory " ++ p)
    return 2
  let ending := i.action.run ⟨env, Http.offline, ← timeStamp⟩ before
  writeBack before ending.disk
  IO.print ending.printed
  IO.eprint (i.console ending)
  return UInt32.ofNat ending.status

end ScanDelta

def main (args : List String) : IO UInt32 := do
  let env ← ScanDelta.readEnvironment
  match ScanDelta.Command.Invocation.parse env args with
  | .ok i => ScanDelta.carryOutHere env i
  | .error r =>
    IO.print r.printed
    IO.eprint r.console
    return UInt32.ofNat r.status

import ScanDelta.Command.Delivery
import ScanDelta.Command.Invocation
import ScanDelta.Command.Usage
import ScanDelta.Journal
import ScanDelta.Text.Terminal

/-!
# Carrying out a command

`Action.run` carries out an action on a disk. How it ends, what it prints and what it notes for the console are
all in its `Ending`.
-/

set_option autoImplicit false

namespace ScanDelta.Command

structure Ending where
  disk : Disk
  printed : String
  notes : List Note
  trouble : Option Trouble

/-- The exit status: 2 for any failure. -/
def Ending.status (e : Ending) : Nat := if e.trouble.isSome then 2 else 0

/-- What a run takes from its surroundings. -/
structure Surroundings where
  environment : Environment
  transport : Http.Transport
  /-- The time stamp of the lines of the log. -/
  stamp : String

/-! ## Checking -/

/-- The last notes of a run that failed. -/
def failureNotes (f : Failure) : List Note :=
  (record ("Run failed: " ++ f.message)).events ++
    (if f.isRemote then [.console .error ("GitHub API error: " ++ f.message)] else [])

/-- The end of a check whose outcome is known. -/
def conclude (a : CheckArguments) (p : Plan) (logPath : Option String) (d : Disk) (notes : List Note)
    (o : Outcome) : Ending :=
  let result := deliver d (deliveries a p logPath o)
  { disk := result.disk
    printed := printedFirst a p o ++ (if result.trouble.isSome then "" else printedLast a p o)
    notes := notes ++ result.notes
    trouble := result.trouble }

/-- A check with its plan: opens the log, reconciles, and delivers the outcome. -/
def carryOut (s : Surroundings) (d : Disk) (a : CheckArguments) (p : Plan) (notes : List Note) : Ending :=
  let (d, opening) := Journal.openAt s.stamp d p.logPath
  let journal := opening.value
  let start := notes ++ opening.events ++ (info (programName ++ " v" ++ version)).events
  let run := (Reconcile.run (Reconcile.overHttp s.transport p.settings.apiUrl) d p.settings).run
  let during := run.events.filterMap Remote.Event.note?
  match run.value with
  | .error f =>
    let during := during ++ failureNotes f
    ⟨journal.appendAll s.stamp d during, "", start ++ during, some (.failure f)⟩
  | .ok o =>
    conclude a p journal.path (journal.appendAll s.stamp d during) (start ++ during) o

def runCheck (s : Surroundings) (d : Disk) (a : CheckArguments) : Ending :=
  let notes := (Plan.configuration a d).events
  match planned a s.environment d with
  | .error f => ⟨d, "", notes, some (.failure f)⟩
  | .ok p => carryOut s d a p notes

/-! ## Creating a configuration file -/

def createdText : String :=
  "✅ Created " ++ Config.fileName ++ "\n   Edit it to customize comparison and report settings.\n"

def existsText : String := "⚠️  " ++ Config.fileName ++ " already exists in this directory\n"

def runInit (d : Disk) : Ending :=
  match Config.create d d.cwdPath with
  | .ok (some d) => ⟨d, createdText, [], none⟩
  | .ok none => ⟨d, existsText, [], none⟩
  | .error e => ⟨d, "", [], some (.failure (.file e))⟩

def Action.run (s : Surroundings) (d : Disk) : Action → Ending
  | check a => runCheck s d a
  | init => runInit d

/-! ## The console -/

/-- Is a message shown? Asking for more wins over asking for less. -/
def Invocation.shows (i : Invocation) : Severity → Bool
  | .debug => i.verbose
  | .info | .warn => i.verbose || !i.quiet
  | .error => true

def severityLabel : Severity → String
  | .debug => "DEBUG"
  | .info => " INFO"
  | .warn => " WARN"
  | .error => "ERROR"

/-- A message as the console shows it. -/
def consoleLine? (shows : Severity → Bool) : Note → Option String
  | .console severity text =>
    if shows severity then some (severityLabel severity ++ " " ++ Text.terminalSafe text ++ "\n") else none
  | _ => none

def consoleText (shows : Severity → Bool) (notes : List Note) : String :=
  String.join (notes.filterMap (consoleLine? shows))

/-- The last line on the console, for a command that failed. -/
def Ending.lastLine (e : Ending) : String :=
  match e.trouble with
  | some t => "Error: " ++ t.report ++ "\n"
  | none => ""

/-- All that the console shows of a command. -/
def Invocation.console (i : Invocation) (e : Ending) : String :=
  consoleText i.shows e.notes ++ e.lastLine

end ScanDelta.Command

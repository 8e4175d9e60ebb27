import ScanDelta.Command.Options
import ScanDelta.Config
import ScanDelta.Reconcile

/-!
# What a check is to do

A `Plan` has a value for every setting. Of the sources of one, the command line (with the variables that
stand in for it) comes first, the configuration file next, and a default last.
-/

set_option autoImplicit false

namespace ScanDelta.Command

structure Plan where
  settings : Settings
  maxResults : Nat
  toolLabel : String
  reportPath : String
  logPath : String
  deriving DecidableEq, Repr

namespace Plan

/-! ## Defaults -/

def defaultLevel : Level := .warning

def defaultMaxResults : Nat := 20

def defaultToolLabel : String := "CodeQL"

/-- The directory for the files of a run, if there is one. -/
def runDirectory? (env : Environment) : Option String :=
  (env.get? "RUNNER_TEMP").filter fun d => !d.isEmpty

def temporaryDirectory (env : Environment) : String := (env.get? "TMPDIR").getD "/tmp"

def defaultLogPath (env : Environment) : String :=
  Path.join ((runDirectory? env).getD (temporaryDirectory env)) "codeql-alerts.log"

def defaultReportPath (env : Environment) : String :=
  Path.join ((runDirectory? env).getD ".") "codeql-alerts.md"

/-! ## Merging -/

/-- The level in a configuration file, which must be one. -/
def configLevel (raw : String) : Except Failure Level :=
  match Level.parse? raw with
  | some l => .ok l
  | none => .error (.config (Level.unknown raw ++ " in " ++ Config.fileName))

def minLevel (a : CheckArguments) (c : Config) : Except Failure Level :=
  match a.minLevel, c.minLevel with
  | some l, _ => .ok l
  | none, some raw => configLevel raw
  | none, none => .ok defaultLevel

/-- A text that is not empty. -/
def nonempty (s : Option String) : Option String := s.filter fun t => !t.isEmpty

/-- The owner and the name if both are given, or else the combined name. -/
def repository (a : CheckArguments) : Option Repository :=
  match nonempty a.owner, nonempty a.repo with
  | some owner, some name => some ⟨owner, name⟩
  | _, _ => a.repository.bind Repository.parse?

def token (a : CheckArguments) (env : Environment) : Option String :=
  nonempty a.token <|> env.get? "GH_TOKEN"

/-- The plan of a check; it fails only for a level in the configuration file that is none. -/
def resolve (a : CheckArguments) (env : Environment) (c : Config) : Except Failure Plan := do
  let level ← minLevel a c
  return { settings :=
             { sarifPath := a.sarif
               ref := nonempty a.ref
               minLevel := level
               repository := repository a
               token := token a env
               apiUrl := a.apiUrl }
           maxResults := (a.maxResults <|> c.maxResults).getD defaultMaxResults
           toolLabel := c.toolLabel.getD defaultToolLabel
           reportPath := (a.reportPath <|> c.reportPath).getD (defaultReportPath env)
           logPath := (a.logPath <|> c.logPath).getD (defaultLogPath env) }

/-- The configuration a check consults. -/
def configuration (a : CheckArguments) (d : Disk) : Traced Note Config :=
  if a.noConfig then pure .empty
  else (fun c => c.getD .empty) <$> Config.load d d.cwdPath

end Plan

/-- The plan of a check, on a disk. -/
def planned (a : CheckArguments) (env : Environment) (d : Disk) : Except Failure Plan :=
  Plan.resolve a env (Plan.configuration a d).value

end ScanDelta.Command

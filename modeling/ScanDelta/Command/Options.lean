import ScanDelta.Decimal.Unsigned
import ScanDelta.Level
import ScanDelta.Remote.Client

/-!
# Options of the command line

A `Parameter` is an option with a value, a `Switch` one without. The environment can supply the value of
some parameters, and a `CheckArguments` holds the values by name once all of them are known.
-/

set_option autoImplicit false

namespace ScanDelta

/-- Variables and their values. -/
structure Environment where
  bindings : List (String × String)
  deriving DecidableEq, Repr

def Environment.get? (e : Environment) (name : String) : Option String :=
  (e.bindings.find? fun v => v.1 = name).map (·.2)

namespace Command

/-- Why a command line is not carried out. -/
inductive Refusal where
  /-- It asks for help. -/
  | help
  /-- It asks for the version. -/
  | version
  | nothingGiven
  | missingCommand
  | unknownCommand
  | unknownArgument
  | repeatedOption
  | missingValue
  | emptyPath
  /-- A value that is none of the choices. -/
  | notAChoice
  /-- A value that is no level or no count. -/
  | malformedValue
  /-- A value for a switch. -/
  | needlessValue
  | missingOption
  deriving DecidableEq, Repr

/-- What is shown after a successful check. -/
inductive Format where
  | terminal
  | json
  deriving DecidableEq, Repr

def Format.parse? : String → Option Format
  | "terminal" => some .terminal
  | "json" => some .json
  | _ => none

/-! ## Parameters -/

/-- What the value of a parameter must be. -/
inductive ValueKind where
  | text
  | path
  | level
  | count
  | format
  deriving DecidableEq, Repr

/-- Refuses a value that is not of the kind. -/
def ValueKind.check (kind : ValueKind) (value : String) : Except Refusal Unit :=
  match kind with
  | .text => .ok ()
  | .path => if value.isEmpty then .error .emptyPath else .ok ()
  | .level => if (Level.parse? value).isSome then .ok () else .error .malformedValue
  | .count => if (Unsigned.parse? value).isSome then .ok () else .error .malformedValue
  | .format => if (Format.parse? value).isSome then .ok () else .error .notAChoice

inductive Parameter where
  | sarif
  | ref
  | owner
  | repo
  | repository
  | token
  | minLevel
  | maxResults
  | logPath
  | reportPath
  | format
  | apiUrl
  | outputFile
  | stepSummary
  deriving DecidableEq, Repr

namespace Parameter

def all : List Parameter :=
  [sarif, ref, owner, repo, repository, token, minLevel, maxResults, logPath, reportPath, format, apiUrl,
    outputFile, stepSummary]

def name : Parameter → String
  | sarif => "sarif"
  | ref => "ref"
  | owner => "owner"
  | repo => "repo"
  | repository => "repository"
  | token => "token"
  | minLevel => "min-level"
  | maxResults => "max-results"
  | logPath => "log-path"
  | reportPath => "report-path"
  | format => "format"
  | apiUrl => "api-url"
  | outputFile => "github-output"
  | stepSummary => "step-summary"

def letter? : Parameter → Option Char
  | format => some 'f'
  | _ => none

/-- The variable that supplies the value if the command line does not. -/
def envName? : Parameter → Option String
  | repository => some "GITHUB_REPOSITORY"
  | token => some "GITHUB_TOKEN"
  | logPath => some "ALERTDIFF_LOG_PATH"
  | apiUrl => some "GITHUB_API_URL"
  | outputFile => some "GITHUB_OUTPUT"
  | stepSummary => some "GITHUB_STEP_SUMMARY"
  | _ => none

def kind : Parameter → ValueKind
  | sarif | logPath | reportPath | outputFile | stepSummary => .path
  | ref | owner | repo | repository | token | apiUrl => .text
  | minLevel => .level
  | maxResults => .count
  | format => .format

end Parameter

/-! ## Switches -/

inductive Switch where
  | verbose
  | quiet
  | noConfig
  | help
  | version
  deriving DecidableEq, Repr

namespace Switch

def names : Switch → List String
  | verbose => ["verbose", "debug"]
  | quiet => ["quiet"]
  | noConfig => ["no-config"]
  | help => ["help"]
  | version => ["version"]

def letter? : Switch → Option Char
  | verbose => some 'v'
  | quiet => some 'q'
  | noConfig => none
  | help => some 'h'
  | version => some 'V'

end Switch

/-! ## Values by name -/

structure CheckArguments where
  sarif : String
  ref : Option String
  owner : Option String
  repo : Option String
  repository : Option String
  token : Option String
  minLevel : Option Level
  maxResults : Option Nat
  logPath : Option String
  reportPath : Option String
  format : Format
  apiUrl : String
  outputFile : Option String
  stepSummary : Option String
  noConfig : Bool
  deriving DecidableEq, Repr

/-- The arguments of a check from the values of its parameters; the scan must be among them. -/
def CheckArguments.ofValues (value? : Parameter → Option String) (noConfig : Bool) :
    Except Refusal CheckArguments :=
  match value? .sarif with
  | none => .error .missingOption
  | some sarif => .ok
    { sarif := sarif
      ref := value? .ref
      owner := value? .owner
      repo := value? .repo
      repository := value? .repository
      token := value? .token
      minLevel := (value? .minLevel).bind Level.parse?
      maxResults := (value? .maxResults).bind Unsigned.parse?
      logPath := value? .logPath
      reportPath := value? .reportPath
      format := ((value? .format).bind Format.parse?).getD .terminal
      apiUrl := (value? .apiUrl).getD Remote.Client.defaultApiUrl
      outputFile := value? .outputFile
      stepSummary := value? .stepSummary
      noConfig := noConfig }

end Command

end ScanDelta

import ScanDelta.Command.Options

/-!
# What a refused command line answers

Asking for help or for the version is answered on the standard output with status 0, anything else on the
console with status 2.

The kind of a refusal, its status and where it is answered are fixed; the wording of the usage and of the messages is
this library's own, and nothing depends on it.
-/

set_option autoImplicit false

namespace ScanDelta.Command

def programName : String := "alertdiff"

def version : String := "0.2.0"

/-- The option as a line of the usage shows it. -/
def Parameter.usage (p : Parameter) : String :=
  "      --" ++ p.name ++ " <VALUE>" ++ (p.envName?.elim "" fun v => " [env: " ++ v ++ "]")

def usage : String :=
  Text.join "\n" (["Usage: " ++ programName ++ " [-v|--verbose] [-q|--quiet] check|init|help", "",
    "Options of check:"] ++ Parameter.all.map Parameter.usage ++ ["      --no-config", ""])

namespace Refusal

/-- Is the command line a question rather than a mistake? -/
def isQuestion : Refusal → Bool
  | help | version => true
  | _ => false

def status (r : Refusal) : Nat := if r.isQuestion then 0 else 2

def message : Refusal → String
  | help | version | nothingGiven => ""
  | missingCommand => "a command is required"
  | unknownCommand => "unknown command"
  | unknownArgument => "unknown argument"
  | repeatedOption => "an option is given more than once"
  | missingValue => "a value is required"
  | emptyPath => "a path is empty"
  | notAChoice => "a value is none of the choices"
  | malformedValue => "a value cannot be read"
  | needlessValue => "an option takes no value"
  | missingOption => "--sarif is required"

/-- What is printed on the standard output. -/
def printed : Refusal → String
  | version => programName ++ " " ++ Command.version ++ "\n"
  | help => usage
  | _ => ""

/-- What the console shows. -/
def console (r : Refusal) : String :=
  if r.isQuestion then ""
  else if r = nothingGiven then usage
  else "error: " ++ r.message ++ "\n\n" ++ usage

end Refusal

end ScanDelta.Command

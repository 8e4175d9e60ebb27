import ScanDelta.Files.Disk
import ScanDelta.Toml.Parser
import ScanDelta.Trace

/-!
# Configuration files

`Config.load` takes the settings from the nearest configuration file at or above a directory; a file that
cannot be read or does not fit gives none, and no farther one is tried. `Config.create` writes a template
where there is no such file.

A section may be given as an array of its settings in order, of which the last ones may be missing.
-/

set_option autoImplicit false

namespace ScanDelta

/-- What a configuration file sets; every setting may be absent. -/
structure Config where
  minLevel : Option String
  maxResults : Option Nat
  toolLabel : Option String
  reportPath : Option String
  logPath : Option String
  deriving DecidableEq, Repr

namespace Config

def empty : Config := ⟨none, none, none, none, none⟩

def fileName : String := ".alertdiff.toml"

/-! ## Decoding -/

/-- Why a document does not fit. -/
inductive DecodeError where
  | invalidType (setting : String)
  | outOfRange (setting : String)
  deriving DecidableEq, Repr

def DecodeError.message : DecodeError → String
  | .invalidType setting => "invalid type for " ++ setting
  | .outOfRange setting => "out of range: " ++ setting

def stringOf (setting : String) : Toml → Except DecodeError String
  | .string s => .ok s
  | _ => .error (.invalidType setting)

def countOf (setting : String) : Toml → Except DecodeError Nat
  | .integer n => if 0 ≤ n ∧ n < (Nat.pow 2 64 : Int) then .ok n.toNat else .error (.outOfRange setting)
  | _ => .error (.invalidType setting)

/-- A section: its settings by name, or in order. A date and time is a section without settings. -/
inductive Section where
  | named (entries : List (String × Toml))
  | ordered (items : List Toml)

def Section.of (name : String) : Option Toml → Except DecodeError Section
  | none => .ok (.named [])
  | some (.table es) => .ok (.named es)
  | some (.array xs) => .ok (.ordered xs)
  | some (.datetime _) => .ok (.named [])
  | some _ => .error (.invalidType name)

/-- The setting of this name and position. -/
def Section.get? (s : Section) (name : String) (position : Nat) : Option Toml :=
  match s with
  | .named es => (es.find? fun e => e.1 = name).map (·.2)
  | .ordered xs => xs[position]?

def Section.setting? {α : Type} (s : Section) (name : String) (position : Nat)
    (decode : String → Toml → Except DecodeError α) : Except DecodeError (Option α) :=
  match s.get? name position with
  | none => .ok none
  | some v => (decode name v).map some

/-- The settings of a document. -/
def ofToml (document : Toml) : Except DecodeError Config := do
  let top ← Section.of "document" (some document)
  let compare ← Section.of "compare" (top.get? "compare" 0)
  let report ← Section.of "report" (top.get? "report" 1)
  let log ← Section.of "log" (top.get? "log" 2)
  return { minLevel := ← compare.setting? "min_level" 0 stringOf
           maxResults := ← compare.setting? "max_results" 1 countOf
           toolLabel := ← report.setting? "tool_label" 0 stringOf
           reportPath := ← report.setting? "report_path" 1 stringOf
           logPath := ← log.setting? "path" 0 stringOf }

/-- The settings of the text of a file, or what is wrong with it. -/
def ofText (text : String) : Except String Config := do
  let document ← (Toml.parse text).mapError Toml.ParseError.message
  (ofToml document).mapError DecodeError.message

/-! ## Loading -/

def pathIn (directory : String) : String := Path.join directory fileName

/-- The nearest configuration file at or above a directory. -/
def find? (d : Disk) (start : String) : Option String :=
  ((Path.ancestors start).map pathIn).find? d.exists?

/-- The settings of the nearest configuration file, if it can be read and fits. -/
def load (d : Disk) (start : String) : Traced Note (Option Config) := do
  match find? d start with
  | none => return none
  | some p =>
    debug ("Found config: " ++ p)
    match d.readText p with
    | .error e =>
      debug ("Could not read " ++ p ++ ": " ++ e.message)
      return none
    | .ok text =>
      match ofText text with
      | .ok c =>
        info ("Loaded config from " ++ p)
        return some c
      | .error e =>
        warn ("Failed to parse " ++ p ++ ": " ++ e)
        return none

/-! ## Creating -/

def template : String :=
  Text.join "\n" [
    "# alertdiff configuration",
    "",
    "[compare]",
    "# Lowest level treated as actionable for new alerts: \"none\", \"note\", \"warning\", \"error\"",
    "min_level = \"warning\"",
    "",
    "# Alerts listed per report section before collapsing into \"...and N more\"",
    "max_results = 20",
    "",
    "[report]",
    "# Analysis tool named in report headings",
    "tool_label = \"CodeQL\"",
    "",
    "# Where the markdown report is written. Default: $RUNNER_TEMP/codeql-alerts.md",
    "# report_path = \"codeql-alerts.md\"",
    "",
    "[log]",
    "# Diagnostic log, truncated at the start of every run.",
    "# Default: $RUNNER_TEMP/codeql-alerts.log",
    "# path = \"codeql-alerts.log\"",
    ""]

/-- Writes the template into a directory; none if a configuration file is there already. -/
def create (d : Disk) (directory : String) : Except FileError (Option Disk) :=
  if d.exists? (pathIn directory) then .ok none else (d.write (pathIn directory) template).map some

end Config

end ScanDelta

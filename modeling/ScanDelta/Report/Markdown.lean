import ScanDelta.Remote.Comparison
import ScanDelta.Report.Line
import ScanDelta.Text.Blank

/-!
# Markdown reports

`Report.plain` reports new and fixed alerts, `Report.full` a comparison through the service with its
further comparisons, and `Report.stepSummary` is the short form for a job summary. A report is made as a
list of lines: each list of alerts that is not empty gives a section of a heading, its items and an empty
line, and a closing line stands at the end.
-/

set_option autoImplicit false

namespace ScanDelta.Report

structure Options where
  /-- How many alerts a section shows. -/
  maxResults : Nat
  /-- The level the new alerts were filtered by, if any. -/
  threshold : Option Level
  /-- The combined name of the repository. -/
  repository : Option String
  /-- The scanner that headings name. -/
  toolLabel : String
  deriving DecidableEq, Repr

def newMark : String := ":x:"
def fixedMark : String := ":white_check_mark:"

def plural (count : Nat) : String := if count = 1 then "" else "s"

def thresholdNote (threshold : Option Level) : String :=
  match threshold with
  | some l => " (level ≥ " ++ l.name ++ ")"
  | none => ""

/-- The first seven characters of a ref. -/
def shortRef (ref : String) : String := String.ofList (ref.toList.take 7)

/-! ## Headings -/

def newHeading (o : Options) (as : List Alert) : String :=
  "## ❌ " ++ natText as.length ++ " new " ++ o.toolLabel ++ " alert" ++ plural as.length

def fixedHeading (o : Options) (as : List Alert) : String :=
  "## ✅ " ++ natText as.length ++ " " ++ o.toolLabel ++ " alert" ++ plural as.length ++ " resolved"

def highestNote (as : List Alert) : String :=
  match Alert.highestLevel as with
  | some l => " — Highest severity: " ++ l.title
  | none => ""

/-! ## Sections -/

/-- The lines of a section; none for no alerts. -/
def sectionLines (o : Options) (mark heading : String) (as : List Alert) : List String :=
  if as.isEmpty then [] else heading :: bullets mark o.maxResults as ++ [""]

/-- New and fixed alerts against the default branch or the baseline. -/
def primaryLines (o : Options) (new fixed : List Alert) : List String :=
  sectionLines o newMark (newHeading o new ++ thresholdNote o.threshold ++ highestNote new) new ++
    sectionLines o fixedMark (fixedHeading o fixed ++ " since the previous run") fixed

/-- New and fixed alerts against a further ref. -/
def secondaryLines (o : Options) (since : String) : Option Remote.Secondary → List String
  | none => []
  | some s =>
    sectionLines o newMark (newHeading o s.new ++ " since " ++ since) s.new ++
      sectionLines o fixedMark (fixedHeading o s.fixed ++ " since " ++ since) s.fixed

/-- A line with the counts against a further ref. -/
def countLines (what : String) : Option Remote.Secondary → List String
  | none => []
  | some s => [natText s.fixed.length ++ " fixed, " ++ natText s.new.length ++ " new since " ++ what ++
      " (" ++ shortRef s.against ++ ")"]

/-- The counts against the further refs, with an empty line after them. -/
def overviewLines (c : Remote.Comparison) : List String :=
  let lines := countLines "branch point" c.vsBranchPoint ++
    countLines "previous report on PR" c.vsPreviousCommit
  if lines.isEmpty then [] else lines ++ [""]

def closingLine (o : Options) : String :=
  match o.repository with
  | some repo => "Review the [full " ++ o.toolLabel ++ " report](https://github.com/" ++ repo ++
      "/security/code-scanning) for details."
  | none => "Review the " ++ o.toolLabel ++ " report in the Security tab for full details."

/-! ## Reports -/

/-- Lines as a text without blanks at its ends, and a line break. -/
def finish (lines : List String) : String := Text.trim (Text.join "\n" lines) ++ "\n"

def plainLines (o : Options) (new fixed : List Alert) : List String :=
  primaryLines o new fixed ++ [closingLine o]

def plain (o : Options) (new fixed : List Alert) : String := finish (plainLines o new fixed)

def fullLines (o : Options) (c : Remote.Comparison) : List String :=
  overviewLines c ++ primaryLines o c.new c.fixed ++
    secondaryLines o "the previous PR commit" c.vsPreviousCommit ++
    secondaryLines o "the branch point" c.vsBranchPoint ++ [closingLine o]

def full (o : Options) (c : Remote.Comparison) : String := finish (fullLines o c)

/-! ## The job summary -/

/-- A count with its alerts and an empty line; nothing for no alerts. -/
def summaryLines (o : Options) (mark count : String) (as : List Alert) : List String :=
  if as.isEmpty then [] else count :: bullets mark o.maxResults as ++ [""]

def stepSummary (o : Options) (new fixed : List Alert) : String :=
  let lines := ["## " ++ o.toolLabel ++ " Alerts", ""] ++
    summaryLines o newMark ("❌ " ++ natText new.length ++ " new alert" ++ plural new.length ++
      thresholdNote o.threshold ++ ".") new ++
    summaryLines o fixedMark ("✅ " ++ natText fixed.length ++ " alert" ++ plural fixed.length ++
      " resolved since the previous run.") fixed
  String.join (lines.map (· ++ "\n"))

end ScanDelta.Report

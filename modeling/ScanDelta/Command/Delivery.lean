import ScanDelta.Command.Plan
import ScanDelta.Report.Console
import ScanDelta.Report.Markdown
import ScanDelta.Report.Record
import ScanDelta.Report.StepOutputs

/-!
# What a check leaves behind

An outcome is delivered to up to three files, one after another: the report, the job summary and the
outputs for later steps. The first that cannot be written ends the delivery.
-/

set_option autoImplicit false

namespace ScanDelta.Command

/-- A text and the file it is for. -/
inductive Delivery where
  /-- Replaces the file. -/
  | report (path text : String)
  /-- Is added to the file. -/
  | summary (path text : String)
  /-- Is added to the file. -/
  | outputs (path text : String)
  deriving DecidableEq, Repr

namespace Delivery

def path : Delivery → String
  | report p _ | summary p _ | outputs p _ => p

/-- What could not be done. -/
def attempt : Delivery → String
  | report p _ => "failed to write report to " ++ p
  | summary p _ => "failed to append to " ++ p
  | outputs p _ => "failed to write outputs to " ++ p

/-- The disk after the delivery, and whether it could be made. -/
def write (d : Disk) : Delivery → Disk × Except FileError Unit
  | report p text => d.writeWithParent p text
  | summary p text | outputs p text =>
    match d.append p text with
    | .ok d => (d, .ok ())
    | .error e => (d, .error e)

/-- What the console says after the delivery. -/
def notes : Delivery → List Note
  | report p _ => [.console .info ("Report written to " ++ p)]
  | summary _ _ | outputs _ _ => []

end Delivery

/-- Why a command failed. -/
inductive Trouble where
  | failure (f : Failure)
  | undelivered (d : Delivery) (e : FileError)
  deriving DecidableEq, Repr

def Trouble.report : Trouble → String
  | failure f => f.report
  | undelivered d e => d.attempt ++ ": " ++ e.message

/-- How a series of deliveries went. -/
structure Delivered where
  disk : Disk
  notes : List Note
  trouble : Option Trouble

/-- Makes deliveries up to the first that fails. -/
def deliver (d : Disk) : List Delivery → Delivered
  | [] => ⟨d, [], none⟩
  | x :: xs =>
    match x.write d with
    | (d, .error e) => ⟨d, [], some (.undelivered x e)⟩
    | (d, .ok ()) =>
      let rest := deliver d xs
      { rest with notes := x.notes ++ rest.notes }

/-! ## The deliveries of an outcome -/

def reportOptions (p : Plan) (o : Outcome) : Report.Options where
  maxResults := p.maxResults
  threshold := o.appliedThreshold
  repository := p.settings.repository.map Repository.text
  toolLabel := p.toolLabel

def reportText (p : Plan) (o : Outcome) : String :=
  match o.comparison? with
  | some c => Report.full (reportOptions p o) c
  | none => Report.plain (reportOptions p o) o.newAlerts o.fixedAlerts

/-- The outputs for later steps, if there is a file for them. -/
def outputsDelivery (a : CheckArguments) (outputs : Report.StepOutputs) : List Delivery :=
  (a.outputFile.map fun p => Delivery.outputs p outputs.text).toList

/-- The job summary, if there is a file for it and an alert in it. -/
def summaryDelivery (a : CheckArguments) (p : Plan) (o : Outcome) : List Delivery :=
  if o.newAlerts.isEmpty && o.fixedAlerts.isEmpty then []
  else (a.stepSummary.map fun path =>
    Delivery.summary path (Report.stepSummary (reportOptions p o) o.newAlerts o.fixedAlerts)).toList

/-- The deliveries of an outcome; all of them if there is anything to report, else only the outputs. -/
def deliveries (a : CheckArguments) (p : Plan) (logPath : Option String) (o : Outcome) : List Delivery :=
  if o.isReportable then
    .report p.reportPath (reportText p o) :: summaryDelivery a p o ++
      outputsDelivery a ⟨o.newAlerts, o.fixedAlerts, some p.reportPath, logPath⟩
  else outputsDelivery a ⟨[], [], none, logPath⟩

/-! ## What a check prints -/

def nothingToReport (p : Plan) : String :=
  "No new or resolved " ++ p.toolLabel ++ " alerts past the configured threshold.\n"

/-- What is printed before the deliveries. -/
def printedFirst (a : CheckArguments) (p : Plan) (o : Outcome) : String :=
  match a.format with
  | .json => Report.json o ++ "\n"
  | .terminal =>
    Report.console p.toolLabel o ++ (if o.isReportable then "" else nothingToReport p)

/-- What is printed after the deliveries. -/
def printedLast (a : CheckArguments) (p : Plan) (o : Outcome) : String :=
  match a.format with
  | .json => ""
  | .terminal => if o.isReportable then reportText p o ++ "\n" else ""

end ScanDelta.Command

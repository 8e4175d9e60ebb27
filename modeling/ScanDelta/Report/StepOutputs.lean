import ScanDelta.Alert.Basic
import ScanDelta.Decimal.Layout

/-!
# Outputs for later steps

Six lines with a key, an equals sign and a value each.
-/

set_option autoImplicit false

namespace ScanDelta.Report

structure StepOutputs where
  new : List Alert
  fixed : List Alert
  reportPath : Option String
  logPath : Option String
  deriving DecidableEq, Repr

namespace StepOutputs

def boolText (b : Bool) : String := if b then "true" else "false"

/-- The keys with their values, in order. -/
def entries (o : StepOutputs) : List (String × String) :=
  [("new_alerts", boolText (!o.new.isEmpty)), ("alert_count", natText o.new.length),
    ("fixed_alerts", boolText (!o.fixed.isEmpty)), ("fixed_count", natText o.fixed.length),
    ("comment_path", o.reportPath.getD ""), ("log_path", o.logPath.getD "")]

def text (o : StepOutputs) : String :=
  String.join (o.entries.map fun (key, value) => key ++ "=" ++ value ++ "\n")

end StepOutputs

end ScanDelta.Report

import ScanDelta.Decimal.Layout
import ScanDelta.Outcome

/-!
# The summary on the console

The counts of new, fixed and matched alerts, whatever their level, under a title in bold type.
-/

set_option autoImplicit false

namespace ScanDelta.Report

def countLine (label : String) (as : List Alert) : String :=
  "- " ++ label ++ ": " ++ natText as.length ++
    (match Alert.highestLevel as with
      | some l => " (Highest: " ++ l.title ++ ")"
      | none => "")

def consoleLines (o : Outcome) : List String :=
  [countLine "New (unfiltered)" o.unfilteredNew, countLine "Fixed (unfiltered)" o.unfilteredFixed,
    match o.matched? with
    | some as => countLine "Matched (preexisting)" as
    | none => "- Matched (preexisting): N/A (no API comparison)"]

/-- The text in bold type. -/
def bold (s : String) : String :=
  let escape := String.singleton (Char.ofNat 0x1B)
  escape ++ "[1m" ++ s ++ escape ++ "[0m"

def console (toolLabel : String) (o : Outcome) : String :=
  String.join ((bold (toolLabel ++ " Summary:") :: consoleLines o ++ [""]).map (· ++ "\n"))

end ScanDelta.Report

import ScanDelta.Alert.Basic
import ScanDelta.Decimal.Layout

/-!
# Alerts as list items

`Report.bullet` writes one alert as an item of a Markdown list, `Report.bullets` the first of some alerts,
with a last item for those that are not shown.
-/

set_option autoImplicit false

namespace ScanDelta.Report

/-- The id of the rule, as a link if there is a page about it. -/
def ruleText (a : Alert) : String :=
  match a.helpUri with
  | some uri => "[" ++ a.ruleId ++ "](" ++ uri ++ ")"
  | none => "`" ++ a.ruleId ++ "`"

def severityText (a : Alert) : String :=
  match a.securitySeverity with
  | some severity => " (" ++ severity ++ ")"
  | none => ""

/-- The number of the alert, as a link if its page is known. -/
def numberText (a : Alert) : String :=
  match a.number, a.htmlUrl with
  | some n, some url => "[# " ++ natText n ++ "](" ++ url ++ ") "
  | some n, none => "# " ++ natText n ++ " "
  | none, _ => ""

def dismissedText (a : Alert) : String :=
  match a.dismissedReason with
  | some reason => " (dismissed: " ++ reason ++ ")"
  | none => ""

/-- An alert as an item of a list. -/
def bullet (mark : String) (a : Alert) : String :=
  "- " ++ mark ++ " **" ++ a.level.title ++ "**" ++ severityText a ++ " " ++ numberText a ++ ruleText a ++
    dismissedText a ++ " at `" ++ a.location ++ "` — " ++ a.message

/-- The item for the alerts that are not shown. -/
def trailer (mark : String) (remaining : Nat) : String :=
  "- " ++ mark ++ " …and " ++ natText remaining ++ " more alerts (see Code Scanning for the full list)."

/-- The first alerts, and how many there are more. -/
def bullets (mark : String) (limit : Nat) (as : List Alert) : List String :=
  (as.take limit).map (bullet mark) ++
    (if limit < as.length then [trailer mark (as.length - limit)] else [])

end ScanDelta.Report

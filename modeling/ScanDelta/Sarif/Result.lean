import ScanDelta.Alert.Basic
import ScanDelta.Alert.Message
import ScanDelta.Sarif.Location
import ScanDelta.Trace

/-!
# Alerts from scan results

`Sarif.alertOf` makes an alert of one result and the rules of its run. Whatever is missing or has an
unexpected type gives way to a default; a result without a usable location leaves a line in the log.
-/

set_option autoImplicit false

namespace ScanDelta.Sarif

/-! ## Messages -/

/-- The text of an argument: a string as it is, any other value as JSON. -/
def argumentText : Json → String
  | .str s => s
  | j => j.compact

/-- The message before it is put on one line: markdown, else plain text, else the arguments. -/
def rawMessage? (result : Json) : Option String :=
  (result.member? "message").bind fun m =>
    m.firstText? ["markdown", "text"] <|>
      (match m.list "arguments" with
        | [] => none
        | args => some (Text.join " " (args.map argumentText)))

def messageOf (result : Json) : String := Message.sanitize (rawMessage? result)

/-! ## Rules -/

/-- The rules of a run by their ids. -/
abbrev Rules := List (String × Json)

/-- The rules of a run that have an id, in document order. -/
def rulesOf (run : Json) : Rules :=
  match (run.member? "tool").bind (·.member? "driver") with
  | none => []
  | some driver => (driver.list "rules").filterMap fun rule => (rule.textAt? "id").map fun id => (id, rule)

/-- The last rule with this id. -/
def Rules.find? (rules : Rules) (id : String) : Option Json :=
  (rules.reverse.find? fun r => r.1 = id).map (·.2)

/-! ## Alerts -/

/-- The names under which properties hold a security severity. -/
def severityNames : List String := ["security-severity", "problem.severity", "problemSeverity"]

def severityIn? (owner : Json) : Option String :=
  (owner.member? "properties").bind (·.firstText? severityNames)

/-- The alert of a result. -/
def plainAlertOf (rules : Rules) (result : Json) : Alert :=
  let ruleId := (result.textAt? "ruleId").getD Alert.noRuleId
  let rule := rules.find? ruleId
  { number := none
    htmlUrl := none
    ruleId := ruleId
    level := Level.normalize ((result.get? "level").bind Json.str?)
    message := messageOf result
    location := (Location.ofResult? result).getD Alert.noLocation
    ruleName := rule.bind (·.textAt? "name")
    helpUri := rule.bind (·.textAt? "helpUri")
    securitySeverity := severityIn? result <|> rule.bind severityIn?
    dismissedReason := none
    analysisKey := none }

/-- What the log shows of a result without a usable location. -/
def locationSnippet (result : Json) (a : Alert) : Json :=
  Json.ofMembers [("ruleId", .str a.ruleId), ("level", .str a.level.name), ("message", .str a.message),
    ("locations", result.getOrNull "locations"), ("relatedLocations", result.getOrNull "relatedLocations")]

def noLocationLabel : String := "Unknown SARIF location for result"

/-- The alert of a result; the log tells if it has no location. -/
def alertOf (rules : Rules) (result : Json) : Traced Note Alert := do
  let a := plainAlertOf rules result
  if !a.hasLocation then recordSnippet noLocationLabel (locationSnippet result a)
  return a

/-- The note in the log changes nothing of the alert. -/
@[simp] theorem value_alertOf (rules : Rules) (result : Json) :
    (alertOf rules result).value = plainAlertOf rules result := by
  unfold alertOf
  dsimp only
  split <;> rfl

end ScanDelta.Sarif

import ScanDelta.Alert.Basic
import ScanDelta.Alert.Message
import ScanDelta.Sarif.Location
import ScanDelta.Trace

/-!
# Alerts from the remote listing

`Remote.alertOf` makes an alert of one raw object of the listing. Each field is the first usable one of a
fixed list of candidates; an object without a usable location leaves a line in the log.
-/

set_option autoImplicit false

namespace ScanDelta.Remote

/-- The flat form of a location: a path with the start of the region beside it. -/
def flatLocation? (loc : Json) : Option String := do
  let path ← loc.textAt? "path"
  return Sarif.Location.joined path (loc.textAt? "start_line") (loc.textAt? "start_column")

/-- The location of an instance: physical, else flat. -/
def instanceLocation? (inst : Json) : Option String :=
  (inst.member? "location").bind fun loc => Sarif.Location.physicalOf? loc <|> flatLocation? loc

/-- The names under which properties hold a security severity. -/
def severityNames : List String :=
  ["security-severity", "securitySeverity", "problem.severity", "problemSeverity"]

def severityIn? (owner : Json) : Option String :=
  (owner.member? "properties").bind (·.firstText? severityNames)

/-- The text of an object's message. -/
def messageText? (owner : Json) : Option String := (owner.member? "message").bind (·.textAt? "text")

def ruleOf (raw : Json) : Json := (raw.member? "rule").getD .null

def latestInstance (raw : Json) : Json := (raw.member? "most_recent_instance").getD .null

def locationOf? (raw : Json) : Option String :=
  instanceLocation? (latestInstance raw) <|> (raw.list "instances").findSome? instanceLocation?

def fingerprintOf? (raw : Json) : Option String :=
  (latestInstance raw).textAt? "analysis_key" <|> raw.firstText? ["analysis_key", "fingerprint"]

/-- The alert of a raw object. -/
def plainAlertOf (raw : Json) : Alert :=
  let rule := ruleOf raw
  let inst := latestInstance raw
  let ruleName := rule.textAt? "name"
  { number := (raw.get? "number").bind Json.nat?
    htmlUrl := raw.textAt? "html_url"
    ruleId := (rule.textAt? "id").getD Alert.noRuleId
    level := Level.normalize (raw.textAt? "severity" <|> rule.textAt? "severity")
    message := Message.sanitize (messageText? raw <|> messageText? inst <|> ruleName)
    location := (locationOf? raw).getD Alert.noLocation
    ruleName := ruleName
    helpUri := rule.firstText? ["helpUri", "help_uri"]
    securitySeverity := severityIn? rule <|> severityIn? inst
    dismissedReason := raw.firstText? ["dismissed_reason", "dismissedReason"]
    analysisKey := fingerprintOf? raw }

/-- What the log shows of an object without a usable location. -/
def locationSnippet (raw : Json) : Json :=
  Json.ofMembers (["number", "rule", "most_recent_instance", "instances"].map fun name =>
    (name, raw.getOrNull name))

def noLocationLabel : String := "Unknown API alert location"

/-- The alert of a raw object; the log tells if it has no location. -/
def alertOf (raw : Json) : Traced Note Alert := do
  let a := plainAlertOf raw
  if !a.hasLocation then recordSnippet noLocationLabel (locationSnippet raw)
  return a

/-- The note in the log changes nothing of the alert. -/
@[simp] theorem value_alertOf (raw : Json) : (alertOf raw).value = plainAlertOf raw := by
  unfold alertOf
  dsimp only
  split <;> rfl

end ScanDelta.Remote

import ScanDelta.Json.Printer
import ScanDelta.Outcome

/-!
# Outcomes as JSON

`Outcome.toJson` holds everything an outcome consists of, the members of each object in a fixed order, and
`Report.json` is its text.
-/

set_option autoImplicit false

namespace ScanDelta

def optNat (n : Option Nat) : Json := n.elim .null Json.nat

def Alert.toJson (a : Alert) : Json :=
  .obj [("number", optNat a.number), ("html_url", .optStr a.htmlUrl), ("rule_id", .str a.ruleId),
    ("level", .str a.level.name), ("message", .str a.message), ("location", .str a.location),
    ("rule_name", .optStr a.ruleName), ("help_uri", .optStr a.helpUri),
    ("security_severity", .optStr a.securitySeverity), ("dismissed_reason", .optStr a.dismissedReason),
    ("analysis_key", .optStr a.analysisKey)]

def Alert.listToJson (as : List Alert) : Json := .arr (as.map Alert.toJson)

def Baseline.toJson (b : Baseline) : Json :=
  .obj [("new", Alert.listToJson b.new), ("absent", Alert.listToJson b.absent)]

def Remote.Secondary.toJson (s : Remote.Secondary) : Json :=
  .obj [("against", .str s.against), ("new", Alert.listToJson s.new), ("fixed", Alert.listToJson s.fixed)]

def Remote.Secondary.optToJson (s : Option Remote.Secondary) : Json := s.elim .null toJson

def Remote.Comparison.members (c : Remote.Comparison) : List (String × Json) :=
  [("new", Alert.listToJson c.new), ("fixed", Alert.listToJson c.fixed),
    ("matched", Alert.listToJson c.matched),
    ("vs_previous_commit", Secondary.optToJson c.vsPreviousCommit),
    ("vs_branch_point", Secondary.optToJson c.vsBranchPoint), ("base_sha", .optStr c.baseSha),
    ("previous_commit_ref", .optStr c.previousCommit)]

/-- The mode first, then what it holds. -/
def Findings.toJson : Findings → Json
  | .baseline filtered unfiltered =>
    .obj [("mode", .str "baseline"), ("filtered", filtered.toJson), ("unfiltered", unfiltered.toJson)]
  | .remote c => .obj (("mode", .str "remote") :: c.members)

def Outcome.toJson (o : Outcome) : Json :=
  .obj [("threshold", .str o.threshold.name), ("comparison", o.findings.toJson)]

def Report.json (o : Outcome) : String := o.toJson.pretty

end ScanDelta

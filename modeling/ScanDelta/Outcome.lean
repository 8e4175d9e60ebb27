import ScanDelta.Remote.Comparison
import ScanDelta.Sarif.Baseline

/-!
# Outcomes

What a run found: the alerts of the baseline, before and after the threshold, or the comparison through the
service, to which no threshold applies.
-/

set_option autoImplicit false

namespace ScanDelta

inductive Findings where
  | baseline (filtered unfiltered : Baseline)
  | remote (comparison : Remote.Comparison)
  deriving DecidableEq, Repr

structure Outcome where
  threshold : Level
  findings : Findings
  deriving DecidableEq, Repr

namespace Outcome

def newAlerts (o : Outcome) : List Alert :=
  match o.findings with
  | .baseline filtered _ => filtered.new
  | .remote c => c.new

def fixedAlerts (o : Outcome) : List Alert :=
  match o.findings with
  | .baseline filtered _ => filtered.absent
  | .remote c => c.fixed

def unfilteredNew (o : Outcome) : List Alert :=
  match o.findings with
  | .baseline _ unfiltered => unfiltered.new
  | .remote c => c.new

def unfilteredFixed (o : Outcome) : List Alert :=
  match o.findings with
  | .baseline _ unfiltered => unfiltered.absent
  | .remote c => c.fixed

/-- Alerts that were there before, which only the service tells. -/
def matched? (o : Outcome) : Option (List Alert) :=
  match o.findings with
  | .baseline _ _ => none
  | .remote c => some c.matched

def comparison? (o : Outcome) : Option Remote.Comparison :=
  match o.findings with
  | .baseline _ _ => none
  | .remote c => some c

/-- The level the new alerts were filtered by. -/
def appliedThreshold (o : Outcome) : Option Level :=
  match o.findings with
  | .baseline _ _ => some o.threshold
  | .remote _ => none

/-- Is there anything to report? -/
def isReportable (o : Outcome) : Bool :=
  !o.newAlerts.isEmpty || !o.fixedAlerts.isEmpty || o.comparison?.any (·.hasSecondaryChanges)

end Outcome

end ScanDelta

import ScanDelta.Sarif.Result

/-!
# Baseline states

Results that a scanner itself marked as new or absent, against a baseline of its own. `Baseline.collect`
takes them from all runs of a document at every level, `Baseline.atThreshold` keeps the new ones that
matter, and `Strategy.select` decides whether they suffice.
-/

set_option autoImplicit false

namespace ScanDelta

/-- Alerts by their baseline state, in document order. -/
structure Baseline where
  new : List Alert
  /-- Results that are no longer there. -/
  absent : List Alert
  deriving DecidableEq, Repr

namespace Sarif

/-- The runs of a document; none if it has no array of them. -/
def runs (document : Json) : List Json := document.list "runs"

inductive BaselineState where
  | new
  | absent
  deriving DecidableEq, Repr

/-- Are the texts equal but for the case of ASCII letters? -/
def equalIgnoringCase (a b : String) : Bool := a.toList.map Char.toLower = b.toList.map Char.toLower

/-- The state of a result if it is one of the two. -/
def baselineState? (result : Json) : Option BaselineState := do
  let s ← (result.get? "baselineState").bind Json.str?
  if equalIgnoringCase s "new" then return .new
  else if equalIgnoringCase s "absent" then return .absent
  else none

end Sarif

namespace Baseline

def empty : Baseline := ⟨[], []⟩

def isEmpty (b : Baseline) : Bool := b.new.isEmpty && b.absent.isEmpty

def append (a b : Baseline) : Baseline := ⟨a.new ++ b.new, a.absent ++ b.absent⟩

/-- An alert alone in its state. -/
def single (state : Sarif.BaselineState) (a : Alert) : Baseline :=
  match state with
  | .new => ⟨[a], []⟩
  | .absent => ⟨[], [a]⟩

/-- The new and absent results among some results of one run. -/
def ofResults (rules : Sarif.Rules) : List Json → Traced Note Baseline
  | [] => pure empty
  | r :: rs =>
    match Sarif.baselineState? r with
    | none => ofResults rules rs
    | some state => do
      let a ← Sarif.alertOf rules r
      let rest ← ofResults rules rs
      return (single state a).append rest

def ofRuns : List Json → Traced Note Baseline
  | [] => pure empty
  | run :: more => do
    let b ← ofResults (Sarif.rulesOf run) (run.list "results")
    let rest ← ofRuns more
    return b.append rest

/-- The new and absent results of a document, at every level. -/
def collect (document : Json) : Traced Note Baseline := ofRuns (Sarif.runs document)

/-- Drops new alerts below the threshold; absent ones count at every level. -/
def atThreshold (b : Baseline) (threshold : Level) : Baseline :=
  { b with new := b.new.filter fun a => a.level.meets threshold }

end Baseline

/-! ## The choice of a comparison -/

/-- Where the alerts of a run come from. -/
inductive Strategy where
  | baseline
  /-- The remote listings, for a ref. -/
  | remote (ref : String)
  deriving DecidableEq, Repr

/-- The remote listings are consulted only if the baseline classifies nothing and there is a ref. -/
def Strategy.select (b : Baseline) (ref : Option String) : Strategy :=
  match ref with
  | some r => if b.isEmpty && !r.isEmpty then .remote r else .baseline
  | none => .baseline

end ScanDelta

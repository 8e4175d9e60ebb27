import ScanDelta.Alert.Set
import ScanDelta.Remote.Alert
import ScanDelta.Remote.Listing
import ScanDelta.Remote.Pull

/-!
# Comparison through the service

`Remote.compare` compares the alerts of a ref with those of the default branch, and for a pull request also
with those of its previous commit and of its base. The first two listings must be read; whatever goes wrong
after them only drops the comparison it concerns.
-/

set_option autoImplicit false

namespace ScanDelta.Remote

/-- The subject against one further ref. -/
structure Secondary where
  against : String
  new : List Alert
  fixed : List Alert
  deriving DecidableEq, Repr

def Secondary.hasChanges (s : Secondary) : Bool := !s.new.isEmpty || !s.fixed.isEmpty

structure Comparison where
  new : List Alert
  fixed : List Alert
  matched : List Alert
  vsPreviousCommit : Option Secondary
  vsBranchPoint : Option Secondary
  baseSha : Option String
  previousCommit : Option String
  deriving DecidableEq, Repr

def Comparison.hasSecondaryChanges (c : Comparison) : Bool :=
  c.vsPreviousCommit.any Secondary.hasChanges || c.vsBranchPoint.any Secondary.hasChanges

/-! ## Sets of alerts -/

/-- The alerts of raw objects, in order. -/
def alertsOf : List Json → Traced Note (List Alert)
  | [] => pure []
  | raw :: more => do
    let a ← alertOf raw
    let as ← alertsOf more
    return a :: as

/-- The alerts of a listing as a set. -/
def fetchSet (s : Service) (ref : Option String) (label : String) : Run AlertSet := do
  let raw ← listing s ref
  let set := AlertSet.ofList (← alertsOf raw)
  record ("Fetched " ++ natText raw.length ++ " alerts for " ++ label ++ " (" ++ natText set.size ++
    " distinct)")
  record ("Alerts for " ++ label ++ ": " ++ set.tally.text)
  return set

/-- The subject against a further ref, dropped if that has no alerts or they cannot be read. -/
def secondary (s : Service) (subject : AlertSet) (label target : String) :
    Traced Event (Option Secondary) := do
  match ← attempt (fetchSet s (some target) (label ++ " " ++ target)) with
  | .error e =>
    record ("Skipping comparison against " ++ label ++ " " ++ target ++ ": " ++ e.message)
    return none
  | .ok other =>
    if other.isEmpty then
      record ("No alerts recorded for " ++ label ++ " " ++ target ++ "; skipping comparison")
      return none
    else
      let diff := subject.diff other
      return some ⟨target, diff.new, diff.fixed⟩

/-- The `secondary` comparison for a target that may be absent. -/
def secondaryIf (s : Service) (subject : AlertSet) (label : String) :
    Option String → Traced Event (Option Secondary)
  | none => return none
  | some target => secondary s subject label target

/-! ## Refs of a pull request -/

/-- What is known of a pull request; each part may be missing. -/
structure PullRefs where
  baseRef : Option String
  baseSha : Option String
  previousCommit : Option String
  deriving DecidableEq, Repr

/-- What the base is compared by: its hash, else its ref. -/
def PullRefs.baseTarget (r : PullRefs) : Option String := r.baseSha <|> r.baseRef

/-- Decodes an answer; another form is an unexpected response. -/
def decoded {α : Type} (decode : Decoder α) (j : Json) : Run α :=
  match decode j with
  | .ok a => return a
  | .error e => throw (.unexpectedResponse e.message)

/-- The commits from a page on, up to the first empty page. -/
def commitsFrom (s : Service) (number : Nat) : Nat → Nat → Run (List String)
  | 0, _ => throw Pages.endless
  | budget + 1, page => do
    let shas ← decoded commits (← askCommits s number page)
    if shas.isEmpty then return []
    else do
      let rest ← commitsFrom s number budget (page + 1)
      return shas ++ rest

/-- All commits of a pull request, oldest first. -/
def pullCommits (s : Service) (number : Nat) : Run (List String) := do
  let shas ← commitsFrom s number Pages.lastPage 1
  record ("PR #" ++ natText number ++ " lists " ++ natText shas.length ++ " commit(s)")
  return shas

/-- The base of a pull request, with empty texts taken for missing ones. -/
def pullBaseOf (s : Service) (ref : String) (number : Nat) : Traced Event Base := do
  match ← attempt (askPull s number >>= decoded pullBase) with
  | .ok b => return ⟨b.ref.filter fun r => !r.isEmpty, b.sha.filter fun r => !r.isEmpty⟩
  | .error e =>
    record ("Could not determine PR base for ref " ++ ref ++ ": " ++ e.message)
    return ⟨none, none⟩

/-- The commit before the last one of a pull request. -/
def previousCommitOf (s : Service) (ref : String) (number : Nat) : Traced Event (Option String) := do
  match ← attempt (pullCommits s number) with
  | .ok shas =>
    match shas.reverse with
    | _ :: previous :: _ => return some previous
    | _ =>
      record ("PR #" ++ natText number ++ " has " ++ natText shas.length ++
        " commit(s); no previous commit to compare")
      return none
  | .error e =>
    record ("Could not determine previous commit for ref " ++ ref ++ ": " ++ e.message)
    return none

/-- The further refs to compare with; none if the ref is not that of a pull request. -/
def pullRefs (s : Service) (ref : String) : Traced Event PullRefs := do
  match RefKind.of ref with
  | .plain => return ⟨none, none, none⟩
  | .malformed =>
    record ("Could not determine PR base/previous commit for ref " ++ ref ++
      ": malformed pull request ref")
    return ⟨none, none, none⟩
  | .pull number =>
    let b ← pullBaseOf s ref number
    let previous ← previousCommitOf s ref number
    return ⟨b.ref, b.sha, previous⟩

/-! ## The comparison -/

/-- Compares a ref with the default branch, and a pull request with its two further refs. -/
def compare (s : Service) (ref : String) : Run Comparison := do
  info ("Comparing " ++ ref ++ " against the default branch via the API")
  let subject ← fetchSet s (some ref) ("ref=" ++ ref)
  let default ← fetchSet s none "default branch"
  let primary := subject.diff default
  record ("Matched: " ++ primary.matchedTally.text)
  let refs ← pullRefs s ref
  let vsPreviousCommit ← secondaryIf s subject "previous commit" refs.previousCommit
  let vsBranchPoint ← secondaryIf s subject "base" refs.baseTarget
  return { new := primary.new
           fixed := primary.fixed
           matched := primary.matched
           vsPreviousCommit := vsPreviousCommit
           vsBranchPoint := vsBranchPoint
           baseSha := refs.baseSha
           previousCommit := refs.previousCommit }

end ScanDelta.Remote

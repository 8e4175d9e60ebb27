import ScanDelta.Failure
import ScanDelta.Trace

/-!
# The alert service

A `Service` answers three kinds of questions about one repository: a page of open alerts of a ref (or of
the default branch), a pull request, and a page of its commits. `Remote.Event`s record the calls made next
to the notes taken.
-/

set_option autoImplicit false

namespace ScanDelta

/-- Answers come with the notes taken on the way to them. -/
structure Service where
  alertPage : Option String → Nat → Traced Note (Except Failure (List Json))
  pull : Nat → Traced Note (Except Failure Json)
  commitPage : Nat → Nat → Traced Note (Except Failure Json)

namespace Remote

/-- A question to the service; pages count from one. -/
inductive Call where
  | alerts (ref : Option String) (page : Nat)
  | pull (number : Nat)
  | commits (number page : Nat)
  deriving DecidableEq, Repr

inductive Event where
  /-- A token was handed to a connector. -/
  | connect (token : String)
  | call (c : Call)
  | note (n : Note)
  deriving DecidableEq, Repr

def Event.call? : Event → Option Call
  | .call c => some c
  | _ => none

def Event.note? : Event → Option Note
  | .note n => some n
  | _ => none

def Event.token? : Event → Option String
  | .connect token => some token
  | _ => none

instance : MonadLift (Traced Note) (Traced Event) := ⟨Traced.lift .note⟩

/-- A run that records calls and may fail. -/
abbrev Run (α : Type) := ExceptT Failure (Traced Event) α

instance : MonadLift (ExceptT Failure (Traced Note)) (ExceptT Failure (Traced Event)) :=
  ⟨fun t => ExceptT.mk (t.run.lift .note)⟩

/-- Puts a question and takes the answer. -/
def ask {α : Type} (c : Call) (answer : Traced Note (Except Failure α)) : Run α :=
  ExceptT.mk (do Traced.tell (.call c); answer)

def askAlerts (s : Service) (ref : Option String) (page : Nat) : Run (List Json) :=
  ask (.alerts ref page) (s.alertPage ref page)

def askPull (s : Service) (number : Nat) : Run Json := ask (.pull number) (s.pull number)

def askCommits (s : Service) (number page : Nat) : Run Json :=
  ask (.commits number page) (s.commitPage number page)

/-- The outcome of a run that may fail, as a value. -/
def attempt {α : Type} (r : Run α) : Traced Event (Except Failure α) := r.run

end Remote

end ScanDelta

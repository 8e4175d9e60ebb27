import ScanDelta.Remote.Service

/-!
# Listings page by page

A listing has pages 1, 2, … and ends at the first empty page or at the first failure. `Pages.next` fetches
one page when it is wanted, `Pages.collect` all that are left. Page numbers have 32 bits, so that a listing
that never ends is given up at the last of them.
-/

set_option autoImplicit false

namespace ScanDelta.Remote

/-- Where the reading of a listing stands. -/
structure Pages where
  ref : Option String
  nextPage : Nat
  done : Bool
  deriving DecidableEq, Repr

namespace Pages

/-- The greatest page number. -/
def lastPage : Nat := Nat.pow 2 32 - 1

def start (ref : Option String) : Pages := ⟨ref, 1, false⟩

/-- The next page, or none at the end; a failure is told once and is the end. -/
def next (s : Service) (p : Pages) : Traced Event (Option (Except Failure (List Json)) × Pages) :=
  if p.done then return (none, p)
  else do
    match ← attempt (askAlerts s p.ref p.nextPage) with
    | .ok [] => return (none, { p with nextPage := p.nextPage + 1, done := true })
    | .ok items => return (some (.ok items), { p with nextPage := p.nextPage + 1 })
    | .error e => return (some (.error e), { p with nextPage := p.nextPage + 1, done := true })

def endless : Failure := .unexpectedResponse "the listing does not end"

/-- The items of the pages that are left, of which there are fewer than the budget. -/
def drain (s : Service) : Nat → Pages → Run (List Json)
  | 0, _ => throw endless
  | budget + 1, p => do
    match ← p.next s with
    | (none, _) => return []
    | (some (.error e), _) => throw e
    | (some (.ok items), p) => do
      let rest ← drain s budget p
      return items ++ rest

/-- All items that are left; the first failure ends the reading. -/
def collect (s : Service) (p : Pages) : Run (List Json) := drain s (lastPage + 1 - p.nextPage) p

end Pages

/-- All items of the listing of a ref. -/
def listing (s : Service) (ref : Option String) : Run (List Json) := (Pages.start ref).collect s

end ScanDelta.Remote

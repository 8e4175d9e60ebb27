import ScanDelta.Alert.Basic
import ScanDelta.Decimal.Layout

/-!
# Sets of findings

An `AlertSet` holds one alert for each identity, in increasing order of identities; the alert inserted
last stands for its identity. `AlertSet.diff` sorts two sets into new, fixed and matched alerts, and
`Tally` counts alerts by the kind of their identity.
-/

set_option autoImplicit false

namespace ScanDelta

structure AlertSet where
  alerts : List Alert
  increasing : alerts.Pairwise fun a b => a.identity < b.identity

/-- How many alerts there are of each kind of identity. -/
structure Tally where
  total : Nat
  byFingerprint : Nat
  byRuleLocation : Nat
  deriving DecidableEq, Repr

namespace Tally

def ofAlerts (as : List Alert) : Tally where
  total := as.length
  byFingerprint := as.countP fun a => a.identity.isFingerprint
  byRuleLocation := as.countP fun a => !a.identity.isFingerprint

def text (t : Tally) : String :=
  "total=" ++ natText t.total ++ ", by_fingerprint=" ++ natText t.byFingerprint ++
    ", by_rule_location=" ++ natText t.byRuleLocation

end Tally

/-- The outcome of comparing a subject with another set. -/
structure Diff where
  new : List Alert
  fixed : List Alert
  matched : List Alert
  deriving DecidableEq, Repr

def Diff.matchedTally (d : Diff) : Tally := Tally.ofAlerts d.matched

namespace AlertSet

def empty : AlertSet := ⟨[], .nil⟩

/-- Puts an alert at its place in a list in increasing order, instead of one with its identity. -/
def place (a : Alert) : List Alert → List Alert
  | [] => [a]
  | b :: bs =>
    if a.identity < b.identity then a :: b :: bs
    else if a.identity = b.identity then a :: bs
    else b :: place a bs

theorem mem_of_mem_place {a x : Alert} {bs : List Alert} (h : x ∈ place a bs) : x = a ∨ x ∈ bs := by
  induction bs with
  | nil => simpa [place] using h
  | cons b bs ih =>
    simp only [place] at h
    split at h
    · simpa using h
    split at h
    · rcases List.mem_cons.1 h with h | h
      · exact .inl h
      · exact .inr (List.mem_cons_of_mem _ h)
    · rcases List.mem_cons.1 h with h | h
      · exact .inr (h ▸ List.mem_cons_self ..)
      · exact (ih h).imp_right (List.mem_cons_of_mem _)

theorem increasing_place (a : Alert) {bs : List Alert}
    (h : bs.Pairwise fun a b => a.identity < b.identity) :
    (place a bs).Pairwise fun a b => a.identity < b.identity := by
  induction bs with
  | nil => simp [place]
  | cons b bs ih =>
    have hb := List.pairwise_cons.1 h
    simp only [place]
    split
    · rename_i hab
      refine List.pairwise_cons.2 ⟨fun x hx => ?_, h⟩
      rcases List.mem_cons.1 hx with rfl | hx
      · exact hab
      · exact Identity.lt_trans hab (hb.1 x hx)
    split
    · rename_i _ hab
      exact List.pairwise_cons.2 ⟨fun x hx => hab ▸ hb.1 x hx, hb.2⟩
    · rename_i hab hne
      refine List.pairwise_cons.2 ⟨fun x hx => ?_, ih hb.2⟩
      rcases mem_of_mem_place hx with rfl | hx
      · exact Identity.lt_of_not_lt_of_ne hab hne
      · exact hb.1 x hx

def insert (s : AlertSet) (a : Alert) : AlertSet := ⟨place a s.alerts, increasing_place a s.increasing⟩

def ofList (as : List Alert) : AlertSet := as.foldl insert empty

def size (s : AlertSet) : Nat := s.alerts.length

def isEmpty (s : AlertSet) : Bool := s.alerts.isEmpty

def contains (s : AlertSet) (i : Identity) : Bool := s.alerts.any fun a => a.identity = i

def tally (s : AlertSet) : Tally := Tally.ofAlerts s.alerts

/-- New and matched alerts are the subject's, fixed ones those of the other side. -/
def diff (subject other : AlertSet) : Diff where
  new := subject.alerts.filter fun a => !other.contains a.identity
  fixed := other.alerts.filter fun a => !subject.contains a.identity
  matched := subject.alerts.filter fun a => other.contains a.identity

end AlertSet

end ScanDelta

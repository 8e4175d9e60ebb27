import ScanDelta.Level

/-!
# Alerts

A code scanning alert in normal form, and its `Identity`: two alerts are the same finding if they have
the same fingerprint, or none and the same rule at the same location. Fingerprints come before rules with
locations; texts are in code point order.
-/

set_option autoImplicit false

namespace ScanDelta

structure Alert where
  /-- The number in the remote listing. -/
  number : Option Nat
  htmlUrl : Option String
  ruleId : String
  level : Level
  /-- The message on one line. -/
  message : String
  /-- A path with line and column, a logical name, or `Alert.noLocation`. -/
  location : String
  ruleName : Option String
  helpUri : Option String
  securitySeverity : Option String
  dismissedReason : Option String
  /-- The fingerprint from the remote listing. -/
  analysisKey : Option String
  deriving DecidableEq, Repr

namespace Alert

/-! ## What stands for a missing text -/

def noRuleId : String := "(rule id unavailable)"
def noLocation : String := "(location unavailable)"

def hasLocation (a : Alert) : Bool := a.location != noLocation

def highestLevel (as : List Alert) : Option Level := Level.highest (as.map (·.level))

end Alert

/-! ## Identity -/

inductive Identity where
  | fingerprint (key : String)
  | ruleAt (ruleId location : String)
  deriving DecidableEq, Repr

namespace Identity

def before : Identity → Identity → Bool
  | .fingerprint a, .fingerprint b => a < b
  | .fingerprint _, .ruleAt _ _ => true
  | .ruleAt _ _, .fingerprint _ => false
  | .ruleAt r l, .ruleAt r' l' => r < r' || (r = r' && l < l')

instance : LT Identity := ⟨fun a b => a.before b = true⟩

instance (a b : Identity) : Decidable (a < b) := inferInstanceAs (Decidable (a.before b = true))

def isFingerprint : Identity → Bool
  | .fingerprint _ => true
  | .ruleAt _ _ => false

theorem lt_def (a b : Identity) : a < b ↔ a.before b = true := Iff.rfl

theorem lt_irrefl (a : Identity) : ¬ a < a := by
  cases a with
  | fingerprint key =>
    simp only [lt_def, before, decide_eq_true_eq]
    exact String.lt_irrefl key
  | ruleAt ruleId location =>
    simp only [lt_def, before, decide_eq_true_eq, Bool.or_eq_true, Bool.and_eq_true, not_or, not_and]
    exact ⟨String.lt_irrefl ruleId, fun _ => String.lt_irrefl location⟩

theorem lt_trans {a b c : Identity} (h₁ : a < b) (h₂ : b < c) : a < c := by
  cases a <;> cases b <;> cases c <;> simp only [lt_def, before, decide_eq_true_eq, Bool.or_eq_true,
    Bool.and_eq_true, reduceCtorEq] at *
  · exact String.lt_trans h₁ h₂
  · rcases h₁ with h₁ | ⟨rfl, h₁⟩ <;> rcases h₂ with h₂ | ⟨rfl, h₂⟩
    · exact .inl (String.lt_trans h₁ h₂)
    · exact .inl h₁
    · exact .inl h₂
    · exact .inr ⟨rfl, String.lt_trans h₁ h₂⟩

theorem lt_of_not_lt_of_ne {a b : Identity} (h₁ : ¬ a < b) (h₂ : a ≠ b) : b < a := by
  have tri : ∀ s t : String, ¬ s < t → s ≠ t → t < s := fun s t h h' =>
    String.not_le.1 fun hle => h' (String.le_antisymm hle (String.not_lt.1 h))
  cases a <;> cases b <;> simp only [lt_def, before, decide_eq_true_eq, Bool.or_eq_true,
    Bool.and_eq_true, not_true, not_false_iff, not_or, not_and, ne_eq, reduceCtorEq,
    Identity.fingerprint.injEq, Identity.ruleAt.injEq] at *
  · exact tri _ _ h₁ h₂
  · rename_i r l r' l'
    by_cases hr : r = r'
    · exact .inr ⟨hr.symm, tri _ _ (h₁.2 hr) (h₂ hr)⟩
    · exact .inl (tri _ _ h₁.1 hr)

end Identity

/-- The fingerprint if there is one, else the rule and its location. -/
def Alert.identity (a : Alert) : Identity :=
  match a.analysisKey with
  | some key => .fingerprint key
  | none => .ruleAt a.ruleId a.location

end ScanDelta

import ScanDelta.Proofs.Alert.Identities

/-!
# Statistics of sets and of diffs

* `Tally.ofIdentities is` : the statistics of some identities, counted one after another;
* `Tally.ofAlerts_eq` : those of alerts are those of their identities;
* `Tally.ofAlerts_append`, `Tally.ofAlerts_perm` : statistics of two lists add up, and the order makes no difference;
* `AlertSet.identities_diff_matched_comm` : the matched findings of a diff are those of the diff the other way round;
* `AlertSet.tallies_add_up` : the statistics of two sets, of their diff and of the one the other way round.
-/

set_option autoImplicit false

namespace ScanDelta

namespace Tally

/-! ## Counting -/

/-- The statistics of both. -/
def plus (t u : Tally) : Tally where
  total := t.total + u.total
  byFingerprint := t.byFingerprint + u.byFingerprint
  byRuleLocation := t.byRuleLocation + u.byRuleLocation

instance : Add Tally := ⟨plus⟩

/-- One identity more. -/
def count (t : Tally) : Identity → Tally
  | .fingerprint _ => ⟨t.total + 1, t.byFingerprint + 1, t.byRuleLocation⟩
  | .ruleAt _ _ => ⟨t.total + 1, t.byFingerprint, t.byRuleLocation + 1⟩

/-- The statistics of some identities. -/
def ofIdentities (is : List Identity) : Tally := is.foldl count ⟨0, 0, 0⟩

theorem add_def (t u : Tally) : t + u =
    ⟨t.total + u.total, t.byFingerprint + u.byFingerprint, t.byRuleLocation + u.byRuleLocation⟩ := rfl

theorem ofAlerts_cons (a : Alert) (as : List Alert) :
    ofAlerts (a :: as) = count ⟨0, 0, 0⟩ a.identity + ofAlerts as := by
  rw [ofAlerts, ofAlerts, add_def, List.length_cons, List.countP_cons, List.countP_cons]
  cases a.identity <;> simp [count, Identity.isFingerprint, Nat.add_comm 1]

/-- What is counted is added to what has been counted before. -/
theorem foldl_count (t : Tally) (as : List Alert) : (as.map Alert.identity).foldl count t = t + ofAlerts as := by
  induction as generalizing t with
  | nil => rfl
  | cons a as ih =>
    rw [List.map_cons, List.foldl_cons, ih, ofAlerts_cons]
    cases a.identity <;> simp [add_def, count, Nat.add_assoc]

theorem ofAlerts_eq (as : List Alert) : ofAlerts as = ofIdentities (as.map Alert.identity) := by
  rw [ofIdentities, foldl_count, add_def]
  simp

theorem ofAlerts_append (as bs : List Alert) : ofAlerts (as ++ bs) = ofAlerts as + ofAlerts bs := by
  rw [ofAlerts, add_def, List.length_append, List.countP_append, List.countP_append]
  rfl

theorem ofAlerts_perm {as bs : List Alert} (h : as.Perm bs) : ofAlerts as = ofAlerts bs := by
  rw [ofAlerts, ofAlerts, h.length_eq, h.countP_eq, h.countP_eq]

/-- Every identity is of one of the two kinds. -/
theorem total_ofAlerts (as : List Alert) :
    (ofAlerts as).total = (ofAlerts as).byFingerprint + (ofAlerts as).byRuleLocation := by
  rw [ofAlerts]
  simpa using List.length_eq_countP_add_countP (fun a : Alert => a.identity.isFingerprint) (l := as)

end Tally

namespace AlertSet

/-! ## Sets and diffs -/

variable (s t : AlertSet)

/-- The matched findings are the same, whichever set is the subject. -/
theorem identities_diff_matched_comm :
    (s.diff t).matched.map Alert.identity = (t.diff s).matched.map Alert.identity := by
  rw [identities_diff_matched, identities_diff_matched]
  refine eq_of_increasing id (s.increasing_identities.filter _) (t.increasing_identities.filter _) fun i => ?_
  simp only [List.mem_filter, decide_eq_true_iff, and_comm]

theorem tally_eq_new_add_matched : s.tally = Tally.ofAlerts (s.diff t).new + (s.diff t).matchedTally := by
  rw [Diff.matchedTally, ← Tally.ofAlerts_append, Tally.ofAlerts_perm (new_append_matched_perm s t), tally]

theorem matchedTally_comm : (s.diff t).matchedTally = (t.diff s).matchedTally := by
  rw [Diff.matchedTally, Diff.matchedTally, Tally.ofAlerts_eq, identities_diff_matched_comm, ← Tally.ofAlerts_eq]

theorem size_ofList (as : List Alert) : (ofList as).size = (as.map Alert.identity).dedup.length := by
  rw [← (identities_ofList_perm as).length_eq, identities, List.length_map, size]

theorem mem_identities_iff (i : Identity) : i ∈ s.identities ↔ ∃ a, s.get? i = some a := by
  simp only [identities, List.mem_map, get?_eq_some_iff]

/-- **The statistics of two sets add up**: those of the subject are those of the new and of the matched alerts of the
diff, those of the other set are those of the fixed and of the matched ones, and the diff the other way round has the
same matched statistics. They count the identities under which alerts are found in the set, each of which is that of the
alert itself; for the set made of a list, these are the different identities in the list. -/
theorem tallies_add_up :
    s.tally = Tally.ofAlerts (s.diff t).new + (s.diff t).matchedTally ∧
    t.tally = Tally.ofAlerts (s.diff t).fixed + (s.diff t).matchedTally ∧
    (s.diff t).matchedTally = (t.diff s).matchedTally ∧
    (s.diff t).matchedTally = Tally.ofIdentities ((s.diff t).matched.map Alert.identity) ∧
    s.tally = Tally.ofIdentities s.identities ∧
    (∀ i, i ∈ s.identities ↔ ∃ a, s.get? i = some a) ∧
    (∀ i a, s.get? i = some a → a.identity = i) ∧
    (∀ as, (Tally.ofAlerts as).total = (Tally.ofAlerts as).byFingerprint + (Tally.ofAlerts as).byRuleLocation) ∧
    s.tally.total = s.size ∧
    ∀ as, (ofList as).size = (as.map Alert.identity).dedup.length := by
  refine ⟨tally_eq_new_add_matched s t, ?_, matchedTally_comm s t, Tally.ofAlerts_eq _, Tally.ofAlerts_eq _,
    mem_identities_iff s, ?_, Tally.total_ofAlerts, rfl, size_ofList⟩
  · -- what is fixed for the one side is new for the other
    rw [matchedTally_comm]
    exact tally_eq_new_add_matched t s
  · intro i a h
    exact ((get?_eq_some_iff s i a).1 h).2

end AlertSet

end ScanDelta

import Mathlib.Data.List.Dedup
import ScanDelta.Proofs.Alert.Lookup

/-!
# The identities in a set of alerts

* `AlertSet.identities s` : the identities of the alerts of `s`, in increasing order (`increasing_identities`);
* `identities_ofList_perm` : each identity in a list is in the set made of it once;
* `identities_ofList_congr` : those of a set made of a list depend on the identities in the list alone;
* `identities_diff_new`, `identities_diff_fixed`, `identities_diff_matched` : so do those in a diff of two sets;
* `new_append_matched_perm` : new and matched alerts are the subject, parted in two;
* `ext_get?` : sets in which all look-ups agree are equal;
* `Rearranged key xs ys` : the same items in another order, but in the same order where the key is the same;
* `ofList_eq_of_rearranged` : alerts rearranged by identity make the same set.
-/

set_option autoImplicit false

namespace ScanDelta

/-! ## Lists in increasing order -/

theorem nodup_of_increasing {α : Type} (f : α → Identity) {as : List α} (h : as.Pairwise fun a b => f a < f b) :
    as.Nodup := by
  refine h.imp fun {a b} hab heq => ?_
  rw [heq] at hab
  exact Identity.lt_irrefl _ hab

/-- What is in a list in increasing order determines it. -/
theorem eq_of_increasing {α : Type} (f : α → Identity) {as bs : List α} (ha : as.Pairwise fun a b => f a < f b)
    (hb : bs.Pairwise fun a b => f a < f b) (h : ∀ a, a ∈ as ↔ a ∈ bs) : as = bs := by
  have hperm : as.Perm bs :=
    (List.perm_ext_iff_of_nodup (nodup_of_increasing f ha) (nodup_of_increasing f hb)).2 h
  refine hperm.eq_of_pairwise (fun a b _ _ hab hba => ?_) ha hb
  exact absurd (Identity.lt_trans hab hba) (Identity.lt_irrefl _)

namespace AlertSet

/-! ## Identities -/

def identities (s : AlertSet) : List Identity := s.alerts.map Alert.identity

theorem increasing_identities (s : AlertSet) : s.identities.Pairwise fun i j => i < j :=
  List.pairwise_map.2 s.increasing

theorem contains_iff_mem (s : AlertSet) (i : Identity) : s.contains i = true ↔ i ∈ s.identities := by
  rw [contains_iff, identities, List.mem_map]

theorem mem_identities_ofList (as : List Alert) (i : Identity) :
    i ∈ (ofList as).identities ↔ i ∈ as.map Alert.identity := by
  rw [← contains_iff_mem, contains_ofList_iff, List.mem_map]

theorem nodup_identities (s : AlertSet) : s.identities.Nodup := nodup_of_increasing id s.increasing_identities

/-- Each identity in the list is in the set once. -/
theorem identities_ofList_perm (as : List Alert) : (ofList as).identities.Perm (as.map Alert.identity).dedup := by
  refine (List.perm_ext_iff_of_nodup (nodup_identities _) (List.nodup_dedup _)).2 fun i => ?_
  rw [mem_identities_ofList, List.mem_dedup]

theorem identities_ofList_congr {as bs : List Alert} (h : as.map Alert.identity = bs.map Alert.identity) :
    (ofList as).identities = (ofList bs).identities := by
  refine eq_of_increasing id (increasing_identities _) (increasing_identities _) fun i => ?_
  rw [mem_identities_ofList, mem_identities_ofList, h]

/-! ## Identities in a diff -/

theorem contains_eq_decide (s : AlertSet) (i : Identity) : s.contains i = decide (i ∈ s.identities) := by
  rw [Bool.eq_iff_iff, contains_iff_mem, decide_eq_true_iff]

/-- A test that looks at identities alone can be made on them. -/
theorem identities_filter (s : AlertSet) (p : Identity → Bool) :
    (s.alerts.filter fun a => p a.identity).map Alert.identity = s.identities.filter p :=
  List.filter_map.symm

section Diff
variable (s t : AlertSet)

theorem identities_diff_new :
    (s.diff t).new.map Alert.identity = s.identities.filter fun i => !decide (i ∈ t.identities) := by
  rw [← identities_filter, diff]
  simp only [contains_eq_decide]

theorem identities_diff_fixed :
    (s.diff t).fixed.map Alert.identity = t.identities.filter fun i => !decide (i ∈ s.identities) :=
  identities_diff_new t s

theorem identities_diff_matched :
    (s.diff t).matched.map Alert.identity = s.identities.filter fun i => decide (i ∈ t.identities) := by
  rw [← identities_filter, diff]
  simp only [contains_eq_decide]

theorem new_append_matched_perm : ((s.diff t).new ++ (s.diff t).matched).Perm s.alerts := by
  have hswap : ((s.diff t).new ++ (s.diff t).matched).Perm ((s.diff t).matched ++ (s.diff t).new) :=
    List.perm_append_comm
  exact hswap.trans (List.filter_append_perm (fun a : Alert => t.contains a.identity) s.alerts)

end Diff

/-! ## Equal sets -/

theorem mem_alerts_iff (s : AlertSet) (a : Alert) : a ∈ s.alerts ↔ s.get? a.identity = some a := by
  rw [get?_eq_some_iff]
  exact (and_iff_left rfl).symm

theorem ext_get? {s t : AlertSet} (h : ∀ i, s.get? i = t.get? i) : s = t := by
  have halerts : s.alerts = t.alerts := by
    refine eq_of_increasing Alert.identity s.increasing t.increasing fun a => ?_
    rw [mem_alerts_iff, mem_alerts_iff, h]
  cases s
  cases t
  cases halerts
  rfl

/-! ## The order of insertion -/

/-- The same items in another order, but in the same order where the key is the same. -/
structure Rearranged {α : Type} (key : α → Identity) (xs ys : List α) : Prop where
  perm : xs.Perm ys
  sameOrder (i : Identity) : xs.filter (fun x => key x = i) = ys.filter fun y => key y = i

/-- Neighbours with different keys may change places. -/
theorem Rearranged.swap {α : Type} {key : α → Identity} {x y : α} (h : key x ≠ key y) (xs : List α) :
    Rearranged key (x :: y :: xs) (y :: x :: xs) where
  perm := .swap y x xs
  sameOrder i := by
    by_cases hx : key x = i
    · have hy : key y ≠ i := fun hy => h (hx.trans hy.symm)
      simp [hx, hy]
    · simp [List.filter_cons, hx]

theorem Rearranged.map {α : Type} {f : α → Alert} {xs ys : List α}
    (h : Rearranged (fun x => (f x).identity) xs ys) : Rearranged Alert.identity (xs.map f) (ys.map f) where
  perm := h.perm.map f
  sameOrder i := by
    rw [List.filter_map, List.filter_map]
    exact congrArg (List.map f) (h.sameOrder i)

/-- Of the alerts of one identity the last one stands in the set, wherever it is in the list. -/
theorem ofList_eq_of_rearranged {as bs : List Alert} (h : Rearranged Alert.identity as bs) :
    ofList as = ofList bs := by
  refine ext_get? fun i => ?_
  rw [get?_ofList, get?_ofList, ← List.getLast?_filter, ← List.getLast?_filter, h.sameOrder i]

end AlertSet

end ScanDelta

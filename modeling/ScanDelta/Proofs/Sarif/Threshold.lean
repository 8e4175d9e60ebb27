import ScanDelta.Proofs.Json.Candidates
import ScanDelta.Proofs.Level
import ScanDelta.Proofs.Reconcile

/-!
# Thresholds

* `atThreshold_atThreshold` : two thresholds, one after the other, are the higher one;
* `new_atThreshold_sublist` : a higher threshold leaves fewer of the new alerts;
* `select_remote_of_le` : what turns to the service at a threshold does so at every higher one;
* `thresholds_compose` : all of this, and what a threshold leaves.
-/

set_option autoImplicit false

namespace ScanDelta.Baseline

variable (b : Baseline)

/-- Two thresholds are the higher one. -/
theorem atThreshold_atThreshold (s t : Level) : (b.atThreshold s).atThreshold t = b.atThreshold (s.max t) := by
  simp only [atThreshold, List.filter_filter, Level.meets_max, Bool.and_comm]

/-- A lower threshold does not matter before a higher one. -/
theorem atThreshold_of_le {s t : Level} (h : s.rank ≤ t.rank) : (b.atThreshold s).atThreshold t = b.atThreshold t := by
  rw [atThreshold_atThreshold, Level.max, if_pos h]

theorem new_atThreshold_sublist {s t : Level} (h : s.rank ≤ t.rank) :
    (b.atThreshold t).new.Sublist (b.atThreshold s).new := by
  rw [← b.atThreshold_of_le h]
  exact List.filter_sublist

/-- The new alerts at a threshold are the ones that reach it, in order. -/
theorem offered_new_atThreshold (t : Level) :
    Offered (fun (a x : Alert) => t.rank ≤ a.level.rank ∧ x = a) b.new (b.atThreshold t).new := by
  have hkept : ∀ a x : Alert,
      Option.guard (fun a => a.level.meets t) a = some x ↔ t.rank ≤ a.level.rank ∧ x = a := by
    intro a x
    rw [Option.guard_eq_some_iff, Level.meets_iff, and_comm, eq_comm (a := a)]
  refine (offered_iff hkept _ _).2 ?_
  rw [List.filterMap_eq_filter]
  rfl

/-! ## The choice of a comparison -/

/-- What turns to the service at a threshold does so at every higher one, for the same ref. -/
theorem select_remote_of_le {s t : Level} (h : s.rank ≤ t.rank) {r : Option String} {ref : String}
    (hs : Strategy.select (b.atThreshold s) r = .remote ref) : Strategy.select (b.atThreshold t) r = .remote ref := by
  rw [Strategy.select_eq_remote_iff] at hs ⊢
  obtain ⟨hnew, hrest⟩ := hs
  refine ⟨fun a ha => ?_, hrest⟩
  have hbelow := hnew a ha
  rw [← Bool.not_eq_true, Level.meets_iff] at hbelow ⊢
  omega

/-- Absent alerts decide, whatever the threshold. -/
theorem select_of_absent (h : b.absent ≠ []) (t : Level) (r : Option String) :
    Strategy.select (b.atThreshold t) r = .baseline := by
  cases hsel : Strategy.select (b.atThreshold t) r with
  | baseline => rfl
  | remote ref => exact absurd ((Strategy.select_eq_remote_iff b t r ref).1 hsel).2.1 h

/-- **Thresholds compose.** Two of them, one after the other, are the higher one. A threshold leaves the absent alerts
alone and keeps the new ones that reach it, in order; a higher one keeps fewer of them. So a run that turns to the
service at a threshold turns to it at every higher one, for the same ref, and absent alerts keep it from doing so at
each. -/
theorem thresholds_compose (b : Baseline) (s t : Level) (r : Option String) :
    (b.atThreshold s).atThreshold t = b.atThreshold (s.max t) ∧ (s.max t).rank = Nat.max s.rank t.rank ∧
      (b.atThreshold t).absent = b.absent ∧
      Offered (fun (a x : Alert) => t.rank ≤ a.level.rank ∧ x = a) b.new (b.atThreshold t).new ∧
      (s.rank ≤ t.rank → (b.atThreshold t).new.Sublist (b.atThreshold s).new) ∧
      (∀ ref, s.rank ≤ t.rank → Strategy.select (b.atThreshold s) r = .remote ref →
        Strategy.select (b.atThreshold t) r = .remote ref) ∧
      (b.absent ≠ [] → Strategy.select (b.atThreshold t) r = .baseline) :=
  ⟨b.atThreshold_atThreshold s t, Level.rank_max s t, rfl, b.offered_new_atThreshold t, b.new_atThreshold_sublist,
    fun _ h => b.select_remote_of_le h, fun h => b.select_of_absent h t r⟩

/-- A new alert of this level. -/
def newAlert (level : Level) : Alert :=
  ⟨none, none, "R", level, "m", "a.py:1", none, none, none, none, none⟩

/-- A warning and a note that are new, and nothing absent. -/
def twoNew : Baseline := ⟨[newAlert .warning, newAlert .note], []⟩

theorem thresholds_compose_twoNew :
    (Level.note.rank ≤ Level.warning.rank ∧
      (twoNew.atThreshold .warning).new.Sublist (twoNew.atThreshold .note).new) ∧
    (Level.warning.rank ≤ Level.error.rank ∧
      Strategy.select (({ twoNew with new := [newAlert .note] }).atThreshold .warning) (some "main") = .remote "main" ∧
      Strategy.select (({ twoNew with new := [newAlert .note] }).atThreshold .error) (some "main") = .remote "main") ∧
    (twoNew.new ≠ [] ∧
      Strategy.select (({ twoNew with absent := twoNew.new }).atThreshold .error) (some "main") = .baseline) := by
  have hnotes : Strategy.select (({ twoNew with new := [newAlert .note] }).atThreshold .warning) (some "main") =
      .remote "main" := by decide
  refine ⟨⟨by decide, ?_⟩, ⟨by decide, hnotes, ?_⟩, ⟨by decide, ?_⟩⟩
  · exact (thresholds_compose twoNew .note .warning none).2.2.2.2.1 (by decide)
  · exact (thresholds_compose _ .warning .error (some "main")).2.2.2.2.2.1 "main" (by decide) hnotes
  · exact (thresholds_compose _ .note .error (some "main")).2.2.2.2.2.2 (by decide)

end ScanDelta.Baseline

import ScanDelta.Proofs.Reconcile

/-!
# The outcomes of runs

* `Reconcile.Shown d s b` : the scan can be loaded, and shows these results;
* `Reconcile.outcome_of_run` : an outcome is what the scan shows, before and after the threshold, or a comparison.
-/

set_option autoImplicit false

namespace ScanDelta.Reconcile

/-- The scan can be loaded, and these are its new and absent results. -/
def Shown (d : Disk) (s : Settings) (b : Baseline) : Prop :=
  ∃ document, result (Sarif.load d s.sarifPath) = .ok document ∧ b = (Baseline.collect document).value

theorem shown_of_classify {d : Disk} {s : Settings} {b : Baseline} {choice : Strategy}
    (h : result (classify d s) = .ok (b, choice)) : Shown d s b := by
  rw [result_classify] at h
  cases hload : result (Sarif.load d s.sarifPath) with
  | error e =>
    rw [hload] at h
    cases h
  | ok document =>
    rw [hload] at h
    exact ⟨document, hload, (Prod.mk.inj (Except.ok.inj h)).1.symm⟩

/-- What a run comes to. -/
theorem outcome_of_run {connect : Connector} {d : Disk} {s : Settings} {o : Outcome}
    (h : result (run connect d s) = .ok o) :
    o.threshold = s.minLevel ∧
      ((∃ b, Shown d s b ∧ o.findings = .baseline (b.atThreshold s.minLevel) b) ∨
        ∃ service ref c, result (Remote.compare service ref) = .ok c ∧ o.findings = .remote c) := by
  have hcourse := course_run connect d s
  rw [h] at hcourse
  generalize hr : Except.ok o = r at hcourse
  generalize trace (run connect d s) = events at hcourse
  cases hcourse with
  | unread | noRepository | noToken | refused => cases hr
  | classified ns hb =>
    cases hr
    exact ⟨rfl, .inl ⟨_, shown_of_classify hb, rfl⟩⟩
  | @compared ns ns' ref token repo service hturns hrepo htoken hne hc =>
    cases hcompare : result (Remote.compare service ref) with
    | error e =>
      rw [hcompare] at hr
      cases hr
    | ok c =>
      rw [hcompare] at hr
      cases hr
      exact ⟨rfl, .inr ⟨service, ref, c, hcompare, rfl⟩⟩

end ScanDelta.Reconcile

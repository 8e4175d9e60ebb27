import ScanDelta.Proofs.Remote.KeyData
import ScanDelta.Proofs.Remote.PullRequest

/-!
# Comparisons and what alerts look like

* `Findings`, `Comparison.findings` : a comparison with nothing but the identities of its alerts;
* `SameAnswer r r'` : two answers with the same number of raw objects, that have the same key data pairwise;
* `SameKeys s s'` : two services that differ in nothing but what their alerts show beside the key data;
* `SameAnswer.readFrom` : what holds of each page holds of the whole listing;
* `findings_compare_eq` : the findings of a comparison are the same for such services.
-/

set_option autoImplicit false

namespace ScanDelta.Remote

/-! ## Findings -/

/-- The ref of a further comparison, and the identities in its two lists. -/
structure FurtherFindings where
  against : String
  new : List Identity
  fixed : List Identity
  deriving DecidableEq, Repr

def Secondary.findings (x : Secondary) : FurtherFindings :=
  ⟨x.against, x.new.map Alert.identity, x.fixed.map Alert.identity⟩

/-- A comparison with nothing but the identities of its alerts. -/
structure Findings where
  new : List Identity
  fixed : List Identity
  matched : List Identity
  vsPreviousCommit : Option FurtherFindings
  vsBranchPoint : Option FurtherFindings
  baseSha : Option String
  previousCommit : Option String
  deriving DecidableEq, Repr

def Comparison.findings (c : Comparison) : Findings where
  new := c.new.map Alert.identity
  fixed := c.fixed.map Alert.identity
  matched := c.matched.map Alert.identity
  vsPreviousCommit := c.vsPreviousCommit.map Secondary.findings
  vsBranchPoint := c.vsBranchPoint.map Secondary.findings
  baseSha := c.baseSha
  previousCommit := c.previousCommit

/-! ## Answers with the same key data -/

/-- As many raw objects with the same key data, or the same failure. -/
inductive SameAnswer : Except Failure (List Json) → Except Failure (List Json) → Prop
  | ok {xs ys : List Json} (h : List.Forall₂ SameKeyData xs ys) : SameAnswer (.ok xs) (.ok ys)
  | error (e : Failure) : SameAnswer (.error e) (.error e)

theorem SameAnswer.eq_ok_or_eq_error {r r' : Except Failure (List Json)} (h : SameAnswer r r') :
    (∃ xs ys, r = .ok xs ∧ r' = .ok ys ∧ List.Forall₂ SameKeyData xs ys) ∨ ∃ e, r = .error e ∧ r' = .error e := by
  cases h with
  | ok hitems => exact .inl ⟨_, _, rfl, rfl, hitems⟩
  | error e => exact .inr ⟨e, rfl, rfl⟩

/-- If pages differ in what they show alone, so do listings. -/
theorem SameAnswer.readFrom {answers answers' : Nat → Except Failure (List Json)}
    (h : ∀ page, SameAnswer (answers page) (answers' page)) (budget page : Nat) :
    SameAnswer (readFrom answers budget page) (readFrom answers' budget page) := by
  induction budget generalizing page with
  | zero => exact .error Pages.endless
  | succ budget ih =>
    rw [Remote.readFrom, Remote.readFrom]
    obtain ⟨xs, ys, hr, hr', hitems⟩ | ⟨e, hr, hr'⟩ := (h page).eq_ok_or_eq_error
    · rw [hr, hr']
      cases hitems with
      | nil => exact .ok .nil
      | cons hx hxs =>
        obtain ⟨us, vs, hq, hq', hmore⟩ | ⟨e, hq, hq'⟩ := (ih (page + 1)).eq_ok_or_eq_error
        · rw [hq, hq']
          exact .ok (List.rel_append (.cons hx hxs) hmore)
        · rw [hq, hq']
          exact .error e
    · rw [hr, hr']
      exact .error e

theorem identities_setOf_eq {xs ys : List Json} (h : List.Forall₂ SameKeyData xs ys) :
    (setOf xs).identities = (setOf ys).identities := by
  refine identities_setOf_congr ?_
  induction h with
  | nil => rfl
  | cons hx _ ih => rw [List.map_cons, List.map_cons, hx.identityOf_eq, ih]

/-! ## Services with the same keys -/

/-- The same pages of raw objects with the same key data, and otherwise the same answers. -/
structure SameKeys (s s' : Service) : Prop where
  alerts (ref : Option String) (page : Nat) : SameAnswer (s.alertAnswers ref page) (s'.alertAnswers ref page)
  pull (number : Nat) : (s.pull number).value = (s'.pull number).value
  commits (number page : Nat) : (s.commitPage number page).value = (s'.commitPage number page).value

variable {s s' : Service}

theorem SameKeys.readAll (h : SameKeys s s') (ref : Option String) :
    SameAnswer (readAll (s.alertAnswers ref)) (readAll (s'.alertAnswers ref)) :=
  SameAnswer.readFrom (h.alerts ref) Pages.lastPage 1

theorem SameKeys.value_pullRefs_eq (h : SameKeys s s') (ref : String) :
    (pullRefs s ref).value = (pullRefs s' ref).value := by
  refine value_pullRefs_congr fun number _ => ⟨?_, ?_⟩
  · rw [Service.pullAnswer, Service.pullAnswer, h.pull]
  · have hpages : s.commitAnswers number = s'.commitAnswers number := by
      funext page
      rw [Service.commitAnswers, Service.commitAnswers, h.commits]
    rw [hpages]

/-- The findings of a diff follow from the identities in the two sets. -/
theorem findings_versus_congr {subject subject' : AlertSet} (hsubject : subject.identities = subject'.identities)
    {xs ys : List Json} (h : List.Forall₂ SameKeyData xs ys) (target : String) :
    (versus subject target xs).findings = (versus subject' target ys).findings := by
  rw [Secondary.findings, Secondary.findings, versus, versus]
  simp only [AlertSet.identities_diff_new, AlertSet.identities_diff_fixed, hsubject, identities_setOf_eq h]

theorem SameKeys.findings_furtherOf (h : SameKeys s s') {subject subject' : AlertSet}
    (hsubject : subject.identities = subject'.identities) (target : Option String) :
    (furtherOf s subject target).map Secondary.findings = (furtherOf s' subject' target).map Secondary.findings := by
  cases target with
  | none => rw [furtherOf, furtherOf, Option.bind_none, Option.bind_none]
  | some t =>
    rw [furtherOf, furtherOf, Option.bind_some, Option.bind_some, listed?, listed?]
    obtain ⟨xs, ys, hr, hr', hitems⟩ | ⟨e, hr, hr'⟩ := (h.readAll (some t)).eq_ok_or_eq_error
    · rw [hr, hr']
      cases hitems with
      | nil => rfl
      | cons hx hxs => exact congrArg some (findings_versus_congr hsubject (.cons hx hxs) t)
    · rw [hr, hr']
      rfl

theorem SameKeys.findings_comparisonOf (h : SameKeys s s') (ref : String) {xs xs' ys ys' : List Json}
    (hsubject : List.Forall₂ SameKeyData xs xs') (hdefault : List.Forall₂ SameKeyData ys ys') :
    (comparisonOf s ref (setOf xs) (setOf ys)).findings = (comparisonOf s' ref (setOf xs') (setOf ys')).findings := by
  have hx := identities_setOf_eq hsubject
  have hy := identities_setOf_eq hdefault
  rw [comparisonOf, comparisonOf, Comparison.findings, Comparison.findings, h.value_pullRefs_eq ref]
  simp only [AlertSet.identities_diff_new, AlertSet.identities_diff_fixed, AlertSet.identities_diff_matched, hx, hy,
    h.findings_furtherOf hx]

/-- **What alerts show beside their key data never affects matching**: comparisons through services with the same keys
fail alike, or have the same identities in all their lists. -/
theorem findings_compare_eq (h : SameKeys s s') (ref : String) :
    Comparison.findings <$> result (compare s ref) = Comparison.findings <$> result (compare s' ref) := by
  rw [result_compare, result_compare]
  obtain ⟨xs, xs', hx, hx', hsubject⟩ | ⟨e, hx, hx'⟩ := (h.readAll (some ref)).eq_ok_or_eq_error
  · rw [hx, hx', ok_bind, ok_bind]
    obtain ⟨ys, ys', hy, hy', hdefault⟩ | ⟨e, hy, hy'⟩ := (h.readAll none).eq_ok_or_eq_error
    · rw [hy, hy', ok_bind, ok_bind]
      exact congrArg Except.ok (h.findings_comparisonOf ref hsubject hdefault)
    · rw [hy, hy', error_bind, error_bind]
  · rw [hx, hx', error_bind, error_bind]

/-- Two alerts, of which one has a fingerprint. -/
def terse : List Json :=
  [.obj [("analysis_key", .str "k"), ("rule", .obj [("id", .str "r1")])],
    .obj [("most_recent_instance", .obj [("location", .obj [("path", .str "a.c"), ("start_line", .str "3")])]),
      ("rule", .obj [("id", .str "r")])]]

/-- The same, with much else to show. -/
def wordy : List Json :=
  [.obj [("fingerprint", .str "k"), ("html_url", .str "u"), ("rule", .obj [("id", .str "r2")])],
    .obj [("instances", .arr []),
      ("most_recent_instance", .obj [
        ("location", .obj [("end_line", .nat 9), ("path", .str "a.c"), ("start_line", .str "3")]),
        ("message", .obj [("text", .str "m")])]),
      ("number", .nat 4), ("rule", .obj [("id", .str "r"), ("name", .str "n")]), ("severity", .str "error")]]

/-- A service that lists these alerts for each ref, and the first of them alone for the default branch. -/
def showing (items : List Json) : Service :=
  .ofPages (fun ref => if ref = none then [items.take 1] else [items]) (rawPull "main") [[rawCommit "c1"]]

theorem sameKeyData_terse : List.Forall₂ SameKeyData terse wordy :=
  .cons ⟨by decide, by decide, by decide, fun h => absurd h (by decide)⟩
    (.cons ⟨by decide, by decide, by decide, fun _ => .nil⟩ .nil)

theorem sameKeys_showing {xs ys : List Json} (h : List.Forall₂ SameKeyData xs ys) :
    SameKeys (showing xs) (showing ys) where
  alerts ref page := by
    have hfirst : List.Forall₂ SameKeyData (xs.take 1) (ys.take 1) := by
      cases h with
      | nil => exact .nil
      | cons hx _ => exact .cons hx .nil
    cases ref with
    | none =>
      show SameAnswer (.ok ([xs.take 1].getD (page - 1) [])) (.ok ([ys.take 1].getD (page - 1) []))
      cases page - 1 with
      | zero => exact .ok hfirst
      | succ n => exact .ok .nil
    | some t =>
      show SameAnswer (.ok ([xs].getD (page - 1) [])) (.ok ([ys].getD (page - 1) []))
      cases page - 1 with
      | zero => exact .ok h
      | succ n => exact .ok .nil
  pull _ := rfl
  commits _ _ := rfl

theorem findings_compare_terse : SameKeys (showing terse) (showing wordy) ∧
    Comparison.findings <$> result (compare (showing terse) "refs/pull/7/merge") =
      Comparison.findings <$> result (compare (showing wordy) "refs/pull/7/merge") :=
  ⟨sameKeys_showing sameKeyData_terse, findings_compare_eq (sameKeys_showing sameKeyData_terse) "refs/pull/7/merge"⟩

end ScanDelta.Remote

import ScanDelta.Proofs.Remote.Comparison

/-!
# The sections of a comparison

* `Comparison.further c` : the comparisons with further refs;
* `Comparison.present c` : the alerts that a section lists as new or matched; `Comparison.gone c` : as fixed;
* `mem_alerts_of_mem_present`, `not_mem_of_mem_gone` : the former are the subject's, the latter are none of its findings;
* `identities_perm_dedup` : new and matched alerts are the findings of the subject, each once;
* `sections_compare_consistent` : no two sections of a comparison contradict each other.
-/

set_option autoImplicit false

namespace ScanDelta

/-! ## A diff and its subject -/

namespace AlertSet
variable {s t : AlertSet} {a : Alert}

theorem mem_alerts_of_mem_new (h : a ∈ (s.diff t).new) : a ∈ s.alerts := (List.mem_filter.1 h).1

theorem mem_alerts_of_mem_matched (h : a ∈ (s.diff t).matched) : a ∈ s.alerts := (List.mem_filter.1 h).1

theorem not_mem_of_mem_fixed (h : a ∈ (s.diff t).fixed) : a.identity ∉ s.identities := by
  have hcontains : s.contains a.identity = false := by simpa using (List.mem_filter.1 h).2
  intro hmem
  rw [(s.contains_iff_mem a.identity).2 hmem] at hcontains
  cases hcontains

end AlertSet

namespace Remote

/-! ## Sections -/

namespace Comparison

/-- The comparisons with further refs. -/
def further (c : Comparison) : List Secondary := c.vsPreviousCommit.toList ++ c.vsBranchPoint.toList

/-- The alerts that some section lists as new or as matched. -/
def present (c : Comparison) : List Alert := c.new ++ c.matched ++ c.further.flatMap (·.new)

/-- The alerts that some section lists as fixed. -/
def gone (c : Comparison) : List Alert := c.fixed ++ c.further.flatMap (·.fixed)

end Comparison

theorem eq_versus_of_furtherOf {s : Service} {subject : AlertSet} {target : Option String} {x : Secondary}
    (h : furtherOf s subject target = some x) : ∃ t items, x = versus subject t items := by
  obtain ⟨t, -, hx⟩ := Option.bind_eq_some_iff.1 h
  obtain ⟨items, -, -, hx⟩ := (versus?_eq_some_iff subject t _ x).1 hx
  exact ⟨t, items, hx⟩

section
variable {s : Service} {ref : String} {subject default : AlertSet}

/-- All sections are diffs of the same subject. -/
theorem eq_versus_of_mem_further {x : Secondary} (h : x ∈ (comparisonOf s ref subject default).further) :
    ∃ t items, x = versus subject t items := by
  rw [Comparison.further, vsPreviousCommit_comparisonOf, vsBranchPoint_comparisonOf, List.mem_append,
    Option.mem_toList, Option.mem_toList] at h
  exact h.elim eq_versus_of_furtherOf eq_versus_of_furtherOf

theorem mem_alerts_of_mem_further {x : Secondary} (hx : x ∈ (comparisonOf s ref subject default).further) {a : Alert}
    (ha : a ∈ x.new) : a ∈ subject.alerts := by
  obtain ⟨t, items, rfl⟩ := eq_versus_of_mem_further hx
  exact AlertSet.mem_alerts_of_mem_new ha

theorem mem_alerts_of_mem_present {a : Alert} (h : a ∈ (comparisonOf s ref subject default).present) :
    a ∈ subject.alerts := by
  rw [Comparison.present, List.mem_append, List.mem_append, List.mem_flatMap] at h
  rcases h with (hnew | hmatched) | ⟨x, hx, ha⟩
  · exact AlertSet.mem_alerts_of_mem_new hnew
  · exact AlertSet.mem_alerts_of_mem_matched hmatched
  · exact mem_alerts_of_mem_further hx ha

theorem not_mem_of_mem_gone {a : Alert} (h : a ∈ (comparisonOf s ref subject default).gone) :
    a.identity ∉ subject.identities := by
  rw [Comparison.gone, List.mem_append, List.mem_flatMap] at h
  rcases h with hfixed | ⟨x, hx, ha⟩
  · exact AlertSet.not_mem_of_mem_fixed hfixed
  · obtain ⟨t, items, rfl⟩ := eq_versus_of_mem_further hx
    exact AlertSet.not_mem_of_mem_fixed ha

end

/-- What is new or matched, as identities, are the findings of the subject, each of them once. -/
theorem identities_perm_dedup (items : List Json) (default : AlertSet) :
    ((((setOf items).diff default).new ++ ((setOf items).diff default).matched).map Alert.identity).Perm
      (items.map identityOf).dedup := by
  have hsubject := AlertSet.identities_ofList_perm (items.map plainAlertOf)
  rw [map_identity_plainAlertOf] at hsubject
  exact ((AlertSet.new_append_matched_perm _ _).map Alert.identity).trans hsubject

/-- **The sections of a comparison do not contradict each other**: what one of them lists as new or matched is fixed in
none; what is new against a further ref stands in the first lists as it is; and these hold each finding of the subject
once. -/
theorem sections_compare_consistent {s : Service} {ref : String} {c : Comparison} (h : result (compare s ref) = .ok c) :
    List.Disjoint (c.present.map Alert.identity) (c.gone.map Alert.identity) ∧
      (∀ x ∈ c.further, ∀ a ∈ x.new, a ∈ c.new ++ c.matched) ∧
      ∃ items, EndsWith (s.alertAnswers (some ref)) items ∧
        ((c.new ++ c.matched).map Alert.identity).Perm (items.map identityOf).dedup := by
  obtain ⟨items, ys, hitems, -, rfl⟩ := (compare_eq_ok_iff s ref c).1 h
  refine ⟨?_, ?_, items, hitems, identities_perm_dedup items (setOf ys)⟩
  · intro i hpresent hgone
    obtain ⟨a, ha, rfl⟩ := List.mem_map.1 hpresent
    obtain ⟨b, hb, hab⟩ := List.mem_map.1 hgone
    have hmem : b.identity ∈ (setOf items).identities := by
      rw [hab]
      exact List.mem_map_of_mem (mem_alerts_of_mem_present ha)
    exact not_mem_of_mem_gone hb hmem
  · intro x hx a ha
    exact (AlertSet.new_append_matched_perm _ _).mem_iff.2 (mem_alerts_of_mem_further hx ha)

/-- A pull request with one alert that the default branch has, too, and one that its base has. -/
def overlapping : Service :=
  .ofPages (fun ref => if ref = some "refs/pull/7/merge" then [[rawAlert "a", rawAlert "b"]]
      else if ref = none then [[rawAlert "b", rawAlert "c"]] else [[rawAlert "a", rawAlert "d"]])
    (rawPull "main") [[rawCommit "c1", rawCommit "c2"]]

theorem sections_compare_overlapping : ∃ c, result (compare overlapping "refs/pull/7/merge") = .ok c ∧
    List.Disjoint (c.present.map Alert.identity) (c.gone.map Alert.identity) ∧
      (∀ x ∈ c.further, ∀ a ∈ x.new, a ∈ c.new ++ c.matched) ∧
      ∃ items, EndsWith (overlapping.alertAnswers (some "refs/pull/7/merge")) items ∧
        ((c.new ++ c.matched).map Alert.identity).Perm (items.map identityOf).dedup := by
  have hsubject : EndsWith (overlapping.alertAnswers (some "refs/pull/7/merge")) [rawAlert "a", rawAlert "b"] :=
    Service.endsWith_ofPages _ _ _ _ (by simp) (by decide)
  have hdefault : EndsWith (overlapping.alertAnswers none) [rawAlert "b", rawAlert "c"] :=
    Service.endsWith_ofPages _ _ _ _ (by simp) (by decide)
  have hcompare := (compare_eq_ok_iff overlapping "refs/pull/7/merge" _).2 ⟨_, _, hsubject, hdefault, rfl⟩
  exact ⟨_, hcompare, sections_compare_consistent hcompare⟩

end Remote

end ScanDelta

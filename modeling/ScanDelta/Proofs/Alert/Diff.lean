import ScanDelta.Proofs.Alert.Lookup

/-!
# What a diff says of two lists of alerts

* `SameFinding a b` : the alerts are the same finding, said by their fields;
* `Precedes a b` : findings with a fingerprint come first, texts in code point order;
* `OccursIn a as` : the finding of `a` is one of `as`; `LastIn a as` : `a` is the last alert of `as` for it;
* `identity_eq_iff`, `identity_lt_iff` : identities say the same;
* `occursIn_diff_new`, `occursIn_diff_fixed`, `occursIn_diff_matched` : where a finding of two sets goes;
* `Classifies d L R` : what the three lists of `d` say of the findings of two lists;
* `diff_ofList_classifies` : the diff of the sets made of two lists says it.
-/

set_option autoImplicit false

namespace ScanDelta

namespace Alert

/-- Both have the same fingerprint, or none and the same rule at the same location. -/
def SameFinding (a b : Alert) : Prop :=
  (∃ key, a.analysisKey = some key ∧ b.analysisKey = some key) ∨
    (a.analysisKey = none ∧ b.analysisKey = none ∧ a.ruleId = b.ruleId ∧ a.location = b.location)

/-- Fingerprints come before rules with locations; then by the texts, the rule before the location. -/
def Precedes (a b : Alert) : Prop :=
  match a.analysisKey, b.analysisKey with
  | some key, some key' => key < key'
  | some _, none => True
  | none, some _ => False
  | none, none => a.ruleId < b.ruleId ∨ (a.ruleId = b.ruleId ∧ a.location < b.location)

/-- The finding of `a` is among the alerts. -/
def OccursIn (a : Alert) (as : List Alert) : Prop := ∃ b ∈ as, SameFinding a b

/-- `a` is one of the alerts, and none after it is the same finding. -/
def LastIn (a : Alert) (as : List Alert) : Prop :=
  ∃ before after, as = before ++ a :: after ∧ ∀ b ∈ after, ¬ SameFinding a b

/-! ## Identities -/

theorem identity_eq_iff (a b : Alert) : a.identity = b.identity ↔ SameFinding a b := by
  unfold identity SameFinding
  cases a.analysisKey <;> cases b.analysisKey <;> simp [eq_comm]

theorem identity_lt_iff (a b : Alert) : a.identity < b.identity ↔ Precedes a b := by
  rw [Identity.lt_def]
  unfold identity Precedes
  cases a.analysisKey <;> cases b.analysisKey <;> simp [Identity.before]

theorem Precedes.not_sameFinding {a b : Alert} (h : Precedes a b) : ¬ SameFinding a b := by
  intro hs
  rw [← identity_lt_iff, (identity_eq_iff a b).2 hs] at h
  exact Identity.lt_irrefl _ h

theorem lastIn_iff (a : Alert) (as : List Alert) :
    LastIn a as ↔ as.reverse.find? (fun b => b.identity = a.identity) = some a := by
  rw [List.find?_eq_some_iff_append]
  constructor
  · rintro ⟨before, after, rfl, h⟩
    refine ⟨by simp, after.reverse, before.reverse, by simp, fun b hb => ?_⟩
    have hne : ¬ a.identity = b.identity := fun he =>
      h b (List.mem_reverse.1 hb) ((identity_eq_iff a b).1 he)
    simpa using fun he => hne (Eq.symm he)
  · rintro ⟨-, after, before, has, h⟩
    refine ⟨before.reverse, after.reverse, ?_, fun b hb hab => ?_⟩
    · rw [← List.reverse_reverse as, has]
      simp
    · have hne := h b (List.mem_reverse.1 hb)
      simp [(identity_eq_iff a b).2 hab] at hne

end Alert

open Alert

namespace AlertSet

/-! ## Sets made of lists -/

theorem contains_ofList (as : List Alert) (a : Alert) :
    (ofList as).contains a.identity = true ↔ OccursIn a as := by
  rw [contains_ofList_iff]
  simp only [OccursIn, ← identity_eq_iff]
  constructor
  · rintro ⟨b, hb, h⟩
    exact ⟨b, hb, h.symm⟩
  · rintro ⟨b, hb, h⟩
    exact ⟨b, hb, h.symm⟩

theorem occursIn_alerts_ofList (as : List Alert) (a : Alert) :
    OccursIn a (ofList as).alerts ↔ OccursIn a as := by
  rw [← contains_ofList as a, contains_iff]
  simp only [OccursIn, ← identity_eq_iff, eq_comm]

theorem lastIn_of_mem_ofList {as : List Alert} {a : Alert} (h : a ∈ (ofList as).alerts) : LastIn a as := by
  rw [lastIn_iff, ← get?_ofList]
  exact ((ofList as).get?_eq_some_iff _ a).2 ⟨h, rfl⟩

theorem pairwise_precedes (s : AlertSet) : s.alerts.Pairwise Precedes :=
  s.increasing.imp fun h => (identity_lt_iff _ _).1 h

/-! ## The three lists of a diff -/

/-- A test that looks at identities alone picks a finding or leaves it out, whichever alert stands for it. -/
theorem occursIn_filter (as : List Alert) (p : Identity → Bool) (a : Alert) :
    OccursIn a (as.filter fun b => p b.identity) ↔ OccursIn a as ∧ p a.identity = true := by
  simp only [OccursIn, ← identity_eq_iff, List.mem_filter]
  constructor
  · rintro ⟨b, ⟨hb, hp⟩, hab⟩
    exact ⟨⟨b, hb, hab⟩, hab ▸ hp⟩
  · rintro ⟨⟨b, hb, hab⟩, hp⟩
    exact ⟨b, ⟨hb, hab ▸ hp⟩, hab⟩

variable (L R : List Alert) (a : Alert)

theorem occursIn_diff_new :
    OccursIn a ((ofList L).diff (ofList R)).new ↔ OccursIn a L ∧ ¬ OccursIn a R := by
  rw [diff, occursIn_filter _ (fun i => !(ofList R).contains i), occursIn_alerts_ofList, ← contains_ofList R a]
  simp

theorem occursIn_diff_fixed :
    OccursIn a ((ofList L).diff (ofList R)).fixed ↔ OccursIn a R ∧ ¬ OccursIn a L := by
  rw [diff, occursIn_filter _ (fun i => !(ofList L).contains i), occursIn_alerts_ofList, ← contains_ofList L a]
  simp

theorem occursIn_diff_matched :
    OccursIn a ((ofList L).diff (ofList R)).matched ↔ OccursIn a L ∧ OccursIn a R := by
  rw [diff, occursIn_filter _ (fun i => (ofList R).contains i), occursIn_alerts_ofList, ← contains_ofList R a]

/-! ## The classification -/

/-- The three lists of `d` sort the findings of `L` and `R`: by where a finding occurs, in order and without
repetition, each shown by the last alert for it, of `L` where it is new or matched and of `R` where it is fixed. -/
structure Classifies (d : Diff) (L R : List Alert) : Prop where
  occursIn_new (a : Alert) : OccursIn a d.new ↔ OccursIn a L ∧ ¬ OccursIn a R
  occursIn_fixed (a : Alert) : OccursIn a d.fixed ↔ OccursIn a R ∧ ¬ OccursIn a L
  occursIn_matched (a : Alert) : OccursIn a d.matched ↔ OccursIn a L ∧ OccursIn a R
  inOrder : ∀ as ∈ [d.new, d.fixed, d.matched], as.Pairwise Precedes
  distinct : ∀ as ∈ [d.new, d.fixed, d.matched], as.Pairwise fun a b => ¬ SameFinding a b
  lastIn_new : ∀ a ∈ d.new, LastIn a L
  lastIn_fixed : ∀ a ∈ d.fixed, LastIn a R
  lastIn_matched : ∀ a ∈ d.matched, LastIn a L

/-- **A diff classifies every finding of two lists once.** -/
theorem diff_ofList_classifies (L R : List Alert) : Classifies ((ofList L).diff (ofList R)) L R := by
  have inOrder : ∀ as ∈ [((ofList L).diff (ofList R)).new, ((ofList L).diff (ofList R)).fixed,
      ((ofList L).diff (ofList R)).matched], as.Pairwise Precedes := by
    intro as has
    simp only [List.mem_cons, List.not_mem_nil, or_false] at has
    rcases has with rfl | rfl | rfl
    · exact (pairwise_precedes (ofList L)).filter _
    · exact (pairwise_precedes (ofList R)).filter _
    · exact (pairwise_precedes (ofList L)).filter _
  constructor
  case occursIn_new => exact occursIn_diff_new L R
  case occursIn_fixed => exact occursIn_diff_fixed L R
  case occursIn_matched => exact occursIn_diff_matched L R
  case inOrder => exact inOrder
  case distinct => exact fun as has => (inOrder as has).imp fun h => h.not_sameFinding
  case lastIn_new => exact fun a ha => lastIn_of_mem_ofList (List.mem_filter.1 ha).1
  case lastIn_fixed => exact fun a ha => lastIn_of_mem_ofList (List.mem_filter.1 ha).1
  case lastIn_matched => exact fun a ha => lastIn_of_mem_ofList (List.mem_filter.1 ha).1

end AlertSet

end ScanDelta

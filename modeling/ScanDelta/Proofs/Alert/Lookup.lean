import ScanDelta.Alert.Set

/-!
# Looking up findings in a set of alerts

* `AlertSet.get? s i` : the alert of `s` that stands for the identity `i`;
* `get?_insert`, `get?_ofList` : an insertion overwrites, so the alert inserted last stands for its identity;
* `get?_eq_some_iff` : look-up and membership agree, since no identity stands twice in a set;
* `isEmpty_ofList` : a set is empty only if nothing was inserted.
-/

set_option autoImplicit false

namespace ScanDelta.AlertSet

/-- The alert that stands for an identity. -/
def get? (s : AlertSet) (i : Identity) : Option Alert := s.alerts.find? fun a => a.identity = i

/-! ## Insertion -/

theorem find?_place (a : Alert) (bs : List Alert) (i : Identity) :
    (place a bs).find? (fun x => x.identity = i) =
      if a.identity = i then some a else bs.find? fun x => x.identity = i := by
  induction bs with
  | nil => by_cases h : a.identity = i <;> simp [place, h]
  | cons b bs ih =>
    rw [place]
    split
    · by_cases h : a.identity = i <;> simp [h]
    split
    · rename_i _ hab
      by_cases h : a.identity = i
      · simp [h]
      · rw [if_neg h, List.find?_cons_of_neg (by simpa using h),
          List.find?_cons_of_neg (by simpa using hab ▸ h)]
    · rename_i _ hab
      by_cases hb : b.identity = i
      · have ha : a.identity ≠ i := fun h => hab (h.trans hb.symm)
        rw [if_neg ha, List.find?_cons_of_pos (by simpa using hb), List.find?_cons_of_pos (by simpa using hb)]
      · rw [List.find?_cons_of_neg (by simpa using hb), List.find?_cons_of_neg (by simpa using hb), ih]

theorem get?_insert (s : AlertSet) (a : Alert) (i : Identity) :
    (s.insert a).get? i = if a.identity = i then some a else s.get? i :=
  find?_place a s.alerts i

theorem ofList_concat (as : List Alert) (a : Alert) : ofList (as ++ [a]) = (ofList as).insert a := by
  rw [ofList, List.foldl_append]
  rfl

/-- The alert inserted last stands for its identity. -/
theorem get?_ofList (as : List Alert) (i : Identity) :
    (ofList as).get? i = as.reverse.find? fun a => a.identity = i := by
  rw [← List.reverse_reverse as]
  generalize as.reverse = rs
  rw [List.reverse_reverse]
  -- by induction on the alerts from the last one on
  induction rs with
  | nil => rfl
  | cons r rs ih =>
    rw [List.reverse_cons, ofList_concat, get?_insert, ih, List.find?_cons]
    by_cases h : r.identity = i <;> simp [h]

/-! ## Membership -/

theorem eq_of_pairwise {as : List Alert} (h : as.Pairwise fun a b => a.identity < b.identity) {a b : Alert}
    (ha : a ∈ as) (hb : b ∈ as) (hab : a.identity = b.identity) : a = b := by
  induction as with
  | nil => cases ha
  | cons c cs ih =>
    obtain ⟨hc, hcs⟩ := List.pairwise_cons.1 h
    rcases List.mem_cons.1 ha with hac | ha <;> rcases List.mem_cons.1 hb with hbc | hb
    · rw [hac, hbc]
    · exact absurd (hc b hb) (by rw [← hac, hab]; exact Identity.lt_irrefl _)
    · exact absurd (hc a ha) (by rw [← hbc, hab]; exact Identity.lt_irrefl _)
    · exact ih hcs ha hb

theorem get?_eq_some_iff (s : AlertSet) (i : Identity) (a : Alert) :
    s.get? i = some a ↔ a ∈ s.alerts ∧ a.identity = i := by
  constructor
  · intro h
    exact ⟨List.mem_of_find?_eq_some h, by simpa using List.find?_some h⟩
  · rintro ⟨ha, rfl⟩
    obtain ⟨b, hb⟩ : ∃ b, s.get? a.identity = some b := by
      rw [← Option.isSome_iff_exists, get?, List.find?_isSome]
      exact ⟨a, ha, by simp⟩
    have hba : b.identity = a.identity := by simpa using List.find?_some hb
    rw [hb, eq_of_pairwise s.increasing (List.mem_of_find?_eq_some hb) ha hba]

theorem contains_iff (s : AlertSet) (i : Identity) : s.contains i = true ↔ ∃ a ∈ s.alerts, a.identity = i := by
  simp [contains]

theorem contains_ofList_iff (as : List Alert) (i : Identity) :
    (ofList as).contains i = true ↔ ∃ a ∈ as, a.identity = i := by
  rw [contains_iff]
  constructor
  · rintro ⟨a, ha, rfl⟩
    have h := ((ofList as).get?_eq_some_iff a.identity a).2 ⟨ha, rfl⟩
    rw [get?_ofList] at h
    exact ⟨a, List.mem_reverse.1 (List.mem_of_find?_eq_some h), rfl⟩
  · rintro ⟨a, ha, rfl⟩
    obtain ⟨b, hb⟩ : ∃ b, (ofList as).get? a.identity = some b := by
      rw [← Option.isSome_iff_exists, get?_ofList, List.find?_isSome]
      exact ⟨a, List.mem_reverse.2 ha, by simp⟩
    exact ⟨b, ((ofList as).get?_eq_some_iff _ b).1 hb⟩

theorem isEmpty_ofList (as : List Alert) : (ofList as).isEmpty = true ↔ as = [] := by
  rw [isEmpty, List.isEmpty_iff]
  constructor
  · intro h
    cases as with
    | nil => rfl
    | cons a as =>
      have hc := (contains_ofList_iff (a :: as) a.identity).2 ⟨a, List.mem_cons_self .., rfl⟩
      rw [contains, h] at hc
      cases hc
  · rintro rfl
    rfl

end ScanDelta.AlertSet

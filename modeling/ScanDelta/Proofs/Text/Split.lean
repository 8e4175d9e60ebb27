import ScanDelta.Text.Split

/-!
# Texts cut and put together

* `splitOn_eq` : texts are cut at a character as lists are;
* `splitOn_ne_nil`, `splitOn_append` : there is always a piece, and a separator begins a new one;
* `length_splitOn`, `not_mem_of_mem_splitOn` : how many pieces there are, and what is not in them;
* `splitFirst_eq_some_iff`, `splitFirst_eq_none_iff` : what stands on the two sides of the first separator, if there is
  one;
* `splitOn_join` : names with slashes between them are found again;
* `toList_join_cons`, `mem_join` : the beginning and the characters of such a text.
-/

set_option autoImplicit false

namespace ScanDelta.Text

/-! ## Pieces -/

theorem splitOn_eq (sep : Char) (cs : List Char) : splitOn sep cs = cs.splitOn sep := by
  induction cs with
  | nil => rfl
  | cons c cs ih =>
    rw [splitOn, List.splitOn_cons_eq_if_modifyHead, ih]
    by_cases hc : c = sep
    · rw [if_pos hc, if_pos (beq_iff_eq.2 hc)]
    · rw [if_neg hc, if_neg (by simpa using hc)]
      cases hps : cs.splitOn sep with
      | nil => exact absurd hps (List.splitOnP_ne_nil _ cs)
      | cons p ps => rfl

theorem splitOn_ne_nil (sep : Char) (cs : List Char) : splitOn sep cs ≠ [] := by
  rw [splitOn_eq]
  exact List.splitOnP_ne_nil _ cs

/-- A separator ends a piece and begins the next one. -/
theorem splitOn_append (sep : Char) (xs ys : List Char) :
    splitOn sep (xs ++ sep :: ys) = splitOn sep xs ++ splitOn sep ys := by
  rw [splitOn_eq, splitOn_eq, splitOn_eq]
  exact List.splitOnP_append_cons xs ys (beq_self_eq_true sep)

/-- There is one piece more than there are separators. -/
theorem length_splitOn (sep : Char) (cs : List Char) : (splitOn sep cs).length = cs.count sep + 1 := by
  induction cs with
  | nil => rfl
  | cons c cs ih =>
    rw [splitOn]
    split
    · rename_i hc
      rw [List.length_cons, ih, hc, List.count_cons_self]
    · rename_i hc
      rw [List.count_cons_of_ne hc]
      cases hps : splitOn sep cs with
      | nil => exact absurd hps (splitOn_ne_nil sep cs)
      | cons p ps =>
        rw [hps] at ih
        exact ih

/-- No piece has a separator in it. -/
theorem not_mem_of_mem_splitOn {sep : Char} {cs piece : List Char} (h : piece ∈ splitOn sep cs) : sep ∉ piece := by
  induction cs generalizing piece with
  | nil =>
    obtain rfl := List.mem_singleton.1 h
    exact List.not_mem_nil
  | cons c cs ih =>
    rw [splitOn] at h
    split at h
    · rcases List.mem_cons.1 h with rfl | h
      · exact List.not_mem_nil
      · exact ih h
    · rename_i hc
      split at h
      · obtain rfl := List.mem_singleton.1 h
        exact fun hmem => hc (List.mem_singleton.1 hmem).symm
      · rename_i p ps hps
        rcases List.mem_cons.1 h with rfl | h
        · intro hmem
          rcases List.mem_cons.1 hmem with heq | hmem
          · exact hc heq.symm
          · exact ih (hps ▸ List.mem_cons_self) hmem
        · exact ih (hps ▸ List.mem_cons_of_mem _ h)

/-- What stands before and after the first separator: together with it the text, and there is none before. -/
theorem splitFirst_eq_some_iff (sep : Char) (cs a b : List Char) :
    splitFirst sep cs = some (a, b) ↔ cs = a ++ sep :: b ∧ sep ∉ a := by
  induction cs generalizing a with
  | nil => simp [splitFirst]
  | cons c cs ih =>
    rw [splitFirst]
    by_cases hc : c = sep
    · rw [if_pos hc, hc]
      cases a with
      | nil => simp
      | cons d a =>
        constructor
        · intro hsplit
          cases hsplit
        · rintro ⟨hcs, hnot⟩
          rw [(List.cons.inj hcs).1] at hnot
          exact absurd List.mem_cons_self hnot
    · rw [if_neg hc, Option.map_eq_some_iff]
      cases a with
      | nil => simp [hc]
      | cons d a =>
        constructor
        · rintro ⟨⟨x, y⟩, hsplit, hpair⟩
          obtain ⟨⟨rfl, rfl⟩, rfl⟩ : (c = d ∧ x = a) ∧ y = b := by simpa using hpair
          obtain ⟨rfl, hnot⟩ := (ih x).1 hsplit
          exact ⟨rfl, by simpa [Ne.symm hc] using hnot⟩
        · rintro ⟨hcs, hnot⟩
          obtain ⟨rfl, rfl⟩ := List.cons.inj hcs
          exact ⟨(a, b), (ih a).2 ⟨rfl, fun hmem => hnot (List.mem_cons_of_mem _ hmem)⟩, rfl⟩

theorem splitFirst_eq_none_iff (sep : Char) (cs : List Char) : splitFirst sep cs = none ↔ sep ∉ cs := by
  constructor
  · intro h hmem
    obtain ⟨a, b, hcs, ha⟩ := List.eq_append_cons_of_mem hmem
    rw [(splitFirst_eq_some_iff sep cs a b).2 ⟨hcs, ha⟩] at h
    cases h
  · intro h
    cases hsplit : splitFirst sep cs with
    | none => rfl
    | some pair =>
      obtain ⟨rfl, -⟩ := (splitFirst_eq_some_iff sep cs pair.1 pair.2).1 hsplit
      exact absurd (by simp) h

/-! ## Texts with a slash between any two -/

theorem toList_join (texts : List String) : (join "/" texts).toList = ['/'].intercalate (texts.map String.toList) :=
  String.toList_intercalate

theorem splitOn_join {l : List String} (hne : l ≠ []) (h : ∀ name ∈ l, '/' ∉ name.toList) :
    (splitOn '/' (join "/" l).toList).map String.ofList = l := by
  have hpieces : ∀ cs ∈ l.map String.toList, '/' ∉ cs := by
    intro cs hcs
    obtain ⟨name, hname, rfl⟩ := List.mem_map.1 hcs
    exact h name hname
  rw [toList_join, splitOn_eq, List.splitOn_intercalate '/' hpieces (by simpa using hne), List.map_map]
  exact (List.map_congr_left fun name _ => String.ofList_toList).trans (List.map_id l)

theorem toList_join_cons (name : String) (l : List String) :
    ∃ more, (join "/" (name :: l)).toList = name.toList ++ more := by
  cases l with
  | nil => exact ⟨[], by rw [join, String.intercalate_singleton, List.append_nil]⟩
  | cons second l =>
    refine ⟨('/' :: (join "/" (second :: l)).toList), ?_⟩
    rw [join, String.intercalate_cons_cons, String.toList_append, String.toList_append, List.append_assoc]
    rfl

theorem mem_join {l : List String} {c : Char} (h : c ∈ (join "/" l).toList) :
    c = '/' ∨ ∃ name ∈ l, c ∈ name.toList := by
  induction l with
  | nil => cases h
  | cons name l ih =>
    cases l with
    | nil =>
      rw [join, String.intercalate_singleton] at h
      exact .inr ⟨name, List.mem_cons_self, h⟩
    | cons second l =>
      rw [join, String.intercalate_cons_cons, String.toList_append, String.toList_append, List.mem_append,
        List.mem_append] at h
      rcases h with (h | h) | h
      · exact .inr ⟨name, List.mem_cons_self, h⟩
      · exact .inl (List.mem_singleton.1 h)
      · rcases ih h with rfl | ⟨name', hname', hc⟩
        · exact .inl rfl
        · exact .inr ⟨name', List.mem_cons_of_mem _ hname', hc⟩

end ScanDelta.Text

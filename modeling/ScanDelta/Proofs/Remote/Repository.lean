import ScanDelta.Proofs.Text.Split
import ScanDelta.Remote.Repository

/-!
# Combined names of repositories

* `Splits s r` : the text is that of the repository, whose owner has no slash, and neither part is empty;
* `Nameless s` : the text has no slash, begins with one, or ends at its first one;
* `parse?_eq_some_iff`, `parse?_eq_none_iff` : texts of the first kind are read, those of the second are not;
* `combined_names_are_texts_of_repositories` : all of it, with the way from a repository to its text and back.
-/

set_option autoImplicit false

namespace ScanDelta.Repository

/-- The first slash of the text stands between the owner and the name, neither of them empty. -/
structure Splits (s : String) (r : Repository) : Prop where
  text : s = r.text
  noSlash : '/' ∉ r.owner.toList
  owner : r.owner ≠ ""
  name : r.name ≠ ""

/-- The text names no repository: a part is missing, or there is no slash to part them. -/
inductive Nameless (s : String) : Prop
  | noSlash (hs : '/' ∉ s.toList) : Nameless s
  | noOwner (name : String) (hs : s = "/" ++ name) : Nameless s
  | noName (owner : String) (hslash : '/' ∉ owner.toList) (hs : s = owner ++ "/") : Nameless s

theorem toList_text (r : Repository) : r.text.toList = r.owner.toList ++ '/' :: r.name.toList := by
  rw [text, String.toList_append, String.toList_append, List.append_assoc]
  rfl

theorem parse?_eq_some_iff (s : String) (r : Repository) : parse? s = some r ↔ Splits s r := by
  have hparts : ∀ a b : List Char, (a.isEmpty || b.isEmpty) = true ↔ String.ofList a = "" ∨ String.ofList b = "" := by
    intro a b
    rw [Bool.or_eq_true, List.isEmpty_iff, List.isEmpty_iff, String.ofList_eq_empty_iff, String.ofList_eq_empty_iff]
  constructor
  · intro h
    rw [parse?] at h
    split at h
    case h_2 => cases h
    case h_1 a b hsplit =>
      obtain ⟨hs, hslash⟩ := (Text.splitFirst_eq_some_iff '/' _ a b).1 hsplit
      rw [Option.ite_none_left_eq_some, hparts, not_or] at h
      obtain ⟨⟨howner, hname⟩, hr⟩ := h
      obtain rfl := Option.some.inj hr
      refine ⟨String.toList_injective ?_, ?_, howner, hname⟩
      · rw [toList_text, String.toList_ofList, String.toList_ofList, hs]
      · rwa [String.toList_ofList]
  · rintro ⟨rfl, hslash, howner, hname⟩
    have hsplit := (Text.splitFirst_eq_some_iff '/' r.text.toList _ _).2 ⟨toList_text r, hslash⟩
    have hfull : ¬ (r.owner.toList.isEmpty || r.name.toList.isEmpty) = true := by
      rw [hparts, String.ofList_toList, String.ofList_toList]
      exact not_or.2 ⟨howner, hname⟩
    rw [parse?, hsplit]
    show (if _ then none else some _) = some r
    rw [if_neg hfull, String.ofList_toList, String.ofList_toList]

theorem parse?_eq_none_iff (s : String) : parse? s = none ↔ Nameless s := by
  constructor
  · intro h
    rw [parse?] at h
    split at h
    case h_2 hnone => exact .noSlash ((Text.splitFirst_eq_none_iff '/' _).1 hnone)
    case h_1 a b hsplit =>
      obtain ⟨hs, hslash⟩ := (Text.splitFirst_eq_some_iff '/' _ a b).1 hsplit
      have hempty : a = [] ∨ b = [] := Decidable.or_iff_not_imp_left.2 (by simpa using h)
      rcases hempty with rfl | rfl
      · refine .noOwner (String.ofList b) (String.toList_injective ?_)
        rw [hs, String.toList_append, String.toList_ofList, String.toList_ofList]
        rfl
      · refine .noName (String.ofList a) (by rwa [String.toList_ofList]) (String.toList_injective ?_)
        rw [hs, String.toList_append, String.toList_ofList]
        rfl
  · intro h
    cases h with
    | noSlash hs => rw [parse?, (Text.splitFirst_eq_none_iff '/' _).2 hs]
    | noOwner name hs =>
      have hsplit : Text.splitFirst '/' s.toList = some ([], name.toList) := by
        rw [Text.splitFirst_eq_some_iff, hs, String.toList_append]
        exact ⟨rfl, List.not_mem_nil⟩
      rw [parse?, hsplit]
      rfl
    | noName owner hslash hs =>
      have hsplit : Text.splitFirst '/' s.toList = some (owner.toList, []) := by
        rw [Text.splitFirst_eq_some_iff, hs, String.toList_append]
        exact ⟨rfl, hslash⟩
      rw [parse?, hsplit]
      exact if_pos (Bool.or_true _)

/-- **A combined name is read as the repository it is the text of.** A text is read as just the repository with this
text, if its parts are not empty and its owner has no slash; so the first of several slashes parts the two, and the
others belong to the name. Each such repository is read from its text, and what names none is refused. -/
theorem combined_names_are_texts_of_repositories (s : String) (r : Repository) :
    (parse? s = some r ↔ Splits s r) ∧
      (parse? r.text = some r ↔ r.owner ≠ "" ∧ '/' ∉ r.owner.toList ∧ r.name ≠ "") ∧
        (parse? s = none ↔ Nameless s) := by
  refine ⟨parse?_eq_some_iff s r, ?_, parse?_eq_none_iff s⟩
  rw [parse?_eq_some_iff]
  constructor
  · intro h
    exact ⟨h.owner, h.noSlash, h.name⟩
  · rintro ⟨howner, hslash, hname⟩
    exact ⟨rfl, hslash, howner, hname⟩

example : parse? "octo/widgets/extra" = some ⟨"octo", "widgets/extra"⟩ := by decide

end ScanDelta.Repository

import ScanDelta.Text.Blank

/-!
# The text between the blanks at its ends

* `Trimmed cs core` : nothing but blanks stands around the core, which neither begins nor ends with one;
* `trimmed_iff` : trimming a text leaves its core, and there is no other.
-/

set_option autoImplicit false

namespace ScanDelta.Text

/-- The text is the core with nothing but blanks around it, and the core neither begins nor ends with a blank. -/
structure Trimmed (cs core : List Char) : Prop where
  around : ∃ front back, cs = front ++ (core ++ back) ∧ (∀ c ∈ front, isBlank c = true) ∧ ∀ c ∈ back, isBlank c = true
  first : ∀ c ∈ core.head?, isBlank c = false
  last : ∀ c ∈ core.getLast?, isBlank c = false

/-! ## The front -/

theorem trimStartChars_append {front : List Char} (h : ∀ c ∈ front, isBlank c = true) (cs : List Char) :
    trimStartChars (front ++ cs) = trimStartChars cs := List.dropWhile_append_of_pos h

theorem trimStartChars_of_blanks {cs : List Char} (h : ∀ c ∈ cs, isBlank c = true) : trimStartChars cs = [] := by
  rw [← List.append_nil cs, trimStartChars_append h]
  rfl

theorem trimStartChars_eq_self {cs : List Char} (h : ∀ c ∈ cs.head?, isBlank c = false) : trimStartChars cs = cs := by
  cases cs with
  | nil => rfl
  | cons c cs => exact List.dropWhile_cons_of_neg (by simpa using h c rfl)

theorem exists_append_trimStartChars (cs : List Char) :
    ∃ front, cs = front ++ trimStartChars cs ∧ ∀ c ∈ front, isBlank c = true :=
  ⟨cs.takeWhile isBlank, List.takeWhile_append_dropWhile.symm, List.all_eq_true.1 List.all_takeWhile⟩

theorem head?_trimStartChars (cs : List Char) : ∀ c ∈ (trimStartChars cs).head?, isBlank c = false := by
  intro c hc
  have hnot := List.head?_dropWhile_not isBlank cs
  rw [trimStartChars, Option.mem_def] at hc
  rwa [hc] at hnot

/-! ## Both ends -/

/-- The end is the front of the reversed text. -/
theorem trimEndChars_eq (cs : List Char) : trimEndChars cs = (trimStartChars cs.reverse).reverse := rfl

theorem Trimmed.trimChars_eq {cs core : List Char} (h : Trimmed cs core) : trimChars cs = core := by
  obtain ⟨front, back, rfl, hfront, hback⟩ := h.around
  rw [trimChars, trimStartChars_append hfront]
  cases core with
  | nil =>
    rw [List.nil_append, trimStartChars_of_blanks hback]
    rfl
  | cons c core =>
    have hkeep : trimStartChars ((c :: core) ++ back) = (c :: core) ++ back := trimStartChars_eq_self h.first
    rw [hkeep, trimEndChars_eq, List.reverse_append, trimStartChars_append (by simpa using hback),
      trimStartChars_eq_self (by rw [List.head?_reverse]; exact h.last), List.reverse_reverse]

theorem trimmed_trimChars (cs : List Char) : Trimmed cs (trimChars cs) := by
  obtain ⟨front, hcs, hfront⟩ := exists_append_trimStartChars cs
  obtain ⟨back, hreverse, hback⟩ := exists_append_trimStartChars (trimStartChars cs).reverse
  have hstart : trimStartChars cs = trimChars cs ++ back.reverse := by
    rw [trimChars, trimEndChars_eq, ← List.reverse_append, ← hreverse, List.reverse_reverse]
  constructor
  case around => exact ⟨front, back.reverse, by rw [← hstart]; exact hcs, hfront, by simpa using hback⟩
  case first =>
    intro c hc
    refine head?_trimStartChars cs c ?_
    rw [hstart, List.head?_append, Option.mem_def.1 hc]
    rfl
  case last =>
    intro c hc
    rw [trimChars, trimEndChars_eq, List.getLast?_reverse] at hc
    exact head?_trimStartChars _ c hc

theorem trimmed_iff (cs core : List Char) : Trimmed cs core ↔ core = trimChars cs := by
  constructor
  · intro h
    exact h.trimChars_eq.symm
  · rintro rfl
    exact trimmed_trimChars cs

/-- Nothing is trimmed away of a text that has no blank at its ends. -/
theorem trim_eq_self {s : String} (hfirst : ∀ c ∈ s.toList.head?, isBlank c = false)
    (hlast : ∀ c ∈ s.toList.getLast?, isBlank c = false) : trim s = s := by
  have hcore : Trimmed s.toList s.toList := ⟨⟨[], [], by simp, by simp, by simp⟩, hfirst, hlast⟩
  rw [trim, hcore.trimChars_eq, String.ofList_toList]

end ScanDelta.Text

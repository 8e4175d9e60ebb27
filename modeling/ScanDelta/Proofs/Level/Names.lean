import ScanDelta.Level
import ScanDelta.Proofs.Text.Lowercase
import ScanDelta.Proofs.Text.Trim

/-!
# Names of levels

* `Spells s l` : the text is the name of the level in any case of its letters, with blanks around it;
* `parse?_eq_some_iff`, `normalize_eq_iff` : these texts are read, and whatever else is normalized is a warning;
* `levels_are_read_from_their_names` : all of it, and that lower case beyond ASCII has no part in it.
-/

set_option autoImplicit false

namespace ScanDelta.Level

open Text

/-- Between its blanks the text is the name of the level, but for the case of ASCII letters. -/
def Spells (s : String) (l : Level) : Prop :=
  ∃ core, Trimmed s.toList core ∧ core.map Char.toLower = l.name.toList

theorem name_injective : Function.Injective name := by
  intro a b h
  revert h
  cases a <;> cases b <;> decide

/-- No name has a `k`, so the Kelvin sign is in no text of a name. -/
theorem ascii_name (l : Level) : ∀ d ∈ l.name.toList, d.toNat < 128 ∧ d ≠ 'k' := by
  have hall : (l.name.toList.all fun d => d.toNat < 128 ∧ d ≠ 'k') = true := by cases l <;> decide
  exact fun d hd => of_decide_eq_true (List.all_eq_true.1 hall d hd)

theorem find?_name_eq_some_iff (t : String) (l : Level) : (all.find? fun k => k.name = t) = some l ↔ t = l.name := by
  constructor
  · intro h
    have hname := List.find?_some h
    exact (of_decide_eq_true hname).symm
  · rintro rfl
    cases l <;> decide

/-! ## Texts of names -/

theorem spells_iff (s : String) (l : Level) : Spells s l ↔ (trimChars s.toList).map Char.toLower = l.name.toList := by
  simp only [Spells, trimmed_iff, exists_eq_left]

theorem Spells.unique {s : String} {k l : Level} (h : Spells s k) (h' : Spells s l) : k = l := by
  rw [spells_iff] at h h'
  exact name_injective (String.toList_injective (h.symm.trans h'))

/-- Whichever small sigma stands for a capital one, lower case makes names of the same texts. -/
theorem spells_iff_exists_lowerForm (s : String) (l : Level) :
    Spells s l ↔ ∃ core, Trimmed s.toList core ∧ LowerForm core l.name.toList := by
  constructor
  · rintro ⟨core, hcore, hname⟩
    have hlower := lowerForm_flatMap core
    rw [(hlower.eq_iff (ascii_name l)).2 hname] at hlower
    exact ⟨core, hcore, hlower⟩
  · rintro ⟨core, hcore, hlower⟩
    exact ⟨core, hcore, (hlower.eq_iff (ascii_name l)).1 rfl⟩

theorem Spells.ascii {s : String} {l : Level} (h : Spells s l) {core : List Char} (hcore : Trimmed s.toList core) :
    ∀ c ∈ core, c.toNat < 128 := by
  rw [spells_iff, hcore.trimChars_eq] at h
  intro c hc
  rw [← toNat_toLower_lt_iff]
  exact (ascii_name l _ (h ▸ List.mem_map_of_mem hc)).1

/-! ## Reading -/

theorem parse?_eq_some_iff (s : String) (l : Level) : parse? s = some l ↔ Spells s l := by
  have hparse : parse? s = all.find? fun k => k.name = String.ofList ((trimChars s.toList).flatMap lowerChar) := by
    rw [parse?, lowercase, trim, String.toList_ofList]
  rw [hparse, find?_name_eq_some_iff, spells_iff, ← (lowerForm_flatMap _).eq_iff (ascii_name l), ← String.toList_inj,
    String.toList_ofList]

theorem bind_parse?_eq_some_iff (raw : Option String) (l : Level) :
    raw.bind parse? = some l ↔ ∃ s, raw = some s ∧ Spells s l := by
  simp only [Option.bind_eq_some_iff, parse?_eq_some_iff]

theorem normalize_eq_iff (raw : Option String) (l : Level) :
    normalize raw = l ↔ (∃ s, raw = some s ∧ Spells s l) ∨ l = warning ∧ ¬ ∃ s k, raw = some s ∧ Spells s k := by
  cases hread : raw.bind parse? with
  | none =>
    have hnot : ¬ ∃ s k, raw = some s ∧ Spells s k := by
      rintro ⟨s, k, hspells⟩
      have hsome := (bind_parse?_eq_some_iff raw k).2 ⟨s, hspells⟩
      rw [hread] at hsome
      cases hsome
    rw [normalize, hread, Option.getD_none]
    constructor
    · rintro rfl
      exact .inr ⟨rfl, hnot⟩
    · rintro (⟨s, hspells⟩ | ⟨rfl, -⟩)
      · exact absurd ⟨s, l, hspells⟩ hnot
      · rfl
  | some k =>
    obtain ⟨s, hs, hk⟩ := (bind_parse?_eq_some_iff raw k).1 hread
    rw [normalize, hread, Option.getD_some]
    constructor
    · rintro rfl
      exact .inl ⟨s, hs, hk⟩
    · rintro (hl | ⟨-, hnot⟩)
      · rw [← bind_parse?_eq_some_iff, hread] at hl
        exact Option.some.inj hl
      · exact absurd ⟨s, k, hs, hk⟩ hnot

/-- **A level is read from its name, in any case of its letters and with blanks around it.** That is the case of ASCII
letters: lower case in the whole of Unicode makes no name of any other text, neither of one with another character
between its blanks nor by the small sigma it takes. No text names two levels, and one that names none is normalized to a
warning, as is no text at all. -/
theorem levels_are_read_from_their_names (s : String) (l : Level) (raw : Option String) :
    (parse? s = some l ↔ Spells s l) ∧
      (Spells s l ↔ ∃ core, Trimmed s.toList core ∧ LowerForm core l.name.toList) ∧
      (¬ ∃ core, Trimmed s.toList core ∧ (∃ c ∈ core, 128 ≤ c.toNat) ∧
        (parse? s = some l ∨ LowerForm core l.name.toList)) ∧
      (¬ ∃ k, k ≠ l ∧ Spells s k ∧ Spells s l) ∧
      (normalize raw = l ↔ (∃ t, raw = some t ∧ Spells t l) ∨ l = warning ∧ ¬ ∃ t k, raw = some t ∧ Spells t k) := by
  refine ⟨parse?_eq_some_iff s l, spells_iff_exists_lowerForm s l, ?_, ?_, normalize_eq_iff raw l⟩
  · rintro ⟨core, hcore, ⟨c, hc, hle⟩, hname⟩
    have hspells : Spells s l := by
      rcases hname with hparse | hlower
      · exact (parse?_eq_some_iff s l).1 hparse
      · exact (spells_iff_exists_lowerForm s l).2 ⟨core, hcore, hlower⟩
    exact Nat.not_lt.2 hle (hspells.ascii hcore c hc)
  · rintro ⟨k, hne, hk, hl⟩
    exact hne (hk.unique hl)

example : parse? "\u3000WarNing\t" = some warning := by decide

example : parse? "WARN\u0130NG" = Option.none := by decide

end ScanDelta.Level

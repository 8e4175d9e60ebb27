import ScanDelta.Text.Lowercase

/-!
# Lower case beyond ASCII

* `toNat_toLower` : what becomes of an ASCII letter;
* `lowerChar_of_ascii`, `exists_not_ascii_lowerChar` : the Unicode mapping does the same to an ASCII character, and what
  it makes of another one is not all ASCII, the Kelvin sign apart, which becomes a `k`;
* `LowerForm cs ds` : the second text is the first one in lower case, with either small sigma for a capital one;
* `LowerForm.eq_iff` : a text of ASCII characters without a `k` is the lower case of just those texts that differ from it
  in the case of ASCII letters.
-/

set_option autoImplicit false

namespace ScanDelta.Text

/-! ## ASCII letters -/

theorem upper_iff (c : Char) : 'A' ≤ c ∧ c ≤ 'Z' ↔ 65 ≤ c.toNat ∧ c.toNat ≤ 90 := by
  rw [Char.le_def, Char.le_def, UInt32.le_iff_toNat_le, UInt32.le_iff_toNat_le]
  rfl

theorem toNat_toLower (c : Char) :
    c.toLower.toNat = if 65 ≤ c.toNat ∧ c.toNat ≤ 90 then c.toNat + 32 else c.toNat := by
  have hiff := upper_iff c
  unfold Char.toLower
  split
  · rename_i h
    rw [if_pos (hiff.1 h)]
    have hle := (hiff.1 h).2
    have hval : c.val.toNat ≤ 90 := hle
    show (c.val + 32).toNat = c.val.toNat + 32
    rw [UInt32.toNat_add, show UInt32.toNat 32 = 32 from rfl]
    exact Nat.mod_eq_of_lt (by omega)
  · rename_i h
    rw [if_neg fun hc => h (hiff.2 hc)]

theorem toNat_toLower_lt_iff (c : Char) : c.toLower.toNat < 128 ↔ c.toNat < 128 := by
  rw [toNat_toLower]
  split <;> omega

/-! ## Single characters -/

theorem toNat_ofNat {n : Nat} (h : n.isValidChar) : (Char.ofNat n).toNat = n := by
  rw [Char.ofNat, dif_pos h]
  rfl

/-- The characters of the run are not ASCII, nor is what they become; and that is a character, for it is within Unicode
and no surrogate. -/
def CaseRun.Beyond (r : CaseRun) : Prop :=
  128 ≤ r.first ∧
    (128 ≤ r.first + r.shift ∧ r.last + r.shift < 0xD800 ∨ 0xDFFF < r.first + r.shift ∧ r.last + r.shift < 0x110000)

instance : DecidablePred CaseRun.Beyond := fun r => inferInstanceAs (Decidable (128 ≤ r.first ∧ (_ ∨ _)))

/-- The ASCII letters. -/
def asciiRun : CaseRun := ⟨0x41, 0x5A, 1, 32⟩

/-- The Kelvin sign, which becomes a `k`. -/
def kelvinRun : CaseRun := ⟨0x212A, 0x212A, 1, -8383⟩

theorem beyond_of_mem_tail : ∀ r ∈ caseRuns.tail, r = kelvinRun ∨ r.Beyond := by decide +kernel

theorem holds_iff (r : CaseRun) (n : Nat) :
    r.holds n = true ↔ (r.first ≤ n ∧ n ≤ r.last) ∧ (n - r.first) % r.step = 0 := by
  rw [CaseRun.holds, Bool.and_eq_true, Bool.and_eq_true, decide_eq_true_eq, decide_eq_true_eq, beq_iff_eq]

theorem first_le_of_mem_tail {r : CaseRun} (h : r ∈ caseRuns.tail) : 128 ≤ r.first := by
  rcases beyond_of_mem_tail r h with rfl | hbeyond
  · decide
  · exact hbeyond.1

/-- Of the runs only the first one has ASCII characters. -/
theorem find?_caseRuns_of_ascii {n : Nat} (h : n < 128) :
    caseRuns.find? (·.holds n) = if asciiRun.holds n then some asciiRun else none := by
  have hnone : caseRuns.tail.find? (·.holds n) = none := by
    rw [List.find?_eq_none]
    intro r hr hholds
    have hle := ((holds_iff r n).1 hholds).1.1
    have hfirst := first_le_of_mem_tail hr
    omega
  show (asciiRun :: caseRuns.tail).find? (·.holds n) = _
  rw [List.find?_cons, hnone]
  split <;> simp [*]

theorem lowerChar_of_ascii {c : Char} (h : c.toNat < 128) : lowerChar c = [c.toLower] := by
  rw [lowerChar, if_neg (by omega), find?_caseRuns_of_ascii h, ← Char.ofNat_toNat c.toLower, toNat_toLower]
  by_cases hup : 65 ≤ c.toNat ∧ c.toNat ≤ 90
  · rw [if_pos ((holds_iff asciiRun c.toNat).2 ⟨hup, Nat.mod_one _⟩), if_pos hup]
    rfl
  · rw [if_neg fun hholds => hup ((holds_iff asciiRun c.toNat).1 hholds).1, if_neg hup, Char.ofNat_toNat]

theorem lowerChar_kelvin {c : Char} (h : c.toNat = 0x212A) : lowerChar c = ['k'] := by
  rw [← Char.ofNat_toNat c, h]
  decide

theorem exists_not_ascii_lowerChar {c : Char} (h : 128 ≤ c.toNat) (hkelvin : c.toNat ≠ 0x212A) :
    ∃ d ∈ lowerChar c, 128 ≤ d.toNat := by
  rw [lowerChar]
  split
  · exact ⟨Char.ofNat 0x307, by simp, by decide⟩
  · split
    case h_2 => exact ⟨c, List.mem_singleton_self c, h⟩
    case h_1 r hr =>
      refine ⟨_, List.mem_singleton_self _, ?_⟩
      have hholds := List.find?_some hr
      obtain ⟨⟨hfirst, hlast⟩, -⟩ := (holds_iff r c.toNat).1 hholds
      rcases List.mem_cons.1 (List.mem_of_find?_eq_some hr) with hascii | htail
      · have hle : r.last = 0x5A := by rw [hascii]
        omega
      · rcases beyond_of_mem_tail r htail with rfl | ⟨-, himage⟩
        · exact absurd (Nat.le_antisymm hlast hfirst) hkelvin
        · have hvalid : (Int.toNat (c.toNat + r.shift)).isValidChar := by
            rcases himage with ⟨hlow, hhigh⟩ | ⟨hlow, hhigh⟩
            · exact .inl (by omega)
            · exact .inr (by omega)
          rw [toNat_ofNat hvalid]
          omega

/-! ## Texts -/

/-- The second text is the first one in lower case. A capital sigma becomes either the medial or the final small one,
which depends on the word around it; any other character becomes what the mapping says. -/
inductive LowerForm : List Char → List Char → Prop
  | nil : LowerForm [] []
  | cons (c : Char) {cs ds : List Char} (h : LowerForm cs ds) : LowerForm (c :: cs) (lowerChar c ++ ds)
  | finalSigma {cs ds : List Char} (h : LowerForm cs ds) : LowerForm ('Σ' :: cs) ('ς' :: ds)

theorem lowerForm_flatMap (cs : List Char) : LowerForm cs (cs.flatMap lowerChar) := by
  induction cs with
  | nil => exact .nil
  | cons c cs ih => exact .cons c ih

theorem LowerForm.of_ascii {cs ds : List Char} (h : LowerForm cs ds) (hcs : ∀ c ∈ cs, c.toNat < 128) :
    ds = cs.map Char.toLower := by
  induction h with
  | nil => rfl
  | cons c h ih =>
    rw [List.forall_mem_cons] at hcs
    rw [lowerChar_of_ascii hcs.1, ih hcs.2]
    rfl
  | finalSigma h ih => exact absurd (hcs 'Σ' List.mem_cons_self) (by decide)

/-- A text with a lower case of ASCII characters, none of them a `k`, is ASCII itself. -/
theorem LowerForm.ascii {cs ds : List Char} (h : LowerForm cs ds) (hds : ∀ d ∈ ds, d.toNat < 128 ∧ d ≠ 'k') :
    ∀ c ∈ cs, c.toNat < 128 := by
  induction h with
  | nil => exact fun c hc => absurd hc List.not_mem_nil
  | cons c h ih =>
    obtain ⟨hhead, hrest⟩ := List.forall_mem_append.1 hds
    refine List.forall_mem_cons.2 ⟨Nat.lt_of_not_le fun hc => ?_, ih hrest⟩
    by_cases hkelvin : c.toNat = 0x212A
    · rw [lowerChar_kelvin hkelvin] at hhead
      exact (hhead 'k' List.mem_cons_self).2 rfl
    · obtain ⟨d, hd, hle⟩ := exists_not_ascii_lowerChar hc hkelvin
      exact Nat.not_lt.2 hle (hhead d hd).1
  | finalSigma h ih => exact absurd (hds 'ς' List.mem_cons_self).1 (by decide)

theorem LowerForm.eq_iff {cs ds w : List Char} (h : LowerForm cs ds) (hw : ∀ d ∈ w, d.toNat < 128 ∧ d ≠ 'k') :
    ds = w ↔ cs.map Char.toLower = w := by
  constructor
  · rintro rfl
    exact (h.of_ascii (h.ascii hw)).symm
  · rintro rfl
    refine h.of_ascii fun c hc => ?_
    exact (toNat_toLower_lt_iff c).1 (hw c.toLower (List.mem_map_of_mem hc)).1

end ScanDelta.Text

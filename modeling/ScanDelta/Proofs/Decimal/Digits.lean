import Mathlib.Data.List.TakeDrop
import ScanDelta.Decimal.Layout

/-!
# The digits of a number

* `exists_natChars_eq_cons`, `isDigit_of_mem_natChars`, `head?_natChars` : a number is written in digits, without leading
  zeros;
* `intChars_ne_nil`, `Binary64.chars_ne_nil` : no number is written in no characters;
* `numberIn? line` : the first number in a line;
* `numberIn?_of_toList` : it is the number that was written there.
-/

set_option autoImplicit false

namespace ScanDelta

/-! ## Digits -/

theorem isDigit_of_mem_natChars {n : Nat} {c : Char} (h : c ∈ natChars n) : c.isDigit = true :=
  Nat.isDigit_of_mem_toDigits (by decide) (by decide) h

theorem exists_natChars_eq_cons (n : Nat) : ∃ c cs, natChars n = c :: cs ∧ c.isDigit = true := by
  have hne : natChars n ≠ [] := Nat.toDigits_ne_nil
  obtain ⟨c, cs, hdigits⟩ := List.exists_cons_of_ne_nil hne
  refine ⟨c, cs, hdigits, isDigit_of_mem_natChars (n := n) ?_⟩
  rw [hdigits]
  exact List.mem_cons_self

theorem head?_natChars {n : Nat} (h : (natChars n).head? = some '0') : n = 0 := by
  induction n using Nat.strongRecOn with
  | _ n ih =>
    rw [natChars, Nat.toDigits_eq_if (by decide)] at h
    split at h
    · rename_i hlt
      have hdigit : ∀ k, k < 10 → Nat.digitChar k = '0' → k = 0 := by decide
      exact hdigit n hlt (Option.some.inj h)
    · rename_i hge
      rw [List.head?_append, List.head?_eq_some_head Nat.toDigits_ne_nil, Option.some_or,
        ← List.head?_eq_some_head] at h
      have hzero := ih (n / 10) (by omega) h
      omega

theorem length_natChars_zero : (natChars 0).length = 1 := by decide

theorem ofDigitChars_natChars (n : Nat) : Nat.ofDigitChars 10 (natChars n) 0 = n :=
  Nat.ofDigitChars_toDigits (by decide) (by decide)

/-! ## Numbers are written in characters, at least one -/

theorem Decimal.positional_ne_nil (d : Decimal) : d.positional ≠ [] := by
  unfold Decimal.positional
  dsimp only
  split
  · simp
  · split <;> simp

theorem Decimal.scientific_ne_nil (d : Decimal) : d.scientific ≠ [] := by
  have hmark : (if d.place < 0 then ['e', '-'] else ['e', '+']) ≠ [] := by split <;> simp
  simp [Decimal.scientific, hmark]

theorem Binary64.chars_ne_nil (l : Layout) (x : Binary64) : x.chars l ≠ [] := by
  have hmagnitude : x.shortest.chars l ≠ [] := by
    rw [Decimal.chars]
    split
    · exact x.shortest.positional_ne_nil
    · exact x.shortest.scientific_ne_nil
  rw [Binary64.chars]
  split
  · exact List.cons_ne_nil _ _
  · exact hmagnitude

theorem intChars_ne_nil (n : Int) : intChars n ≠ [] := by
  obtain ⟨c, cs, hdigits, -⟩ := exists_natChars_eq_cons n.natAbs
  rw [intChars, hdigits]
  split <;> exact List.cons_ne_nil _ _

/-! ## Numbers in a line -/

/-- The first number in a line, in decimal digits. -/
def numberIn? (line : String) : Option Nat :=
  match (line.toList.dropWhile fun c => !c.isDigit).takeWhile Char.isDigit with
  | [] => none
  | ds => some (Nat.ofDigitChars 10 ds 0)

/-- A number is found where it was written, behind characters that are no digits and before one that is none. -/
theorem numberIn?_of_toList {line : String} {before rest : List Char} {n : Nat}
    (h : line.toList = before ++ (natChars n ++ rest)) (hbefore : ∀ c ∈ before, c.isDigit = false)
    (hrest : ∀ c ∈ rest.head?, c.isDigit = false) : numberIn? line = some n := by
  obtain ⟨d, ds, hdigits, hd⟩ := exists_natChars_eq_cons n
  have hskip : (line.toList.dropWhile fun c => !c.isDigit) = natChars n ++ rest := by
    rw [h, List.dropWhile_append_of_pos fun c hc => by simp [hbefore c hc]]
    rw [hdigits]
    exact List.dropWhile_cons_of_neg (by simp [hd])
  have htake : (natChars n ++ rest).takeWhile Char.isDigit = natChars n := by
    rw [List.takeWhile_append_of_pos fun c hc => isDigit_of_mem_natChars hc]
    cases rest with
    | nil => simp
    | cons c rest => rw [List.takeWhile_cons_of_neg (by simp [hrest c rfl]), List.append_nil]
  have hvalue := ofDigitChars_natChars n
  rw [hdigits] at hvalue
  rw [numberIn?, hskip, htake, hdigits]
  exact congrArg some hvalue

end ScanDelta

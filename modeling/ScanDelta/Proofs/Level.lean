import ScanDelta.Level

/-!
# The order of levels

* `rank_injective` : levels of the same rank are the same;
* `rank_max`, `meets_max` : the higher of two levels;
* `highest_spec` : the highest of some levels is one of them, and none of them is above it.
-/

set_option autoImplicit false

namespace ScanDelta.Level

theorem meets_iff (l threshold : Level) : l.meets threshold = true ↔ threshold.rank ≤ l.rank := decide_eq_true_iff

theorem rank_injective : Function.Injective rank := by
  intro a b h
  revert h
  cases a <;> cases b <;> decide

theorem rank_max (a b : Level) : (Level.max a b).rank = Nat.max a.rank b.rank := by
  cases a <;> cases b <;> decide

/-- What is at or above the higher of two levels is at or above both. -/
theorem meets_max (l a b : Level) : l.meets (Level.max a b) = (l.meets a && l.meets b) := by
  rw [Bool.eq_iff_iff, Bool.and_eq_true, meets_iff, meets_iff, meets_iff, rank_max]
  exact Nat.max_le

theorem max_eq_or (a b : Level) : Level.max a b = a ∨ Level.max a b = b := by
  unfold Level.max
  split
  · exact .inr rfl
  · exact .inl rfl

theorem foldl_max_mem (rest : List Level) (start : Level) : rest.foldl Level.max start ∈ start :: rest := by
  induction rest generalizing start with
  | nil => exact List.mem_cons_self
  | cons next rest ih =>
    rcases List.mem_cons.1 (ih (Level.max start next)) with heq | hrest
    · rw [List.foldl_cons, heq]
      rcases max_eq_or start next with h | h <;> rw [h] <;> simp
    · exact List.mem_cons_of_mem _ (List.mem_cons_of_mem _ hrest)

theorem rank_le_foldl_max (rest : List Level) (start : Level) :
    ∀ k ∈ start :: rest, k.rank ≤ (rest.foldl Level.max start).rank := by
  induction rest generalizing start with
  | nil => simp
  | cons next rest ih =>
    have hle := ih (Level.max start next)
    have hstart := hle _ List.mem_cons_self
    rw [rank_max] at hstart
    intro k hk
    rcases List.mem_cons.1 hk with rfl | hk
    · exact Nat.le_trans (Nat.le_max_left _ _) hstart
    · rcases List.mem_cons.1 hk with rfl | hk
      · exact Nat.le_trans (Nat.le_max_right _ _) hstart
      · exact hle k (List.mem_cons_of_mem _ hk)

theorem highest_spec {ls : List Level} {l : Level} (h : Level.highest ls = some l) :
    l ∈ ls ∧ ∀ k ∈ ls, k.rank ≤ l.rank := by
  cases ls with
  | nil => cases h
  | cons first rest =>
    obtain rfl := Option.some.inj h
    exact ⟨foldl_max_mem rest first, rank_le_foldl_max rest first⟩

end ScanDelta.Level

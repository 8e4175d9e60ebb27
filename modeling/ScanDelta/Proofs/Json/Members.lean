import Mathlib.Data.List.Nodup
import ScanDelta.Proofs.Json.RoundTrip

/-!
# Members by their names

* `get?_ofMembers` : of two members with the same name the later one counts;
* `field?`, `optOf?`, `listOf?` : readers for a member, for a value that may be null, and for the items of an array;
* `field?_normal`, `optOf?_normal`, `listOf?_normal` : they find in the normal form what was put there.
-/

set_option autoImplicit false

namespace ScanDelta.Json

/-! ## Look-up -/

theorem find?_put (name name' : String) (v : Json) (ms : List (String × Json)) :
    (put name v ms).find? (fun m => m.1 = name') =
      if name' = name then some (name, v) else ms.find? fun m => m.1 = name' := by
  induction ms with
  | nil =>
    by_cases h : name' = name
    · simp [put, h]
    · simp [put, h, Ne.symm h]
  | cons m ms ih =>
    rw [put]
    split
    · by_cases h : name' = name
      · simp [h]
      · simp [h, Ne.symm h]
    · split
      · rename_i hname
        by_cases h : name' = name
        · simp [h]
        · have hm : ¬ m.1 = name' := fun heq => h (heq.symm.trans hname.symm)
          simp [h, Ne.symm h, hm]
      · rename_i hne
        rw [List.find?_cons, ih]
        by_cases h : m.1 = name'
        · have hname : ¬ name' = name := fun heq => hne (h.trans heq).symm
          simp [h, hname]
        · simp [h]

/-- Of two members with the same name the later one counts. -/
theorem get?_ofMembers (name : String) (ms : List (String × Json)) :
    get? name (ofMembers ms) = (ms.reverse.find? fun m => m.1 = name).map (·.2) := by
  have hfold : ∀ acc : List (String × Json),
      ((ms.foldl (fun acc m => put m.1 m.2 acc) acc).find? fun m => m.1 = name) =
        (ms.reverse ++ acc).find? fun m => m.1 = name := by
    induction ms with
    | nil => exact fun acc => rfl
    | cons m ms ih =>
      intro acc
      rw [List.foldl_cons, ih, List.reverse_cons, List.append_assoc, List.find?_append, List.find?_append]
      congr 1
      obtain ⟨other, v⟩ := m
      rw [find?_put, List.singleton_append, List.find?_cons]
      by_cases h : other = name
      · simp [h]
      · simp [h, Ne.symm h]
  rw [ofMembers, get?, hfold, List.append_nil]

/-- Where names differ, it does not matter which member counts. -/
theorem find?_reverse {ms : List (String × Json)} (hnames : (ms.map (·.1)).Nodup) (name : String) :
    (ms.reverse.find? fun m => m.1 = name) = ms.find? fun m => m.1 = name := by
  cases hfirst : ms.find? fun m => m.1 = name with
  | none =>
    have hnone := List.find?_eq_none.1 hfirst
    exact List.find?_eq_none.2 fun m hm => hnone m (List.mem_reverse.1 hm)
  | some m =>
    have hm := List.mem_of_find?_eq_some hfirst
    have hmname := List.find?_some hfirst
    cases hlast : ms.reverse.find? fun m => m.1 = name with
    | none => exact absurd hmname (List.find?_eq_none.1 hlast m (List.mem_reverse.2 hm))
    | some n =>
      have hn := List.mem_reverse.1 (List.mem_of_find?_eq_some hlast)
      have hnname := List.find?_some hlast
      have hname : n.1 = m.1 := (of_decide_eq_true hnname).trans (of_decide_eq_true hmname).symm
      rw [List.inj_on_of_nodup_map hnames hn hm hname]

/-! ## Readers of parts -/

section Readers
variable {α : Type}

/-- The member of this name, as the reader takes it. -/
def field? (name : String) (read : Json → Option α) (j : Json) : Option α := (j.get? name).bind read

/-- A value that may be null. -/
def optOf? (read : Json → Option α) : Json → Option (Option α)
  | .null => some none
  | j => (read j).map some

/-- The items of an array. -/
def listOf? (read : Json → Option α) (j : Json) : Option (List α) := j.items?.bind fun xs => xs.mapM read

/-- In the normal form of an object with different names, members are found as in the object itself. -/
theorem field?_normal {ms : List (String × Json)} (hnames : (ms.map (·.1)).Nodup) (name : String)
    (read : Json → Option α) :
    (Json.obj ms).normal.field? name read = ((Json.obj ms).get? name).bind fun v => read v.normal := by
  have hmember : normalMember = fun m => (m.1, m.2.normal) := funext fun ⟨_, _⟩ => rfl
  have hkeep : (ms.map normalMember).map (·.1) = ms.map (·.1) := by
    rw [hmember, List.map_map]
    rfl
  have hfind : ((ms.map normalMember).find? fun m => m.1 = name) = (ms.find? fun m => m.1 = name).map normalMember := by
    rw [hmember, List.find?_map]
    rfl
  rw [field?, normal, normalMembers_eq_map, get?_ofMembers, find?_reverse (by rw [hkeep]; exact hnames), hfind, get?]
  cases ms.find? fun m => m.1 = name with
  | none => rfl
  | some m => rw [hmember]; rfl

theorem listOf?_normal {write : α → Json} {read : Json → Option α} {xs : List α}
    (h : ∀ x ∈ xs, read (write x).normal = some x) : listOf? read (Json.arr (xs.map write)).normal = some xs := by
  have hall : ∀ ys : List α, (∀ y ∈ ys, read (write y).normal = some y) →
      ((ys.map write).map normal).mapM read = some ys := by
    intro ys hys
    induction ys with
    | nil => rfl
    | cons y ys ih =>
      rw [List.map_cons, List.map_cons, List.mapM_cons, hys y List.mem_cons_self,
        ih fun z hz => hys z (List.mem_cons_of_mem _ hz)]
      rfl
  rw [listOf?, normal, normalItems_eq_map]
  exact hall xs h

theorem optOf?_normal (write : α → Json) {read : Json → Option α} {x : Option α}
    (h : ∀ y ∈ x, read (write y).normal = some y ∧ (write y).normal ≠ .null) :
    optOf? read (x.elim .null write).normal = some x := by
  cases x with
  | none => rfl
  | some y =>
    obtain ⟨hread, hnull⟩ := h y rfl
    rw [Option.elim_some, optOf?]
    · rw [hread]
      rfl
    · exact hnull

end Readers

end ScanDelta.Json

import ScanDelta.Journal
import ScanDelta.Proofs.Files.Change

/-!
# What the diagnostic log changes

* `Journal.openAt_cases` : the log is opened and its file emptied, or it is disabled and no file has changed;
* `Journal.changesAt_openAt`, `Journal.changesAt_appendAll` : a log changes its own file at most.
-/

set_option autoImplicit false

namespace ScanDelta

open Disk

namespace Journal

/-- A log that is open has its header in its file; one that could not be opened is disabled. -/
theorem openAt_cases (stamp : String) (d : Disk) (p : String) :
    (∃ loc, (openAt stamp d p).2.value.path = some p ∧
      Changes d (openAt stamp d p).1 p loc (stamped stamp header).toUTF8) ∨
    (openAt stamp d p).2.value.path = none ∧ KeepsFiles d (openAt stamp d p).1 := by
  rw [openAt]
  rcases h : d.writeWithParent p (stamped stamp header) with ⟨d', e | u⟩
  · exact .inr ⟨rfl, keepsFiles_of_writeWithParent h⟩
  · obtain ⟨loc, hc⟩ := changes_of_writeWithParent h
    exact .inl ⟨loc, rfl, hc⟩

theorem changesAt_openAt (stamp : String) (d : Disk) (p : String) : ChangesAt [p] d (openAt stamp d p).1 := by
  rcases openAt_cases stamp d p with ⟨loc, -, hc⟩ | ⟨-, hk⟩
  · exact hc.changesAt
  · exact hk.changesAt [p]

theorem path_openAt (stamp : String) (d : Disk) (p : String) :
    ∀ q ∈ (openAt stamp d p).2.value.path, q = p := by
  intro q hq
  rcases openAt_cases stamp d p with ⟨loc, hsome, -⟩ | ⟨hnone, -⟩
  · rw [hsome] at hq
    exact (Option.some.inj hq).symm
  · rw [hnone] at hq
    cases hq

theorem changesAt_append {j : Journal} {p : String} (hj : ∀ q ∈ j.path, q = p) (stamp : String) (d : Disk)
    (text : String) : ChangesAt [p] d (j.append stamp d text) := by
  have hkeep := (KeepsFiles.refl d).changesAt [p]
  rw [append]
  split
  · exact hkeep
  · rename_i q hq
    have hp := hj q hq
    subst hp
    split
    · obtain ⟨loc, hc⟩ := changes_of_append ‹_›
      exact hc.changesAt
    · exact hkeep

theorem changesAt_appendAll {j : Journal} {p : String} (hj : ∀ q ∈ j.path, q = p) (stamp : String) (d : Disk)
    (notes : List Note) : ChangesAt [p] d (j.appendAll stamp d notes) := by
  rw [appendAll]
  induction notes.filterMap Note.line? generalizing d with
  | nil => exact (KeepsFiles.refl d).changesAt [p]
  | cons text texts ih =>
    have hboth := (changesAt_append hj stamp d text).trans (ih (j.append stamp d text))
    exact hboth.mono (by simp)

end Journal

end ScanDelta

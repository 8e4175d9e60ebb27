import ScanDelta.Command.Delivery
import ScanDelta.Proofs.Files.Change

/-!
# What deliveries change

* `Delivery.contentAfter x old` : what the file of a delivery holds after it;
* `Delivery.changes_of_write`, `Delivery.keepsFiles_of_write` : one delivery, made or not;
* `Delivery.Made d d' x` : between the disks the delivery has been made, and its file has not changed otherwise;
* `Failing d made failed t` : the trouble with a series of deliveries of which the last ones failed;
* `Delivering d ds made failed` : an account of a series of deliveries; every series has one (`delivering_deliver`).
-/

set_option autoImplicit false

namespace ScanDelta.Command

open Disk

namespace Delivery

/-! ## One delivery -/

/-- What the file of a delivery holds after it, given what it held if it was there. -/
def contentAfter (x : Delivery) (old : Option ByteArray) : ByteArray :=
  match x with
  | report _ text => text.toUTF8
  | summary _ text | outputs _ text => old.getD .empty ++ text.toUTF8

theorem changes_of_write {d d' : Disk} {x : Delivery} (h : x.write d = (d', .ok ())) :
    ∃ loc, Changes d d' x.path loc (x.contentAfter (d.fileAt loc)) := by
  cases x with
  | report p text => exact changes_of_writeWithParent h
  | summary p text | outputs p text =>
    cases happend : d.append p text with
    | error e => simp [write, happend] at h
    | ok d₁ =>
      have hd : d₁ = d' := by simpa [write, happend] using h
      rw [← hd]
      exact changes_of_append happend

theorem keepsFiles_of_write {d d' : Disk} {x : Delivery} {e : FileError} (h : x.write d = (d', .error e)) :
    KeepsFiles d d' := by
  cases x with
  | report p text => exact keepsFiles_of_writeWithParent h
  | summary p text | outputs p text =>
    cases happend : d.append p text with
    | ok d₁ => simp [write, happend] at h
    | error e' =>
      have hd : d = d' := (by simpa [write, happend] using h : d = d' ∧ e' = e).1
      rw [← hd]
      exact .refl d

/-- The delivery has been made, and its file has not changed otherwise. -/
def Made (d d' : Disk) (x : Delivery) : Prop :=
  ∃ loc, d'.Leads x.path loc ∧ d'.fileAt loc = some (x.contentAfter (d.fileAt loc))

/-- What changes other files before a delivery does not matter to it. -/
theorem Made.before {ps : List String} {d d₁ d' : Disk} {x : Delivery} (h : Made d₁ d' x) (hc : ChangesAt ps d d₁)
    (hg : Grows d₁ d') (hx : ∀ p ∈ ps, ∀ loc, ¬ (d'.Leads p loc ∧ d'.Leads x.path loc)) : Made d d' x := by
  obtain ⟨loc, hl, hcontent⟩ := h
  have hold : d₁.fileAt loc = d.fileAt loc :=
    hc.others fun p hp hlead => hx p hp loc ⟨hlead.of_grows hg, hl⟩
  rw [hold] at hcontent
  exact ⟨loc, hl, hcontent⟩

/-- What changes other files after a delivery does not matter to it. -/
theorem Made.after {ps : List String} {d d₁ d' : Disk} {x : Delivery} (h : Made d d₁ x) (hc : ChangesAt ps d₁ d')
    (hx : ∀ p ∈ ps, ∀ loc, ¬ (d'.Leads x.path loc ∧ d'.Leads p loc)) : Made d d' x := by
  obtain ⟨loc, hl, hcontent⟩ := h
  have hl' := hl.of_grows hc.grows
  have hnew : d'.fileAt loc = d₁.fileAt loc := hc.others fun p hp hlead => hx p hp loc ⟨hl', hlead⟩
  exact ⟨loc, hl', hnew.trans hcontent⟩

end Delivery

/-! ## Series of deliveries -/

/-- Nothing failed, or the first of the failed deliveries could not be made after those that were made. -/
inductive Failing (d : Disk) (made : List Delivery) : List Delivery → Option Trouble → Prop
  | nothing : Failing d made [] none
  | first {x : Delivery} {later : List Delivery} {e : FileError} (h : (x.write (deliver d made).disk).2 = .error e) :
    Failing d made (x :: later) (some (.undelivered x e))

theorem Failing.cons {d d₁ : Disk} {x : Delivery} {made failed : List Delivery} {t : Option Trouble}
    (h : Failing d₁ made failed t) (hdisk : (deliver d (x :: made)).disk = (deliver d₁ made).disk) :
    Failing d (x :: made) failed t := by
  cases h with
  | nothing => exact .nothing
  | first h => exact .first (by rw [hdisk, h])

/-- An account of a series of deliveries: the first of them were made, and they changed no other files. -/
structure Delivering (d : Disk) (ds : List Delivery) (made failed : List Delivery) : Prop where
  all : made ++ failed = ds
  trouble : Failing d made failed (deliver d ds).trouble
  changes : ChangesAt (made.map Delivery.path) d (deliver d ds).disk
  made (h : Apart (deliver d ds).disk (made.map Delivery.path)) : ∀ x ∈ made, x.Made d (deliver d ds).disk

theorem delivering_deliver (d : Disk) (ds : List Delivery) : ∃ made failed, Delivering d ds made failed := by
  induction ds generalizing d with
  | nil => exact ⟨[], [], rfl, .nothing, (KeepsFiles.refl d).changesAt [], fun _ => nofun⟩
  | cons x xs ih =>
    rcases hw : x.write d with ⟨d₁, e | u⟩
    · have hd : deliver d (x :: xs) = ⟨d₁, [], some (.undelivered x e)⟩ := by rw [deliver, hw]
      have hkeep := Delivery.keepsFiles_of_write hw
      refine ⟨[], x :: xs, rfl, ?_, ?_, fun _ => nofun⟩
      · rw [hd]
        have hfirst : (x.write (deliver d []).disk).2 = .error e := congrArg Prod.snd hw
        exact .first hfirst
      · rw [hd]
        exact hkeep.changesAt []
    · -- the rest is delivered on the disk that the first delivery leaves
      have hdisk : ∀ ys, (deliver d (x :: ys)).disk = (deliver d₁ ys).disk := by
        intro ys
        rw [deliver, hw]
      have htrouble : (deliver d (x :: xs)).trouble = (deliver d₁ xs).trouble := by rw [deliver, hw]
      obtain ⟨loc, hc⟩ := Delivery.changes_of_write hw
      obtain ⟨made, failed, hall, hfail, hchanges, hmade⟩ := ih d₁
      refine ⟨x :: made, failed, congrArg (x :: ·) hall, ?_, ?_, ?_⟩
      · rw [htrouble]
        exact hfail.cons (hdisk made)
      · rw [hdisk]
        exact hc.changesAt.trans hchanges
      · rw [hdisk]
        intro hapart y hy
        obtain ⟨hx, hrest⟩ := List.pairwise_cons.1 hapart
        have hfirst : x.Made d d₁ := ⟨loc, hc.leads, hc.content⟩
        rcases List.mem_cons.1 hy with rfl | hy
        · exact hfirst.after hchanges hx
        · refine (hmade hrest y hy).before hc.changesAt hchanges.grows ?_
          intro p hp
          rw [List.mem_singleton.1 hp]
          exact hx y.path (List.mem_map_of_mem hy)

end ScanDelta.Command

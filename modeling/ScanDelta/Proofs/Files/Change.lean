import ScanDelta.Proofs.Files.Resolution

/-!
# What changes on a disk

* `Disk.Changes d d' p loc bytes` : the path leads to a file that has this content now, and no other file has changed;
* `Disk.KeepsFiles d d'` : no file has changed, though directories may have been made;
* `changes_of_update`, `changes_of_append`, `changes_of_writeWithParent`, `keepsFiles_of_writeWithParent` : the
  operations on files do the one or the other;
* `Disk.ChangesAt ps d d'` : no file has changed but those that these paths lead to (`ChangesAt.trans`);
* `Disk.Apart d ps` : no two of the paths lead to the same file;
* `Disk.Kept d d' p` : the file that the path leads to has not changed.
-/

set_option autoImplicit false

namespace ScanDelta

namespace Disk

/-! ## Kinds of changes -/

/-- The path leads to a file with this content, and no other file has changed. -/
structure Changes (d d' : Disk) (p : String) (loc : Location) (bytes : ByteArray) : Prop where
  grows : Grows d d'
  leads : d'.Leads p loc
  content : d'.fileAt loc = some bytes
  others {loc' : Location} (h : loc' ≠ loc) : d'.fileAt loc' = d.fileAt loc'

/-- No file has changed. -/
structure KeepsFiles (d d' : Disk) : Prop where
  grows : Grows d d'
  files (loc : Location) : d'.fileAt loc = d.fileAt loc

theorem KeepsFiles.refl (d : Disk) : KeepsFiles d d := ⟨.refl d, fun _ => rfl⟩

/-- A change after directories have been made for it. -/
theorem Changes.after {d d' d'' : Disk} {p : String} {loc : Location} {bytes : ByteArray}
    (h : Changes d' d'' p loc bytes) (hk : KeepsFiles d d') : Changes d d'' p loc bytes where
  grows := hk.grows.trans h.grows
  leads := h.leads
  content := h.content
  others hne := (h.others hne).trans (hk.files _)

/-- No file has changed but those that the paths lead to. -/
structure ChangesAt (ps : List String) (d d' : Disk) : Prop where
  grows : Grows d d'
  others {loc : Location} (h : ∀ p ∈ ps, ¬ d'.Leads p loc) : d'.fileAt loc = d.fileAt loc

theorem KeepsFiles.changesAt {d d' : Disk} (h : KeepsFiles d d') (ps : List String) : ChangesAt ps d d' :=
  ⟨h.grows, fun _ => h.files _⟩

theorem Changes.changesAt {d d' : Disk} {p : String} {loc : Location} {bytes : ByteArray}
    (h : Changes d d' p loc bytes) : ChangesAt [p] d d' where
  grows := h.grows
  others {loc'} hnot := by
    refine h.others ?_
    rintro rfl
    exact hnot p List.mem_cons_self h.leads

theorem ChangesAt.trans {ps qs : List String} {d d' d'' : Disk} (h : ChangesAt ps d d') (h' : ChangesAt qs d' d'') :
    ChangesAt (ps ++ qs) d d'' where
  grows := h.grows.trans h'.grows
  others {loc} hnot := by
    have hqs : ∀ q ∈ qs, ¬ d''.Leads q loc := fun q hq => hnot q (List.mem_append_right _ hq)
    have hps : ∀ p ∈ ps, ¬ d'.Leads p loc :=
      fun p hp hl => hnot p (List.mem_append_left _ hp) (hl.of_grows h'.grows)
    rw [h'.others hqs, h.others hps]

theorem ChangesAt.mono {ps qs : List String} {d d' : Disk} (h : ChangesAt ps d d') (hsub : ∀ p ∈ ps, p ∈ qs) :
    ChangesAt qs d d' :=
  ⟨h.grows, fun hnot => h.others fun p hp => hnot p (hsub p hp)⟩

/-- No two of the paths lead to the same file. -/
def Apart (d : Disk) (ps : List String) : Prop := ps.Pairwise fun p q => ∀ loc, ¬ (d.Leads p loc ∧ d.Leads q loc)

/-- The file that the path leads to has not changed. -/
def Kept (d d' : Disk) (p : String) : Prop := ∀ loc, d'.Leads p loc → d'.fileAt loc = d.fileAt loc

theorem ChangesAt.kept {ps : List String} {d d' : Disk} {q : String} (h : ChangesAt ps d d')
    (hq : ∀ p ∈ ps, ∀ loc, ¬ (d'.Leads p loc ∧ d'.Leads q loc)) : Kept d d' q :=
  fun loc hloc => h.others fun p hp hl => hq p hp loc ⟨hl, hloc⟩

/-- What changes the files of some paths keeps those of others. -/
theorem Apart.kept {ps qs : List String} {d d' : Disk} (h : Apart d' (ps ++ qs)) (hc : ChangesAt ps d d') :
    ∀ q ∈ qs, Kept d d' q := by
  intro q hq
  have hpairs := (List.pairwise_append.1 h).2.2
  exact hc.kept fun p hp => hpairs p hp q hq

theorem Apart.perm {ps qs : List String} {d : Disk} (h : Apart d ps) (hperm : ps.Perm qs) : Apart d qs := by
  have hsymm : ∀ {p q : String}, (∀ loc, ¬ (d.Leads p loc ∧ d.Leads q loc)) →
      ∀ loc, ¬ (d.Leads q loc ∧ d.Leads p loc) := fun h loc hl => h loc ⟨hl.2, hl.1⟩
  exact (hperm.pairwise_iff hsymm).1 h

/-- Plain paths to different files lead to different files, also when the disk has grown. -/
theorem apart_of_plain {d d' : Disk} {ps : List String} (hg : Grows d d')
    (hfiles : ∀ p ∈ ps, Plain p ∧ ∃ bytes, d.fileAt (names p) = some bytes) (hne : (ps.map names).Nodup) :
    Apart d' ps := by
  refine List.Pairwise.imp_of_mem ?_ (List.pairwise_map.1 hne)
  rintro p q hp hq hpq loc ⟨hploc, hqloc⟩
  have hnames : ∀ r ∈ ps, d'.Leads r loc → loc = names r := by
    intro r hr hrloc
    obtain ⟨hplain, bytes, hbytes⟩ := hfiles r hr
    exact hrloc.unique ((leads_of_fileAt hplain hbytes).of_grows hg)
  exact hpq ((hnames p hp hploc).symm.trans (hnames q hq hqloc))

/-! ## Leaves -/

/-- A leaf that is put where a path leads shows there and nowhere else. -/
theorem Points.look_set {d : Disk} {purpose : Purpose} {p : String} {loc : Location} (h : d.Points purpose p loc)
    (hold : d.look loc ≠ some .dir) (new : Node) (hnew : new.entries = []) (loc' : Location) :
    look { d with root := d.root.set new loc } loc' = if loc' = loc then some new.entry else d.look loc' :=
  Node.look_set hnew h.parent hold loc'

/-! ## Files -/

/-- A file that is put where a path leads is all that changes. -/
theorem Points.changes {d : Disk} {p : String} {loc : Location} (hp : d.Points .file p loc)
    (hold : d.look loc = none ∨ ∃ bytes, d.look loc = some (.file bytes)) (bytes : ByteArray) :
    Changes d { d with root := d.root.set (.file bytes) loc } p loc bytes := by
  have hdir : d.look loc ≠ some .dir := by
    rcases hold with h | ⟨old, h⟩ <;> rw [h] <;> exact nofun
  have hlink : ∀ target, d.look loc ≠ some (.link target) := by
    intro target
    rcases hold with h | ⟨old, h⟩ <;> rw [h] <;> exact nofun
  have hlook := hp.look_set hdir (.file bytes) rfl
  have hthere := hlook loc
  rw [if_pos rfl] at hthere
  have hgrows : Grows d { d with root := d.root.set (.file bytes) loc } := by
    refine ⟨rfl, ?_, ?_, ?_⟩
    · intro loc' h
      have hne : loc' ≠ loc := by
        rintro rfl
        exact hdir h
      rw [hlook, if_neg hne, h]
    · intro loc' target h
      have hne : loc' ≠ loc := by
        rintro rfl
        exact hlink target h
      rw [hlook, if_neg hne, h]
    · intro loc' old h
      by_cases heq : loc' = loc
      · rw [heq]
        exact ⟨bytes, hthere⟩
      · exact ⟨old, by rw [hlook, if_neg heq, h]⟩
  refine ⟨hgrows, (leads_iff _ p loc).2 ⟨hp.of_grows hgrows fun _ => .inr ⟨rfl, bytes, hthere⟩, bytes, hthere⟩, ?_, ?_⟩
  · exact (fileAt_eq_some_iff _ _ _).2 hthere
  · intro loc' hne
    exact fileAt_congr (by rw [hlook, if_neg hne])

/-- What is done to a file is done to the one that the path leads to, or to a new one there. -/
theorem changes_of_update {d d' : Disk} {p : String} {change : ByteArray → ByteArray}
    (h : d.update p change = .ok d') : ∃ loc, Changes d d' p loc (change ((d.fileAt loc).getD .empty)) := by
  rw [update] at h
  split at h
  · rename_i loc bytes ht
    cases h
    obtain ⟨hp, hat⟩ := (resolveFor_eq_present_iff _ _ _ _ _).1 ht
    have hfile : d.look loc = some (.file bytes) := (Node.look_eq_file_iff _ _ _).2 hat
    have hold : (d.fileAt loc).getD .empty = bytes := by
      rw [(fileAt_eq_some_iff d loc bytes).2 hfile, Option.getD_some]
    rw [← hold]
    exact ⟨loc, hp.changes (.inr ⟨bytes, hfile⟩) _⟩
  · cases h
  · rename_i loc ht
    cases h
    obtain ⟨hp, hnone⟩ := (resolveFor_eq_vacant_iff _ _ _ _).1 ht
    have hold : (d.fileAt loc).getD .empty = .empty := by
      rw [fileAt, hnone, Option.getD_none]
    refine ⟨loc, ?_⟩
    rw [hold]
    exact hp.changes (.inl hnone) _
  · cases h

theorem changes_of_append {d d' : Disk} {p text : String} (h : d.append p text = .ok d') :
    ∃ loc, Changes d d' p loc ((d.fileAt loc).getD .empty ++ text.toUTF8) :=
  changes_of_update h

/-- A file can be added to where one is. -/
theorem append_of_leads {d : Disk} {p : String} {loc : Location} (h : d.Leads p loc) (text : String) :
    ∃ d', d.append p text = .ok d' ∧ Changes d d' p loc ((d.fileAt loc).getD .empty ++ text.toUTF8) := by
  obtain ⟨bytes, ht⟩ := h
  have happend : d.append p text =
      .ok { d with root := d.root.set (.file (bytes ++ text.toUTF8)) loc } := by
    rw [append, update, ht]
  obtain ⟨loc', hc⟩ := changes_of_append happend
  have hloc : loc' = loc := hc.leads.unique ((Leads.of_grows hc.grows) ⟨bytes, ht⟩)
  rw [hloc] at hc
  exact ⟨_, happend, hc⟩

/-! ## Directories -/

/-- Directories have been made where nothing was. -/
structure MakesDirs (d d' : Disk) : Prop where
  cwd : d'.cwd = d.cwd
  look (loc : Location) : d'.look loc = d.look loc ∨ d.look loc = none ∧ d'.look loc = some .dir

theorem MakesDirs.refl (d : Disk) : MakesDirs d d := ⟨rfl, fun _ => .inl rfl⟩

theorem MakesDirs.trans {d d' d'' : Disk} (h : MakesDirs d d') (h' : MakesDirs d' d'') : MakesDirs d d'' where
  cwd := h'.cwd.trans h.cwd
  look loc := by
    rcases h.look loc with heq | ⟨hnone, hdir⟩
    · rw [← heq]
      exact h'.look loc
    · rcases h'.look loc with heq' | ⟨hnone', -⟩
      · exact .inr ⟨hnone, heq'.trans hdir⟩
      · rw [hdir] at hnone'
        cases hnone'

theorem MakesDirs.keepsFiles {d d' : Disk} (h : MakesDirs d d') : KeepsFiles d d' := by
  have hkeep : ∀ {loc : Location} {e : Node.Entry}, d.look loc = some e → d'.look loc = some e := by
    intro loc e he
    rcases h.look loc with heq | ⟨hnone, -⟩
    · rw [heq, he]
    · rw [he] at hnone
      cases hnone
  refine ⟨⟨h.cwd, hkeep, hkeep, fun he => ⟨_, hkeep he⟩⟩, fun loc => ?_⟩
  rcases h.look loc with heq | ⟨hnone, hdir⟩
  · exact fileAt_congr heq
  · rw [fileAt, fileAt, hnone, hdir]

theorem makesDirs_of_makeDir {d d' : Disk} {p : String} (h : d.makeDir p = .ok d') : MakesDirs d d' := by
  rw [makeDir] at h
  split at h
  · cases h
  · rename_i loc ht
    cases h
    obtain ⟨hp, hnone⟩ := (resolveFor_eq_vacant_iff _ _ _ _).1 ht
    have hdir : d.look loc ≠ some .dir := by
      rw [hnone]
      exact nofun
    refine ⟨rfl, fun loc' => ?_⟩
    rw [hp.look_set hdir (.dir []) rfl]
    by_cases heq : loc' = loc
    · rw [if_pos heq, heq]
      exact .inr ⟨hnone, rfl⟩
    · rw [if_neg heq]
      exact .inl rfl
  · cases h

theorem makesDirs_makeDirAfter (d : Disk) (p : String) {parent : Unit → Disk × Except FileError Unit}
    (hparent : MakesDirs d (parent ()).1) : MakesDirs d (d.makeDirAfter p parent).1 := by
  rw [makeDirAfter]
  split
  · exact makesDirs_of_makeDir ‹_›
  · split
    · rename_i d' e hd'
      rw [hd'] at hparent
      exact hparent
    · rename_i d' hd'
      rw [hd'] at hparent
      split
      · exact hparent.trans (makesDirs_of_makeDir ‹_›)
      · exact hparent
  · exact .refl d

theorem makesDirs_makeDirList (d : Disk) (ps : List String) : MakesDirs d (d.makeDirList ps).1 := by
  induction ps with
  | nil => exact .refl d
  | cons p parents ih =>
    rw [makeDirList]
    split
    · exact .refl d
    · exact makesDirs_makeDirAfter d p ih

theorem makesDirs_makeParent (d : Disk) (p : String) : MakesDirs d (d.makeParent p).1 := by
  rw [makeParent]
  split
  · exact .refl d
  · exact makesDirs_makeDirList d _

/-- A file that is written in a directory made for it has the text, and no other file has changed. -/
theorem changes_of_writeWithParent {d d' : Disk} {p text : String}
    (h : d.writeWithParent p text = (d', .ok ())) : ∃ loc, Changes d d' p loc text.toUTF8 := by
  have hdirs := makesDirs_makeParent d p
  rw [writeWithParent] at h
  split at h
  · cases h
  · rename_i d₁ hd₁
    rw [hd₁] at hdirs
    split at h
    · cases h
    · rename_i d₂ hwrite
      cases h
      obtain ⟨loc, hc⟩ := changes_of_update hwrite
      exact ⟨loc, hc.after hdirs.keepsFiles⟩

/-- If the file could not be written, nothing but directories has been made. -/
theorem keepsFiles_of_writeWithParent {d d' : Disk} {p text : String} {e : FileError}
    (h : d.writeWithParent p text = (d', .error e)) : KeepsFiles d d' := by
  have hdirs := makesDirs_makeParent d p
  rw [writeWithParent] at h
  split at h
  · rename_i d₁ e₁ hd₁
    rw [hd₁] at hdirs
    cases h
    exact hdirs.keepsFiles
  · rename_i d₁ hd₁
    rw [hd₁] at hdirs
    split at h
    · cases h
      exact hdirs.keepsFiles
    · cases h

end Disk

end ScanDelta

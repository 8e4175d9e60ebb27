import ScanDelta.Files.Disk

/-!
# Looking into a tree of files

* `Node.Entry`, `Node.look n loc` : what stands at a location, a directory without what is in it;
* `Node.look_set` : a leaf that is put at a location shows there and nowhere else;
* `Disk.look`, `Disk.fileAt` : the same of a disk; `fileAt d loc` is the content of the file at a location;
* `Disk.Grows d d'` : what is there stays what it is; files may have other contents, new files and directories may stand
  where nothing was.
-/

set_option autoImplicit false

namespace ScanDelta

namespace Node

/-! ## Steps from node to node -/

theorem child?_setEntry (name name' : String) (new : Node) (es : List (String × Node)) :
    (dir (setEntry name new es)).child? name' = if name' = name then some new else (dir es).child? name' := by
  induction es with
  | nil =>
    by_cases h : name' = name
    · simp [child?, entries, setEntry, h]
    · simp [child?, entries, setEntry, h, Ne.symm h]
  | cons e es ih =>
    unfold child? entries at ih ⊢
    rw [setEntry]
    by_cases he : e.1 = name
    · subst he
      by_cases h : name' = e.1
      · simp [h]
      · simp [h, Ne.symm h]
    · rw [if_neg he]
      by_cases h : e.1 = name'
      · have hne : name' ≠ name := fun heq => he (h.trans heq)
        simp [h, hne]
      · simpa [h] using ih

theorem at?_cons (n : Node) (name : String) (rest : Location) :
    n.at? (name :: rest) = (n.child? name).bind fun c => c.at? rest := rfl

theorem at?_append (n : Node) (loc more : Location) : n.at? (loc ++ more) = (n.at? loc).bind fun c => c.at? more := by
  induction loc generalizing n with
  | nil => rfl
  | cons name rest ih =>
    rw [List.cons_append, at?_cons, at?_cons]
    cases n.child? name with
    | none => rfl
    | some c => exact ih c

theorem at?_concat (n : Node) (loc : Location) (name : String) :
    n.at? (loc ++ [name]) = (n.at? loc).bind fun c => c.child? name := by
  rw [at?_append]
  cases n.at? loc with
  | none => rfl
  | some c =>
    rw [Option.bind_some, Option.bind_some, at?_cons]
    cases c.child? name <;> rfl

/-! ## What stands at a location -/

/-- What a node is, seen from its directory. -/
inductive Entry where
  | file (bytes : ByteArray)
  | dir
  | link (target : String)

def entry : Node → Entry
  | file bytes => .file bytes
  | dir _ => .dir
  | link target => .link target

/-- What stands at a location, if anything. -/
def look (n : Node) (loc : Location) : Option Entry := (n.at? loc).map entry

@[simp] theorem look_nil (n : Node) : n.look [] = some n.entry := rfl

theorem look_cons (n : Node) (name : String) (rest : Location) :
    n.look (name :: rest) = (n.child? name).bind fun c => c.look rest := by
  rw [look, at?_cons]
  cases n.child? name <;> rfl

@[simp] theorem entry_eq_file_iff (n : Node) (bytes : ByteArray) : n.entry = .file bytes ↔ n = file bytes := by
  cases n <;> simp [entry]

@[simp] theorem entry_eq_link_iff (n : Node) (target : String) : n.entry = .link target ↔ n = link target := by
  cases n <;> simp [entry]

@[simp] theorem entry_eq_dir_iff (n : Node) : n.entry = .dir ↔ ∃ es, n = dir es := by
  cases n <;> simp [entry]

theorem look_eq_file_iff (n : Node) (loc : Location) (bytes : ByteArray) :
    n.look loc = some (.file bytes) ↔ n.at? loc = some (.file bytes) := by
  simp [look, Option.map_eq_some_iff]

theorem look_eq_link_iff (n : Node) (loc : Location) (target : String) :
    n.look loc = some (.link target) ↔ n.at? loc = some (.link target) := by
  simp [look, Option.map_eq_some_iff]

theorem look_eq_dir_iff (n : Node) (loc : Location) :
    n.look loc = some .dir ↔ ∃ es, n.at? loc = some (.dir es) := by
  rw [look, Option.map_eq_some_iff]
  simp only [entry_eq_dir_iff]
  constructor
  · rintro ⟨c, hc, es, rfl⟩
    exact ⟨es, hc⟩
  · rintro ⟨es, h⟩
    exact ⟨_, h, es, rfl⟩

theorem look_eq_none_iff (n : Node) (loc : Location) : n.look loc = none ↔ n.at? loc = none := by
  rw [look, Option.map_eq_none_iff]

/-- What has something below it is a directory. -/
theorem look_of_append {n : Node} {loc rest : Location} {name : String} {e : Entry}
    (h : n.look (loc ++ name :: rest) = some e) : n.look loc = some .dir := by
  rw [look, at?_append] at h
  cases hc : n.at? loc with
  | none =>
    rw [hc] at h
    cases h
  | some c =>
    rw [look, hc]
    cases c with
    | dir es => rfl
    | file b => rw [hc] at h; cases h
    | link t => rw [hc] at h; cases h

/-- What stands somewhere stands in a directory. -/
theorem look_dropLast {n : Node} {loc : Location} {e : Entry} (h : n.look loc = some e) (hne : loc ≠ []) :
    n.look loc.dropLast = some .dir := by
  rw [← List.dropLast_concat_getLast hne] at h
  exact look_of_append h

/-- Nothing stands below a location without a directory. -/
theorem look_append_of_leaf {n : Node} {loc : Location} (h : n.look loc ≠ some .dir) (name : String)
    (rest : Location) : n.look (loc ++ name :: rest) = none := by
  cases hlook : n.look (loc ++ name :: rest) with
  | none => rfl
  | some e => exact absurd (look_of_append hlook) h

theorem look_setEntry (name : String) (new : Node) (es : List (String × Node)) (name' : String) (rest : Location) :
    (dir (setEntry name new es)).look (name' :: rest) =
      if name' = name then new.look rest else (dir es).look (name' :: rest) := by
  rw [look_cons, look_cons, child?_setEntry]
  split <;> rfl

/-- A leaf has nothing below it, and it can be put where its directory is and no directory is in the way. -/
theorem look_set {n new : Node} (hnew : new.entries = []) {loc : Location}
    (hparent : loc ≠ [] → n.look loc.dropLast = some .dir) (hold : n.look loc ≠ some .dir) (loc' : Location) :
    (n.set new loc).look loc' = if loc' = loc then some new.entry else n.look loc' := by
  have hleaf : ∀ name, new.child? name = none := by
    intro name
    rw [child?, hnew]
    rfl
  induction loc generalizing n loc' with
  | nil =>
    cases loc' with
    | nil => rfl
    | cons name rest =>
      have hbelow : n.look (name :: rest) = none := look_append_of_leaf hold name rest
      rw [set, look_cons, hleaf, hbelow]
      simp
  | cons name rest ih =>
    cases rest with
    | nil =>
      obtain ⟨es, hes⟩ := (look_eq_dir_iff n []).1 (hparent (List.cons_ne_nil _ _))
      cases hes
      rw [set]
      cases loc' with
      | nil => simp [entry]
      | cons name' rest' =>
        rw [look_setEntry]
        by_cases hname : name' = name
        · subst hname
          rw [if_pos rfl]
          cases rest' with
          | nil => simp
          | cons x xs =>
            -- below the new leaf there is nothing, and below the old one there was nothing
            have hbelow : (dir es).look (name' :: x :: xs) = none := look_append_of_leaf hold x xs
            rw [look_cons, hleaf, hbelow]
            simp
        · rw [if_neg hname, if_neg (by simp [hname])]
    | cons second more =>
      have hdir : n.look (name :: (second :: more).dropLast) = some .dir := by
        have h := hparent (List.cons_ne_nil _ _)
        rwa [List.dropLast_cons_cons] at h
      rw [look_cons] at hdir hold
      obtain ⟨c, hc, hlook⟩ := Option.bind_eq_some_iff.1 hdir
      rw [hc, Option.bind_some] at hold
      cases n with
      | file b => cases hc
      | link t => cases hc
      | dir es =>
        rw [set, hc]
        cases loc' with
        | nil => simp [entry]
        | cons name' rest' =>
          rw [look_setEntry]
          by_cases hname : name' = name
          · subst hname
            rw [if_pos rfl, ih (fun _ => hlook) hold, look_cons, hc]
            simp
          · rw [if_neg hname, if_neg (by simp [hname])]

end Node

namespace Disk

/-! ## Disks -/

/-- What stands at a location of a disk. -/
def look (d : Disk) (loc : Location) : Option Node.Entry := d.root.look loc

/-- The content of the file at a location, if one stands there. -/
def fileAt (d : Disk) (loc : Location) : Option ByteArray :=
  match d.look loc with
  | some (.file bytes) => some bytes
  | _ => none

theorem fileAt_eq_some_iff (d : Disk) (loc : Location) (bytes : ByteArray) :
    d.fileAt loc = some bytes ↔ d.look loc = some (.file bytes) := by
  rw [fileAt]
  rcases d.look loc with _ | (b | _ | t) <;> simp

theorem fileAt_congr {d d' : Disk} {loc : Location} (h : d'.look loc = d.look loc) : d'.fileAt loc = d.fileAt loc := by
  rw [fileAt, fileAt, h]

/-- Directories and links are as they were, files are still files. -/
structure Grows (d d' : Disk) : Prop where
  cwd : d'.cwd = d.cwd
  dir {loc : Location} (h : d.look loc = some .dir) : d'.look loc = some .dir
  link {loc : Location} {target : String} (h : d.look loc = some (.link target)) : d'.look loc = some (.link target)
  file {loc : Location} {bytes : ByteArray} (h : d.look loc = some (.file bytes)) :
    ∃ bytes', d'.look loc = some (.file bytes')

theorem Grows.refl (d : Disk) : Grows d d := ⟨rfl, id, id, fun h => ⟨_, h⟩⟩

theorem Grows.trans {d d' d'' : Disk} (h : Grows d d') (h' : Grows d' d'') : Grows d d'' where
  cwd := h'.cwd.trans h.cwd
  dir hl := h'.dir (h.dir hl)
  link hl := h'.link (h.link hl)
  file hl := by
    obtain ⟨bytes, hb⟩ := h.file hl
    exact h'.file hb

end Disk

end ScanDelta

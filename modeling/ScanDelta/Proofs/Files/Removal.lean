import ScanDelta.Proofs.Files.Change
import ScanDelta.Proofs.Text.Split

/-!
# Removing a file

* `Node.look_remove` : what is removed shows no more, and all else as before;
* `Arrives.split`, `Arrives.unique` : a way can be cut in two, and it leads to one location;
* `Disk.Without root root' gone` : the one tree is the other without the entry at `gone`;
* `Disk.Through`, `exists_through` : a path to a file names an entry, the file itself or the first of the links that lead
  to it, and leads to its place when it has gone;
* `removeFile_of_leads` : the entry can be removed, and then the path leads to the free place;
* `removeFile_of_free` : nothing is removed where nothing is;
* `read_of_leads`, `append_of_free` : files that are there can be read, and files that are not can be begun.
-/

set_option autoImplicit false

namespace ScanDelta

namespace Node

/-! ## The tree without a leaf -/

theorem child?_filter (name name' : String) (es : List (String × Node)) :
    (dir (es.filter fun e => e.1 ≠ name)).child? name' = if name' = name then none else (dir es).child? name' := by
  induction es with
  | nil => simp [child?, entries]
  | cons e es ih =>
    unfold child? entries at ih ⊢
    by_cases he : e.1 = name
    · subst he
      by_cases h : name' = e.1
      · simp [h]
      · simpa [h, Ne.symm h] using ih
    · by_cases h : e.1 = name'
      · subst h
        simp [he]
      · simpa [he, h] using ih

theorem look_filter (name : String) (es : List (String × Node)) (name' : String) (rest : Location) :
    (dir (es.filter fun e => e.1 ≠ name)).look (name' :: rest) =
      if name' = name then none else (dir es).look (name' :: rest) := by
  rw [look_cons, look_cons, child?_filter]
  split <;> rfl

/-- What is no directory can be removed, and nothing else has gone then. -/
theorem look_remove {n : Node} {loc : Location} (hne : loc ≠ []) (hleaf : n.look loc ≠ some .dir) (loc' : Location) :
    (n.remove loc).look loc' = if loc' = loc then none else n.look loc' := by
  induction loc generalizing n loc' with
  | nil => exact absurd rfl hne
  | cons name rest ih =>
    cases rest with
    | nil =>
      cases n with
      | file b => cases loc' <;> simp [remove, look_cons, child?, entries]
      | link t => cases loc' <;> simp [remove, look_cons, child?, entries]
      | dir es =>
        rw [remove]
        cases loc' with
        | nil => simp [entry]
        | cons name' rest' =>
          rw [look_filter]
          by_cases hname : name' = name
          · subst hname
            rw [if_pos rfl]
            cases rest' with
            | nil => simp
            | cons x xs =>
              rw [if_neg (by simp)]
              exact (look_append_of_leaf hleaf x xs).symm
          · rw [if_neg hname, if_neg (by simp [hname])]
    | cons second more =>
      cases n with
      | file b => cases loc' <;> simp [remove, look_cons, child?, entries]
      | link t => cases loc' <;> simp [remove, look_cons, child?, entries]
      | dir es =>
        rw [look_cons] at hleaf
        cases hc : (dir es).child? name with
        | none =>
          have hkeep : (dir es).remove (name :: second :: more) = dir es := by simp only [remove, hc]
          rw [hkeep]
          by_cases heq : loc' = name :: second :: more
          · rw [if_pos heq, heq, look_cons, hc]
            rfl
          · rw [if_neg heq]
        | some c =>
          rw [hc, Option.bind_some] at hleaf
          have hinside : (dir es).remove (name :: second :: more) =
              dir (setEntry name (c.remove (second :: more)) es) := by simp only [remove, hc]
          rw [hinside]
          cases loc' with
          | nil => simp [entry]
          | cons name' rest' =>
            rw [look_setEntry]
            by_cases hname : name' = name
            · subst hname
              rw [if_pos rfl, ih (List.cons_ne_nil _ _) hleaf, look_cons, hc]
              simp
            · rw [if_neg hname, if_neg (by simp [hname])]

end Node

namespace Disk

/-! ## Ways cut in two -/

section Ways
variable {root : Node} {purpose : Purpose} {links links' : Nat} {start loc loc' : Location} {ns rest : List String}

/-- More links may be followed than are. -/
theorem Arrives.mono (h : Arrives root purpose links start ns loc) (hle : links ≤ links') :
    Arrives root purpose links' start ns loc := by
  induction h generalizing links' with
  | here links start => exact .here links' start
  | silent hdir hname hrest ih => exact .silent hdir hname (ih hle)
  | up hdir hrest ih => exact .up hdir (ih hle)
  | vacant hdir hname hfits hlast hnone => exact .vacant hdir hname hfits hlast hnone
  | entry hdir hname hfits hlast hpurpose hlink => exact .entry hdir hname hfits hlast hpurpose hlink
  | follow hdir hname hfits hgo hlink hrest ih =>
    obtain ⟨more, rfl⟩ : ∃ more, links' = more + 1 := ⟨links' - 1, by omega⟩
    exact .follow hdir hname hfits hgo hlink (ih (by omega))
  | enter hdir hname hfits hsome hnode hrest ih => exact .enter hdir hname hfits hsome hnode (ih hle)

theorem fits_visit (rest : List String) : Fits .visit rest := nofun

/-- A file to write to is what the names lead to. -/
theorem Arrives.visit (h : Arrives root .file links start ns loc) : Arrives root .visit links start ns loc := by
  induction h with
  | here links start => exact .here links start
  | silent hdir hname hrest ih => exact .silent hdir hname ih
  | up hdir hrest ih => exact .up hdir ih
  | vacant hdir hname hfits hlast hnone => exact .vacant hdir hname (fits_visit _) hlast hnone
  | entry hdir hname hfits hlast hpurpose hlink => cases hpurpose
  | follow hdir hname hfits hgo hlink hrest ih => exact .follow hdir hname (fits_visit _) (fun h => nomatch h.2) hlink ih
  | enter hdir hname hfits hsome hnode hrest ih => exact .enter hdir hname (fits_visit _) hsome hnode ih

/-- A way on begins in a directory. -/
theorem Arrives.dir (h : Arrives root purpose links start ns loc) (hne : ns ≠ []) : root.look start = some .dir := by
  cases h with
  | here links start => exact absurd rfl hne
  | silent hdir | up hdir | vacant hdir | entry hdir | follow hdir | enter hdir => exact hdir

/-- Some of the names lead to a location from which the others lead on. -/
theorem Arrives.split (h : Arrives root purpose links start (ns ++ rest) loc) (hrest : ¬ rest.all String.isEmpty = true) :
    ∃ mid links', Arrives root .visit links start ns mid ∧ Arrives root purpose links' mid rest loc := by
  generalize hall : ns ++ rest = all at h
  have hne : rest ≠ [] := by
    rintro rfl
    exact hrest rfl
  have hlater : ∀ ns : List String, ¬ (ns ++ rest).all String.isEmpty = true := by
    intro ns h
    rw [List.all_append, Bool.and_eq_true] at h
    exact hrest h.2
  -- where the cut is not at the start, the first name is one of the first names
  induction h generalizing ns with
  | here links start => exact absurd (List.append_eq_nil_iff.1 hall).2 hne
  | @silent links start loc name more hdir hname hmore ih =>
    rcases ns with _ | ⟨first, ns⟩
    · obtain rfl : rest = _ := hall
      exact ⟨_, links, .here links start, .silent hdir hname hmore⟩
    · obtain ⟨rfl, rfl⟩ := List.cons.inj hall
      obtain ⟨mid, links', hfirst, hsecond⟩ := ih rfl
      exact ⟨mid, links', .silent hdir hname hfirst, hsecond⟩
  | @up links start loc more hdir hmore ih =>
    rcases ns with _ | ⟨first, ns⟩
    · obtain rfl : rest = _ := hall
      exact ⟨_, links, .here links start, .up hdir hmore⟩
    · obtain ⟨rfl, rfl⟩ := List.cons.inj hall
      obtain ⟨mid, links', hfirst, hsecond⟩ := ih rfl
      exact ⟨mid, links', .up hdir hfirst, hsecond⟩
  | @vacant links start name more hdir hname hfits hlast hnone =>
    rcases ns with _ | ⟨first, ns⟩
    · obtain rfl : rest = _ := hall
      exact ⟨_, links, .here links start, .vacant hdir hname hfits hlast hnone⟩
    · obtain ⟨rfl, rfl⟩ := List.cons.inj hall
      exact absurd hlast (hlater ns)
  | @entry links start name target more hdir hname hfits hlast hpurpose hlink =>
    rcases ns with _ | ⟨first, ns⟩
    · obtain rfl : rest = _ := hall
      exact ⟨_, links, .here links start, .entry hdir hname hfits hlast hpurpose hlink⟩
    · obtain ⟨rfl, rfl⟩ := List.cons.inj hall
      exact absurd hlast (hlater ns)
  | @follow links start loc name target more hdir hname hfits hgo hlink hmore ih =>
    rcases ns with _ | ⟨first, ns⟩
    · obtain rfl : rest = _ := hall
      exact ⟨_, links + 1, .here _ start, .follow hdir hname hfits hgo hlink hmore⟩
    · obtain ⟨rfl, rfl⟩ := List.cons.inj hall
      obtain ⟨mid, links', hfirst, hsecond⟩ := ih (List.append_assoc (names target) ns rest)
      exact ⟨mid, links', .follow hdir hname (fits_visit _) (fun h => nomatch h.2) hlink hfirst, hsecond⟩
  | @enter links start loc name more e hdir hname hfits hsome hnode hmore ih =>
    rcases ns with _ | ⟨first, ns⟩
    · obtain rfl : rest = _ := hall
      exact ⟨_, links, .here links start, .enter hdir hname hfits hsome hnode hmore⟩
    · obtain ⟨rfl, rfl⟩ := List.cons.inj hall
      obtain ⟨mid, links', hfirst, hsecond⟩ := ih rfl
      exact ⟨mid, links', .enter hdir hname (fits_visit _) hsome hnode hfirst, hsecond⟩

theorem targetAt_injective (root : Node) {loc loc' : Location} (h : targetAt root loc = targetAt root loc') :
    loc = loc' := by
  rw [targetAt] at h
  split at h
  · exact ((targetAt_eq_present_iff root _ _ _).1 h).1
  · exact ((targetAt_eq_vacant_iff root _ _).1 h).1

/-- Names lead from a location to one other, however many links may be followed. -/
theorem Arrives.unique (hstart : (root.look start).isSome) (h : Arrives root purpose links start ns loc)
    (h' : Arrives root purpose links' start ns loc') : loc = loc' := by
  obtain ⟨here, hhere⟩ := (Trail.exists_along?_iff root start).2 hstart
  obtain ⟨hf, hl⟩ := Trail.along?_eq_some (t := []) trivial hhere
  have hwalk := walk_of_arrives (h.mono (Nat.le_max_left links links')) hf hl
  have hwalk' := walk_of_arrives (h'.mono (Nat.le_max_right links links')) hf hl
  rw [hwalk] at hwalk'
  exact targetAt_injective root (Except.ok.inj hwalk')

/-! ## The entry that a path to a file names -/

/-- The entry at `gone` has been taken away. -/
def Without (root root' : Node) (gone : Location) : Prop :=
  ∀ loc, root'.look loc = if loc = gone then none else root.look loc

/-- The names lead to a file through an entry: the file itself, or the first of the links that lead to it. Without the
entry they lead to its place. -/
structure Through (root : Node) (start : Location) (ns : List String) (links : Nat) (file entry : Location) : Prop where
  arrives : Arrives root .entry links start ns entry
  leads : entry = file ∨ ∃ links target, root.look entry = some (.link target) ∧
    Arrives root .file links (if Path.isAbsolute target then [] else entry.dropLast) (names target) file
  free (root' : Node) (h : Without root root' entry) (purpose : Purpose) : Arrives root' purpose links start ns entry

theorem fits_of_file (h : Fits .file rest) (purpose : Purpose) : Fits purpose rest := fun _ => h rfl

theorem fits_entry (rest : List String) : Fits .entry rest := nofun

theorem fits_nil (purpose : Purpose) : Fits purpose [] := fun _ _ => rfl

theorem Through.notDir {file entry : Location} {bytes : ByteArray} (h : Through root start ns links file entry)
    (hfile : root.look file = some (.file bytes)) : root.look entry ≠ some .dir := by
  rcases h.leads with rfl | ⟨links, target, hlink, -⟩
  · rw [hfile]
    exact nofun
  · rw [hlink]
    exact nofun

theorem Without.dir {root' : Node} {gone : Location} (h : Without root root' gone) (hgone : root.look gone ≠ some .dir)
    (hdir : root.look loc = some .dir) : root'.look loc = some .dir := by
  rw [h loc, if_neg ?_, hdir]
  rintro rfl
  exact hgone hdir

/-- A link on the way to a file is not the one that the way ends with. -/
theorem Through.ne_link {file entry : Location} {bytes : ByteArray} {name target : String}
    (hfile : root.look file = some (.file bytes)) (hdir : root.look start = some .dir)
    (hlink : root.look (start ++ [name]) = some (.link target)) (hrest : ¬ rest.all String.isEmpty = true)
    (hmore : Arrives root .file links (if Path.isAbsolute target then [] else start) (names target ++ rest) file)
    (h : Through root (if Path.isAbsolute target then [] else start) (names target ++ rest) links file entry) :
    start ++ [name] ≠ entry := by
  rintro rfl
  rcases h.leads with heq | ⟨links', target', hlink', htarget⟩
  · rw [heq, hfile] at hlink
    cases hlink
  · rw [hlink] at hlink'
    cases hlink'
    rw [List.dropLast_concat] at htarget
    -- its target would be the directory from which the other names lead on, and the file
    obtain ⟨mid, links', hfirst, hsecond⟩ := hmore.split hrest
    have hmid : root.look mid = some .dir := by
      refine hsecond.dir ?_
      rintro rfl
      exact hrest rfl
    have hstart : (root.look (if Path.isAbsolute target then [] else start)).isSome := by
      split
      · rfl
      · rw [hdir]
        rfl
    rw [Arrives.unique hstart hfirst htarget.visit, hfile] at hmid
    cases hmid

/-- A path to a file names an entry. -/
theorem exists_through {file : Location} {bytes : ByteArray} (h : Arrives root .file links start ns file)
    (hfile : root.look file = some (.file bytes)) : ∃ entry, Through root start ns links file entry := by
  induction h with
  | here links start => exact ⟨start, .here links start, .inl rfl, fun _ _ _ => .here links start⟩
  | silent hdir hname hmore ih =>
    obtain ⟨entry, h⟩ := ih hfile
    exact ⟨entry, .silent hdir hname h.arrives, h.leads,
      fun root' hgone purpose => .silent (hgone.dir (h.notDir hfile) hdir) hname (h.free root' hgone purpose)⟩
  | up hdir hmore ih =>
    obtain ⟨entry, h⟩ := ih hfile
    exact ⟨entry, .up hdir h.arrives, h.leads,
      fun root' hgone purpose => .up (hgone.dir (h.notDir hfile) hdir) (h.free root' hgone purpose)⟩
  | vacant hdir hname hfits hlast hnone =>
    rw [hnone] at hfile
    cases hfile
  | entry hdir hname hfits hlast hpurpose hlink =>
    cases hpurpose
  | @follow links start file name target rest hdir hname hfits hgo hlink hmore ih =>
    by_cases hlast : rest.all String.isEmpty = true
    · obtain rfl : rest = [] := hfits rfl hlast
      rw [List.append_nil] at hmore
      refine ⟨start ++ [name], .entry hdir hname (fits_entry _) rfl rfl hlink, .inr ⟨links, target, hlink, ?_⟩, ?_⟩
      · rwa [List.dropLast_concat]
      · intro root' hgone purpose
        have hdir' : root'.look start = some .dir := hgone.dir (by rw [hlink]; exact nofun) hdir
        exact .vacant hdir' hname (fits_nil _) rfl (by rw [hgone, if_pos rfl])
    · obtain ⟨entry, h⟩ := ih hfile
      have hne := h.ne_link hfile hdir hlink hlast hmore
      refine ⟨entry, .follow hdir hname (fits_entry _) (fun h => hlast h.1) hlink h.arrives, h.leads, ?_⟩
      intro root' hgone purpose
      have hlink' : root'.look (start ++ [name]) = some (.link target) := by rw [hgone, if_neg hne, hlink]
      exact .follow (hgone.dir (h.notDir hfile) hdir) hname (fits_of_file hfits purpose) (fun h => hlast h.1) hlink'
        (h.free root' hgone purpose)
  | @enter links start file name rest e hdir hname hfits hsome hnode hmore ih =>
    cases e with
    | link target => exact absurd rfl (hnode target)
    | dir =>
      obtain ⟨entry, h⟩ := ih hfile
      refine ⟨entry, .enter hdir hname (fits_entry _) hsome nofun h.arrives, h.leads, fun root' hgone purpose => ?_⟩
      have hnotDir := h.notDir hfile
      exact .enter (hgone.dir hnotDir hdir) hname (fits_of_file hfits purpose) (hgone.dir hnotDir hsome) nofun
        (h.free root' hgone purpose)
    | file old =>
      -- nothing stands below a file
      obtain rfl : rest = [] := Classical.byContradiction fun hne => by
        rw [hmore.dir hne] at hsome
        cases hsome
      cases hmore
      refine ⟨start ++ [name], .enter hdir hname (fits_entry _) hsome nofun (.here _ _), .inl rfl, ?_⟩
      intro root' hgone purpose
      have hdir' : root'.look start = some .dir := hgone.dir (by rw [hsome]; exact nofun) hdir
      exact .vacant hdir' hname (fits_nil _) rfl (by rw [hgone, if_pos rfl])

/-- Names of which the last is empty lead to a directory. -/
theorem Arrives.look_dir (h : Arrives root .file links start ns loc) (hlast : ns.getLast? = some "") :
    root.look loc = some .dir := by
  -- the last name of all is the last of what is left, if something is left
  have hleft : ∀ {name : String} {rest : List String}, name ≠ "" → (name :: rest).getLast? = some "" →
      rest.getLast? = some "" ∧ rest ≠ [] := by
    intro name rest hname h
    cases rest with
    | nil => exact absurd (Option.some.inj h) hname
    | cons second more => exact ⟨by rwa [List.getLast?_cons_cons] at h, List.cons_ne_nil _ _⟩
  induction h with
  | here links start => cases hlast
  | @silent links start loc name rest hdir hname hmore ih =>
    cases rest with
    | nil =>
      cases hmore
      exact hdir
    | cons second more => exact ih (by rwa [List.getLast?_cons_cons] at hlast)
  | up hdir hmore ih => exact ih (hleft (by decide) hlast).1
  | vacant hdir hname hfits hempty hnone =>
    obtain ⟨-, hne⟩ := hleft hname.ne_empty hlast
    exact absurd (hfits rfl hempty) hne
  | entry hdir hname hfits hempty hpurpose hlink => cases hpurpose
  | follow hdir hname hfits hgo hlink hmore ih =>
    obtain ⟨hrest, hne⟩ := hleft hname.ne_empty hlast
    refine ih ?_
    rw [List.getLast?_append, hrest]
    rfl
  | enter hdir hname hfits hsome hnode hmore ih => exact ih (hleft hname.ne_empty hlast).1

end Ways

/-! ## Removal -/

section Removal
variable {d : Disk} {p : String} {loc : Location}

theorem names_ne_nil (p : String) : names p ≠ [] := by
  unfold names Path.segments
  split <;> simp [Text.splitOn_ne_nil]

theorem getLast?_splitOn {cs : List Char} (h : cs = [] ∨ cs.getLast? = some '/') :
    (Text.splitOn '/' cs).getLast? = some [] := by
  rcases h with rfl | h
  · rfl
  · obtain ⟨ds, rfl⟩ := List.getLast?_eq_some_iff.1 h
    rw [Text.splitOn_append]
    exact List.getLast?_concat

theorem getLast?_names (h : endsInSlash p = true) : (names p).getLast? = some "" := by
  have hend : p.toList.getLast? = some '/' := by simpa [endsInSlash] using h
  have hsegments : (Path.segments p).getLast? = some [] := by
    unfold Path.segments
    split
    · rename_i cs hcs
      rw [hcs] at hend
      refine getLast?_splitOn ?_
      cases cs with
      | nil => exact .inl rfl
      | cons c cs => exact .inr (by rwa [List.getLast?_cons_cons] at hend)
    · exact getLast?_splitOn (.inr hend)
  rw [names, List.getLast?_map, hsegments]
  rfl

theorem Leads.not_endsInSlash (h : d.Leads p loc) : endsInSlash p = false := by
  obtain ⟨hp, bytes, hfile⟩ := (leads_iff d p loc).1 h
  rw [← Bool.not_eq_true]
  intro hslash
  have hdir := hp.arrives.look_dir (getLast?_names hslash)
  rw [look, hdir] at hfile
  cases hfile

theorem Points.startOf_dir {purpose : Purpose} (hp : d.Points purpose p loc) : d.look (d.startOf p) = some .dir :=
  hp.arrives.dir (names_ne_nil p)

/-- The root of a disk on which a path leads anywhere is a directory. -/
theorem Points.look_nil {purpose : Purpose} (hp : d.Points purpose p loc) : d.look [] = some .dir := by
  have hstart := hp.startOf_dir
  by_cases hnil : d.startOf p = []
  · rwa [hnil] at hstart
  · obtain ⟨name, rest, hcons⟩ := List.exists_cons_of_ne_nil hnil
    rw [hcons, ← List.nil_append (name :: rest)] at hstart
    exact Node.look_of_append hstart

/-- **A file can be removed by its path**, or the first of the links that lead to it can. Then nothing stands where the
path leads. -/
theorem removeFile_of_leads (h : d.Leads p loc) : ∃ d' entry, d.removeFile p = .ok d' ∧ d'.cwd = d.cwd ∧
    Without d.root d'.root entry ∧ (entry = loc ∨ ∃ target, d.look entry = some (.link target)) ∧
    ∀ purpose, d'.Points purpose p entry := by
  obtain ⟨hp, bytes, hfile⟩ := (leads_iff d p loc).1 h
  obtain ⟨entry, hentry⟩ := exists_through hp.arrives hfile
  have hleaf := hentry.notDir hfile
  have hnil : entry ≠ [] := by
    rintro rfl
    exact hleaf hp.look_nil
  have hwithout : Without d.root (d.root.remove entry) entry := Node.look_remove hnil hleaf
  have hlook : d.look entry = some (.file bytes) ∨ ∃ target, d.look entry = some (.link target) := by
    rcases hentry.leads with rfl | ⟨links, target, hlink, -⟩
    · exact .inl hfile
    · exact .inr ⟨target, hlink⟩
  refine ⟨{ d with root := d.root.remove entry }, entry, ?_, rfl, hwithout, ?_, fun purpose => ⟨hp.readable, ?_, ?_⟩⟩
  · have hpoints : d.Points .entry p entry := ⟨hp.readable, hp.start, hentry.arrives⟩
    have hslash := h.not_endsInSlash
    rcases hlook with hlook | ⟨target, hlook⟩
    · have hat := (Node.look_eq_file_iff _ _ _).1 hlook
      rw [removeFile, (resolveFor_eq_present_iff _ _ _ _ _).2 ⟨hpoints, hat⟩]
      simp only [hslash, Bool.false_eq_true, if_false]
    · have hat := (Node.look_eq_link_iff _ _ _).1 hlook
      rw [removeFile, (resolveFor_eq_present_iff _ _ _ _ _).2 ⟨hpoints, hat⟩]
      simp only [hslash, Bool.false_eq_true, if_false]
  · rcases hentry.leads with rfl | ⟨links, target, hlink, -⟩
    · exact .inl rfl
    · exact .inr ⟨target, hlink⟩
  · have hstart := hwithout.dir hleaf hp.startOf_dir
    exact Option.isSome_iff_exists.2 ⟨_, hstart⟩
  · exact hentry.free _ hwithout purpose

/-- Where nothing is, nothing is removed. -/
theorem removeFile_of_free (hp : d.Points .entry p loc) (hnone : d.look loc = none) :
    d.removeFile p = .error .noEntry := by
  rw [removeFile, (resolveFor_eq_vacant_iff _ _ _ _).2 ⟨hp, hnone⟩]

/-! ## Files that are there, and files that are not -/

/-- A text that has been written is read again. -/
theorem fromUTF8?_toUTF8 (text : String) : String.fromUTF8? text.toUTF8 = some text := by
  rw [String.fromUTF8?, String.toUTF8_eq_toByteArray, dif_pos text.isValidUTF8]
  rfl

theorem Points.visit (h : d.Points .file p loc) : d.Points .visit p loc := ⟨h.readable, h.start, h.arrives.visit⟩

theorem read_of_leads (h : d.Leads p loc) {bytes : ByteArray} (hbytes : d.fileAt loc = some bytes) :
    d.read p = .ok bytes := by
  obtain ⟨hp, -⟩ := (leads_iff d p loc).1 h
  have hat := (Node.look_eq_file_iff _ _ _).1 ((fileAt_eq_some_iff d loc bytes).1 hbytes)
  rw [read, resolve, (resolveFor_eq_present_iff _ _ _ _ _).2 ⟨hp.visit, hat⟩]

theorem read_of_free (hp : d.Points .file p loc) (hnone : d.look loc = none) : d.read p = .error .noEntry := by
  rw [read, resolve, (resolveFor_eq_vacant_iff _ _ _ _).2 ⟨hp.visit, hnone⟩]

/-- A file that is added to where none is begins with what is added. -/
theorem append_of_free (hp : d.Points .file p loc) (hnone : d.look loc = none) (text : String) :
    ∃ d', d.append p text = .ok d' ∧ Changes d d' p loc text.toUTF8 := by
  have hempty : ByteArray.empty ++ text.toUTF8 = text.toUTF8 := ByteArray.empty_append
  refine ⟨{ d with root := d.root.set (.file text.toUTF8) loc }, ?_, hp.changes (.inl hnone) _⟩
  rw [append, update, (resolveFor_eq_vacant_iff _ _ _ _).2 ⟨hp, hnone⟩, hempty]

end Removal

end Disk

end ScanDelta

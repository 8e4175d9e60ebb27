import ScanDelta.Config
import ScanDelta.Proofs.Files.Ancestors
import ScanDelta.Proofs.Json.Candidates
import ScanDelta.Proofs.Run

/-!
# The configuration file that counts

* `IsIn d directory n` : the directory has a configuration file; `settingsIn n` : what that file sets;
* `load_nearest` : from a straight directory upwards, the nearest configuration file says what is loaded;
* `Adds d d'` : files have been added and nothing else has changed;
* `create_eq_ok_some_iff`, `added_of_write` : when the template is created, and what that does;
* `Call`, `adds_call`, `adds_calls` : one call and many of creating and loading change no file that is there;
* `Nearest d p q`, `load_of_nearest` : from below, the file of a directory is found if none is nearer;
* `nearest_config_counts` : all of it.
-/

set_option autoImplicit false

namespace ScanDelta

/-- The text in a file. -/
def Node.text? : Node → Option String
  | file bytes => String.fromUTF8? bytes
  | _ => none

theorem Disk.toOption_readText {d : Disk} {p : String} {n : Node} (h : d.node? p = some n) :
    (d.readText p).toOption = n.text? := by
  obtain ⟨loc, hpoints, hat⟩ := (node?_eq_some_iff d p n).1 h
  have hresolve := (resolveFor_eq_present_iff d .visit p loc n).2 ⟨hpoints, hat⟩
  rw [readText, read, resolve, hresolve]
  cases n with
  | file bytes =>
    rw [Node.text?, ok_bind]
    cases String.fromUTF8? bytes <;> rfl
  | dir es => rfl
  | link target => rfl

namespace Config

open Disk

/-! ## Loading -/

/-- The directory has a configuration file, which is the node or a link that leads to it. -/
def IsIn (d : Disk) (directory : String) (n : Node) : Prop := d.HasEntry directory fileName n

theorem entryName_fileName : EntryName fileName := by decide

theorem node?_pathIn_iff {d : Disk} {p : String} (hp : d.Straight p) (n : Node) :
    d.node? (pathIn p) = some n ↔ IsIn d p n :=
  node?_join_iff hp entryName_fileName n

/-- What the configuration file at a node sets; nothing if it cannot be read or does not fit. -/
def settingsIn (n : Node) : Option Config := n.text?.bind fun text => (ofText text).toOption

theorem value_load (d : Disk) (start : String) : (load d start).value =
    (find? d start).bind fun p => (d.readText p).toOption.bind fun text => (ofText text).toOption := by
  rw [load]
  cases find? d start with
  | none => rfl
  | some p =>
    dsimp only
    rw [Option.bind_some, Traced.bind_value]
    cases d.readText p with
    | error e => rfl
    | ok text =>
      show _ = (ofText text).toOption
      dsimp only
      cases ofText text <;> rfl

theorem bind_find? (d : Disk) (qs : List String) :
    ((qs.map pathIn).find? d.exists?).bind d.node? = qs.findSome? fun q => d.node? (pathIn q) := by
  induction qs with
  | nil => rfl
  | cons q qs ih =>
    rw [List.map_cons, List.findSome?_cons]
    cases hq : d.node? (pathIn q) with
    | none => rw [List.find?_cons_of_neg (by simp [exists?, hq]), ih]
    | some n =>
      rw [List.find?_cons_of_pos (by simp [exists?, hq]), Option.bind_some, hq]

theorem value_load_eq (d : Disk) (start : String) : (load d start).value =
    ((Path.ancestors start).findSome? fun q => d.node? (pathIn q)).bind settingsIn := by
  rw [value_load, ← bind_find?, ← find?]
  cases hfind : find? d start with
  | none => rfl
  | some p =>
    rw [Option.bind_some, Option.bind_some]
    have hthere : d.exists? p = true := List.find?_some hfind
    obtain ⟨n, hn⟩ := Option.isSome_iff_exists.1 hthere
    rw [hn, Option.bind_some, toOption_readText hn, settingsIn]

/-- The nearest configuration file at or above a directory, and no other, says what is loaded. -/
theorem load_nearest {d : Disk} {p : String} (hp : d.Straight p) :
    ∃ o, Chosen (IsIn d) (Path.ancestors p) o ∧ (load d p).value = o.bind settingsIn := by
  refine ⟨_, ?_, value_load_eq d p⟩
  have hchosen : Chosen (fun q n => d.node? (pathIn q) = some n) (Path.ancestors p) _ :=
    (chosen_iff (fun _ _ => Iff.rfl) _ _).2 rfl
  refine hchosen.congr fun q hq n => node?_pathIn_iff (hp.above ?_ ?_) n
  · exact Path.isAbsolute_of_mem_ancestors hp.absolute hq
  · exact Path.components_prefix_of_mem_ancestors hp.absolute hq

/-! ## Creating -/

/-- Files have been added where nothing was, and nothing else has changed. -/
structure Adds (d d' : Disk) : Prop where
  grows : Grows d d'
  files {loc : Location} {bytes : ByteArray} (h : d.fileAt loc = some bytes) : d'.fileAt loc = some bytes

theorem Adds.refl (d : Disk) : Adds d d := ⟨.refl d, id⟩

theorem Adds.trans {d d' d'' : Disk} (h : Adds d d') (h' : Adds d' d'') : Adds d d'' :=
  ⟨h.grows.trans h'.grows, fun hfile => h'.files (h.files hfile)⟩

theorem node?_of_leads {d : Disk} {p : String} {loc : Location} (h : d.Leads p loc) {bytes : ByteArray}
    (hbytes : d.fileAt loc = some bytes) : d.node? p = some (.file bytes) := by
  have hpoints := ((leads_iff d p loc).1 h).1
  have hat := (Node.look_eq_file_iff _ _ _).1 ((fileAt_eq_some_iff d loc bytes).1 hbytes)
  exact (node?_eq_some_iff d p _).2 ⟨loc, hpoints.visit, hat⟩

/-- What is written where nothing is adds a file. -/
theorem added_of_write {d d' : Disk} {p text : String} (h : d.write p text = .ok d') (hnew : d.exists? p = false) :
    Adds d d' ∧ ∃ loc, d'.Leads p loc ∧ d'.fileAt loc = some text.toUTF8 := by
  have hfree : ∀ {loc n}, d.Points .file p loc → d.root.at? loc = some n → False := by
    intro loc n hpoints hat
    have hnode := (node?_eq_some_iff d p n).2 ⟨loc, hpoints.visit, hat⟩
    rw [exists?, hnode] at hnew
    cases hnew
  rw [write, update] at h
  split at h
  · rename_i loc bytes ht
    obtain ⟨hpoints, hat⟩ := (resolveFor_eq_present_iff _ _ _ _ _).1 ht
    exact (hfree hpoints hat).elim
  · cases h
  · rename_i loc ht
    cases h
    obtain ⟨hpoints, hnone⟩ := (resolveFor_eq_vacant_iff _ _ _ _).1 ht
    have hchanges := hpoints.changes (.inl hnone) text.toUTF8
    refine ⟨⟨hchanges.grows, fun {loc' bytes} hfile => ?_⟩, loc, hchanges.leads, hchanges.content⟩
    have hne : loc' ≠ loc := by
      rintro rfl
      rw [fileAt_eq_some_iff, hnone] at hfile
      cases hfile
    rw [hchanges.others hne, hfile]
  · cases h

/-- The template is created just if there is no configuration file yet and it can be written. -/
theorem create_eq_ok_some_iff (d d' : Disk) (directory : String) : create d directory = .ok (some d') ↔
    d.exists? (pathIn directory) = false ∧ d.write (pathIn directory) template = .ok d' := by
  rw [create]
  by_cases hthere : d.exists? (pathIn directory) = true
  · rw [if_pos hthere, hthere]
    exact iff_of_false nofun nofun
  · have hnew : d.exists? (pathIn directory) = false := by simpa using hthere
    rw [if_neg hthere, hnew, and_iff_right rfl]
    cases d.write (pathIn directory) template <;> simp [Except.map]

theorem create_eq_ok_none_iff (d : Disk) (directory : String) :
    create d directory = .ok none ↔ d.exists? (pathIn directory) = true := by
  rw [create]
  by_cases hthere : d.exists? (pathIn directory) = true
  · rw [if_pos hthere]
    exact iff_of_true rfl hthere
  · rw [if_neg hthere]
    refine iff_of_false ?_ hthere
    cases d.write (pathIn directory) template <;> exact nofun

/-! ## Calls -/

inductive Call where
  | create (directory : String)
  | load (directory : String)

/-- The disk after a call; a call that fails leaves it as it is. -/
def Call.after (d : Disk) : Call → Disk
  | create directory =>
    match Config.create d directory with
    | .ok (some d') => d'
    | _ => d
  | load _ => d

/-- One call changes no file that is there. -/
theorem adds_call (d : Disk) (c : Call) : Adds d (c.after d) := by
  cases c with
  | load directory => exact .refl d
  | create directory =>
    rw [Call.after]
    split
    · rename_i d' hcreate
      obtain ⟨hnew, hwrite⟩ := (create_eq_ok_some_iff _ _ _).1 hcreate
      exact (added_of_write hwrite hnew).1
    · exact .refl d

/-- Nor do many calls. -/
theorem adds_calls (d : Disk) (cs : List Call) : Adds d (cs.foldl Call.after d) := by
  induction cs generalizing d with
  | nil => exact .refl d
  | cons c cs ih => exact (adds_call d c).trans (ih _)

/-- What the template sets. -/
def templateSettings : Config := ⟨some "warning", some 20, some "CodeQL", none, none⟩

theorem ofText_template : (ofText template).toOption = some templateSettings := by
  -- the characters of the lines one by one, which is much less work than those of the whole text
  rw [ofText, Toml.parse, template, Text.join, String.toList_intercalate]
  decide +kernel

theorem settingsIn_template : settingsIn (.file template.toUTF8) = some templateSettings := by
  rw [settingsIn, Node.text?, fromUTF8?_toUTF8, Option.bind_some, ofText_template]

/-- The template that has been created stays where it is, whatever is called. -/
theorem node?_after {d d' : Disk} {p : String} (h : create d p = .ok (some d')) (cs : List Call) :
    (cs.foldl Call.after d').node? (pathIn p) = some (.file template.toUTF8) := by
  obtain ⟨hnew, hwrite⟩ := (create_eq_ok_some_iff _ _ _).1 h
  obtain ⟨-, loc, hleads, hcontent⟩ := added_of_write hwrite hnew
  have hadds := adds_calls d' cs
  exact node?_of_leads (hleads.of_grows hadds.grows) (hadds.files hcontent)

/-- A directory at or below another one, and no configuration file is nearer to it than that of the other one. -/
structure Nearest (d : Disk) (p q : String) : Prop where
  straight : d.Straight q
  below : Path.components p <+: Path.components q
  /-- If the other directory is written in another way on the way upwards, it can be looked up by that. -/
  readable : ∀ r ∈ Path.ancestors q, Path.components r = Path.components p → r ≠ p → Readable (pathIn r)
  free : ∀ r ∈ Path.ancestors q, Path.components p <+: Path.components r → Path.components r ≠ Path.components p →
    ∀ n, ¬ IsIn d r n

/-- From below, the file is found that is nearest. -/
theorem load_of_nearest {d : Disk} {p q : String} {n : Node} (hp : Path.isAbsolute p = true) (h : Nearest d p q)
    (hn : d.node? (pathIn p) = some n) : (load d q).value = settingsIn n := by
  obtain ⟨o, hchosen, hload⟩ := load_nearest h.straight
  have hin : IsIn d p n := (node?_pathIn_iff (h.straight.above hp h.below) n).1 hn
  obtain ⟨before, r, after, hancestors, hr, hbefore⟩ := Path.exists_ancestor h.straight.absolute h.below
  have hmem : r ∈ Path.ancestors q := hancestors ▸ List.mem_append_right _ List.mem_cons_self
  have hin' : IsIn d r n := by
    by_cases heq : r = p
    · rwa [heq]
    · refine ⟨h.readable r hmem hr heq, ?_, ?_⟩
      · rw [hr]
        exact hin.short
      · rw [hr]
        exact hin.there
  have hfree : ∀ r' ∈ before, ∀ m, ¬ IsIn d r' m := fun r' hr' =>
    h.free r' (hancestors ▸ List.mem_append_left _ hr') (hbefore r' hr').1 (hbefore r' hr').2
  rw [hload, hchosen.first before r after n hancestors hfree hin', Option.bind_some]

/-- **The nearest configuration file counts, and one that is created is found.** On the way from a straight directory up
to the root, what is loaded is what the first configuration file sets: nothing if it is broken, or if there is none.
One is created just where there is none and it can be written, and no calls ever change a file that is there. From the
directory and from all below it to which no other one is nearer, the settings of the template are loaded afterwards. -/
theorem nearest_config_counts :
    (∀ p, Path.isAbsolute p = true → (Path.ancestors p).map Path.components = (Path.components p).inits.reverse) ∧
    (∀ (d : Disk) p, d.Straight p →
      ∃ o, Chosen (IsIn d) (Path.ancestors p) o ∧ (load d p).value = o.bind settingsIn) ∧
    (∀ (d d' : Disk) p, create d p = .ok (some d') ↔
      d.exists? (pathIn p) = false ∧ d.write (pathIn p) template = .ok d') ∧
    (∀ (d : Disk) p, create d p = .ok none ↔ d.exists? (pathIn p) = true) ∧
    (∀ (d : Disk) (cs : List Call), Adds d (cs.foldl Call.after d)) ∧
    ∀ (d d' : Disk) p, create d p = .ok (some d') → Path.isAbsolute p = true → ∀ (cs : List Call) q,
      Nearest (cs.foldl Call.after d') p q → (load (cs.foldl Call.after d') q).value = some templateSettings := by
  refine ⟨fun p => Path.map_components_ancestors, fun d p => load_nearest, create_eq_ok_some_iff, create_eq_ok_none_iff,
    adds_calls, ?_⟩
  intro d d' p hcreate hp cs q hq
  rw [load_of_nearest hp hq (node?_after hcreate cs), settingsIn_template]

/-- A broken configuration file, and directories below it. -/
def nestedDisk : Disk :=
  ⟨.dir [("a", .dir [(".alertdiff.toml", .file "[compare".toUTF8), ("b", .dir [("c", .dir [])])])], []⟩

/-- The same with the template in the directory in the middle. -/
def createdDisk : Disk :=
  { nestedDisk with root := nestedDisk.root.set (.file template.toUTF8) ["a", "b", ".alertdiff.toml"] }

theorem points_nestedDisk (purpose : Purpose) :
    nestedDisk.Points purpose "/a/b/.alertdiff.toml" ["a", "b", ".alertdiff.toml"] := by
  have hnames : names "/a/b/.alertdiff.toml" = ["a", "b", ".alertdiff.toml"] := by decide
  have hfits : ∀ {rest : List String}, (∀ name ∈ rest, Named name) → Fits purpose rest :=
    fun h => fits_of_named h purpose
  refine ⟨⟨by decide, by decide, by decide⟩, rfl, ?_⟩
  rw [hnames]
  refine .enter rfl (by decide) (hfits (by decide)) rfl nofun ?_
  refine .enter rfl (by decide) (hfits (by decide)) rfl nofun ?_
  exact .vacant rfl (by decide) (hfits (by decide)) rfl rfl

theorem create_nestedDisk : create nestedDisk "/a/b" = .ok (some createdDisk) := by
  have hvacant : ∀ purpose, nestedDisk.resolveFor purpose "/a/b/.alertdiff.toml" =
      .ok (.vacant ["a", "b", ".alertdiff.toml"]) := fun purpose =>
    (resolveFor_eq_vacant_iff _ _ _ _).2 ⟨points_nestedDisk purpose, rfl⟩
  have hpath : pathIn "/a/b" = "/a/b/.alertdiff.toml" := by decide
  rw [create_eq_ok_some_iff, hpath, exists?, node?, resolve, write, update, hvacant, hvacant]
  exact ⟨rfl, rfl⟩

/-- Above a directory without one, the broken file counts, until one is created. -/
theorem nearest_config_counts_nestedDisk :
    (load nestedDisk "/a/b/c").value = none ∧
    ∃ d', create nestedDisk "/a/b" = .ok (some d') ∧ (load d' "/a/b/c").value = some templateSettings := by
  have hancestors : Path.ancestors "/a/b/c" = ["/a/b/c", "/a/b"] ++ "/a" :: ["/"] := by decide
  have hbroken : settingsIn (.file "[compare".toUTF8) = none := by
    have hfit : (ofText "[compare").toOption = none := by decide +kernel
    rw [settingsIn, Node.text?, fromUTF8?_toUTF8, Option.bind_some, hfit]
  constructor
  · have hstraight : nestedDisk.Straight "/a/b/c" := straight_of_dir (by decide) (by decide) rfl
    obtain ⟨o, hchosen, hload⟩ := nearest_config_counts.2.1 nestedDisk "/a/b/c" hstraight
    have hin : IsIn nestedDisk "/a" (.file "[compare".toUTF8) :=
      hasEntry_of_file (by decide) ⟨by decide, by decide, by decide⟩ (by decide) rfl
    have hfree : ∀ q ∈ ["/a/b/c", "/a/b"], ∀ n, ¬ IsIn nestedDisk q n := by
      simp only [List.forall_mem_cons]
      refine ⟨fun n h => ?_, fun n h => ?_, List.forall_mem_nil _⟩
      · exact absurd (h.isSome_look entryName_fileName.named) (by decide)
      · exact absurd (h.isSome_look entryName_fileName.named) (by decide)
    rw [hload, hchosen.first _ _ _ _ hancestors hfree hin, Option.bind_some, hbroken]
  · have hnearest : Nearest createdDisk "/a/b" "/a/b/c" := by
      refine ⟨straight_of_dir (by decide) (by decide) rfl, by decide, ?_, ?_⟩
      · intro r hr heq hne
        rw [hancestors] at hr
        have hspelling : ∀ r ∈ ["/a/b/c", "/a/b"] ++ "/a" :: ["/"],
            Path.components r = Path.components "/a/b" → r = "/a/b" := by decide
        exact absurd (hspelling r hr heq) hne
      · intro r hr hbelow hne n hn
        rw [hancestors] at hr
        have hdeeper : ∀ r ∈ ["/a/b/c", "/a/b"] ++ "/a" :: ["/"], Path.components "/a/b" <+: Path.components r →
            Path.components r ≠ Path.components "/a/b" → r = "/a/b/c" := by decide
        obtain rfl := hdeeper r hr hbelow hne
        exact absurd (hn.isSome_look entryName_fileName.named) (by decide)
    exact ⟨createdDisk, create_nestedDisk,
      nearest_config_counts.2.2.2.2.2 _ _ _ create_nestedDisk (by decide) [] _ hnearest⟩

end Config

end ScanDelta

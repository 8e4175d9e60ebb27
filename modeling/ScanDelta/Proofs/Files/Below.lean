import ScanDelta.Files.Search
import ScanDelta.Proofs.Files.Listing
import ScanDelta.Proofs.Files.Removal

/-!
# Paths below a directory

* `Disk.exists_names_under` : a path below a directory has the names of the directory, less those at the end that do not
  count, and then the names from the directory down;
* `Path.components p`, `Path.components_under` : the names that count, by which paths are ordered;
* `Disk.Arrives.further` : names that lead to a directory, and others that lead on from there;
* `Disk.Points.under` : a path below a directory leads to what stands there;
* `Disk.read_under`, `Disk.readText_under` : a file that stands below a directory is read by its path.
-/

set_option autoImplicit false

namespace ScanDelta

/-! ## The names of a path below a directory -/

namespace Path

theorem segments_append {a : String} (ha : a ≠ "") (b : String) :
    segments (a ++ "/" ++ b) = segments a ++ Text.splitOn '/' b.toList := by
  obtain ⟨c, cs, hcs⟩ := List.exists_cons_of_ne_nil (mt String.toList_eq_nil_iff.1 ha)
  have hall : (a ++ "/" ++ b).toList = c :: (cs ++ '/' :: b.toList) := by
    rw [String.toList_append, String.toList_append, hcs, List.append_assoc]
    rfl
  unfold segments
  rw [hall, hcs]
  by_cases hc : c = '/'
  · subst hc
    exact Text.splitOn_append '/' cs b.toList
  · have hsplit := Text.splitOn_append '/' (c :: cs) b.toList
    split
    · rename_i heq
      exact absurd (List.cons.inj heq).1 hc
    · split
      · rename_i heq
        exact absurd (List.cons.inj heq).1 hc
      · exact hsplit

theorem segments_slash (b : String) : segments ("/" ++ b) = Text.splitOn '/' b.toList := by
  unfold segments
  rw [String.toList_append]
  rfl

end Path

namespace Location

/-- Names of entries are no path from the root on. -/
theorem not_isAbsolute_join {l : Location} (hne : l ≠ []) (hl : ∀ name ∈ l, EntryName name) :
    Path.isAbsolute (Text.join "/" l) = false := by
  obtain ⟨name, rest, rfl⟩ := List.exists_cons_of_ne_nil hne
  have hname := hl name List.mem_cons_self
  obtain ⟨c, cs, hcs⟩ := List.exists_cons_of_ne_nil (mt String.toList_eq_nil_iff.1 hname.named.ne_empty)
  obtain ⟨more, hmore⟩ := Text.toList_join_cons name rest
  rw [Path.isAbsolute, hmore, hcs]
  have hc : c ≠ '/' := by
    rintro rfl
    exact hname.noSlash (hcs ▸ List.mem_cons_self)
  simpa using hc

/-- A slash stands between the directory and the names, its own if it ends in one. -/
theorem under_eq {p : String} (hp : p ≠ "") {l : Location} (hne : l ≠ []) (hl : ∀ name ∈ l, EntryName name) :
    under p l = if Disk.endsInSlash p then p ++ Text.join "/" l else p ++ "/" ++ Text.join "/" l := by
  rw [under, Path.join, not_isAbsolute_join hne hl, if_neg Bool.false_ne_true]
  by_cases h : Disk.endsInSlash p = true
  · have hslash : decide (p.toList.getLast? = some '/') = true := h
    rw [if_pos h, hslash, Bool.or_true, if_pos rfl]
  · have hempty : p.isEmpty = false := by simpa using hp
    have hslash : decide (p.toList.getLast? = some '/') = false := by simpa [Disk.endsInSlash] using h
    rw [if_neg h, hempty, hslash]
    rfl

end Location

namespace Disk

theorem names_append {a : String} (ha : a ≠ "") {l : Location} (hne : l ≠ []) (hl : ∀ name ∈ l, EntryName name) :
    names (a ++ "/" ++ Text.join "/" l) = names a ++ l := by
  rw [names, Path.segments_append ha, List.map_append, Text.splitOn_join hne fun name hname => (hl name hname).noSlash]
  rfl

/-- Below a directory a path has the names of the directory, but for a silent one at its end, and the names from there
down. -/
theorem exists_names_under {p : String} (hp : p ≠ "") : ∃ ns tail, names p = ns ++ tail ∧
    (∀ name ∈ tail, Path.isSilent name.toList = true) ∧
    ∀ l : Location, l ≠ [] → (∀ name ∈ l, EntryName name) → names (Location.under p l) = ns ++ l := by
  by_cases hslash : endsInSlash p = true
  · have hend : p.toList.getLast? = some '/' := by simpa [endsInSlash] using hslash
    obtain ⟨cs, hcs⟩ := List.getLast?_eq_some_iff.1 hend
    have hsplit : p = String.ofList cs ++ "/" := by
      rw [← String.toList_inj, String.toList_append, String.toList_ofList, hcs]
      rfl
    have hsilent : ∀ name ∈ [""], Path.isSilent name.toList = true := by decide
    by_cases hroot : String.ofList cs = ""
    · rw [hroot] at hsplit
      subst hsplit
      refine ⟨[], [""], by decide, hsilent, fun l hne hl => ?_⟩
      rw [Location.under_eq hp hne hl, if_pos hslash]
      rw [names, String.empty_append, Path.segments_slash, List.nil_append]
      exact Text.splitOn_join hne fun name hname => (hl name hname).noSlash
    · refine ⟨names (String.ofList cs), [""], ?_, hsilent, fun l hne hl => ?_⟩
      · have hnames := Path.segments_append hroot ""
        rw [String.append_empty, ← hsplit] at hnames
        rw [names, hnames, List.map_append]
        rfl
      · rw [Location.under_eq hp hne hl, if_pos hslash, hsplit]
        exact names_append hroot hne hl
  · refine ⟨names p, [], (List.append_nil _).symm, List.forall_mem_nil _, fun l hne hl => ?_⟩
    rw [Location.under_eq hp hne hl, if_neg hslash]
    exact names_append hp hne hl

/-! ## Names that count -/

end Disk

namespace Path

/-- The names of a path that count. -/
def components (p : String) : List String := (Disk.names p).filter fun name => !isSilent name.toList

/-- The path of what stands below a directory has the components of the directory, and then the names from there down. -/
theorem components_under {p : String} (hp : p ≠ "") {l : Location} (hne : l ≠ []) (hl : ∀ name ∈ l, EntryName name) :
    components (Location.under p l) = components p ++ l := by
  obtain ⟨ns, tail, hnames, htail, hunder⟩ := Disk.exists_names_under hp
  have hsilent : tail.filter (fun name => !isSilent name.toList) = [] :=
    List.filter_eq_nil_iff.2 fun name hname => by simp [htail name hname]
  have hcounts : l.filter (fun name => !isSilent name.toList) = l :=
    List.filter_eq_self.2 fun name hname => by simp [(hl name hname).named.notSilent]
  rw [components, components, hunder l hne hl, hnames, List.filter_append, List.filter_append, hsilent, hcounts,
    List.append_nil]

end Path

namespace Disk

/-! ## The way on from a directory -/

section Under
variable {d : Disk} {p : String} {es : List (String × Node)} {l : Location} {bytes : ByteArray}

theorem Arrives.eq_of_silent {root : Node} {purpose : Purpose} {links : Nat} {start loc : Location} {ns : List String}
    (h : Arrives root purpose links start ns loc) (hns : ∀ name ∈ ns, Path.isSilent name.toList = true) : loc = start := by
  induction h with
  | here => rfl
  | silent hdir hname hrest ih => exact ih fun name hmem => hns name (List.mem_cons_of_mem _ hmem)
  | up =>
    have hup := hns ".." List.mem_cons_self
    cases hup
  | vacant _ hname | entry _ hname | follow _ hname | enter _ hname =>
    have hsilent := hns _ List.mem_cons_self
    rw [hname.notSilent] at hsilent
    cases hsilent

/-- Names that lead to a directory, less silent ones at the end, and then names that lead on from there. -/
theorem Arrives.further {root : Node} {links : Nat} {start loc loc' : Location} {ns tail more : List String}
    (h : Arrives root .visit links start (ns ++ tail) loc) (htail : ∀ name ∈ tail, Path.isSilent name.toList = true)
    (hdir : root.look loc = some .dir) (hmore : ∀ links, Arrives root .visit links loc more loc') :
    Arrives root .visit links start (ns ++ more) loc' := by
  -- where only silent names are left, the directory has been reached
  have hreached : ∀ {links : Nat} {start : Location}, Arrives root .visit links start tail loc →
      Arrives root .visit links start more loc' := by
    intro links start h
    obtain rfl := h.eq_of_silent htail
    exact hmore links
  generalize hall : ns ++ tail = all at h
  induction h generalizing ns with
  | here links start =>
    obtain ⟨rfl, -⟩ := List.append_eq_nil_iff.1 hall
    exact hmore links
  | @silent links start loc name rest hin hname hrest ih =>
    rcases ns with _ | ⟨first, ns⟩
    · obtain rfl : tail = _ := hall
      exact hreached (.silent hin hname hrest)
    · obtain ⟨rfl, rfl⟩ := List.cons.inj hall
      exact .silent hin hname (ih hdir hmore hreached rfl)
  | @up links start loc rest hin hrest ih =>
    rcases ns with _ | ⟨first, ns⟩
    · obtain rfl : tail = _ := hall
      exact hreached (.up hin hrest)
    · obtain ⟨rfl, rfl⟩ := List.cons.inj hall
      exact .up hin (ih hdir hmore hreached rfl)
  | vacant hin hname hfits hlast hnone =>
    rw [hnone] at hdir
    cases hdir
  | entry hin hname hfits hlast hpurpose hlink => cases hpurpose
  | @follow links start loc name target rest hin hname hfits hgo hlink hrest ih =>
    rcases ns with _ | ⟨first, ns⟩
    · obtain rfl : tail = _ := hall
      exact hreached (.follow hin hname hfits hgo hlink hrest)
    · obtain ⟨rfl, rfl⟩ := List.cons.inj hall
      have hmore := ih hdir hmore hreached (List.append_assoc (names target) ns tail)
      rw [List.append_assoc] at hmore
      exact .follow hin hname (fits_visit _) (fun h => nomatch h.2) hlink hmore
  | @enter links start loc name rest e hin hname hfits hsome hnode hrest ih =>
    rcases ns with _ | ⟨first, ns⟩
    · obtain rfl : tail = _ := hall
      exact hreached (.enter hin hname hfits hsome hnode hrest)
    · obtain ⟨rfl, rfl⟩ := List.cons.inj hall
      exact .enter hin hname (fits_visit _) hsome hnode (ih hdir hmore hreached rfl)

theorem node?_eq_some_iff (d : Disk) (p : String) (n : Node) :
    d.node? p = some n ↔ ∃ loc, d.Points .visit p loc ∧ d.root.at? loc = some n := by
  simp only [← resolveFor_eq_present_iff]
  rw [node?, resolve]
  constructor
  · intro h
    split at h
    · rename_i loc n' hresolved
      cases h
      exact ⟨loc, hresolved⟩
    · cases h
  · rintro ⟨loc, hloc⟩
    rw [hloc]

theorem containsNul_under {p : String} (hp : p ≠ "") (hnul : containsNul p = false) {l : Location} (hne : l ≠ [])
    (hl : ∀ name ∈ l, EntryName name) : containsNul (Location.under p l) = false := by
  have hin : Char.ofNat 0 ∉ p.toList := by simpa [containsNul] using hnul
  have hjoin : Char.ofNat 0 ∉ (Text.join "/" l).toList := by
    intro h
    rcases Text.mem_join h with h | ⟨name, hname, h⟩
    · revert h
      decide
    · exact (hl name hname).noNul h
  have hslash : Char.ofNat 0 ∉ "/".toList := by decide
  rw [Location.under_eq hp hne hl]
  split <;> simpa [containsNul, hin] using hjoin

theorem startOf_under (d : Disk) {p : String} (hp : p ≠ "") {l : Location} (hne : l ≠ [])
    (hl : ∀ name ∈ l, EntryName name) : d.startOf (Location.under p l) = d.startOf p := by
  obtain ⟨c, cs, hcs⟩ := List.exists_cons_of_ne_nil (mt String.toList_eq_nil_iff.1 hp)
  have habsolute : Path.isAbsolute (Location.under p l) = Path.isAbsolute p := by
    rw [Location.under_eq hp hne hl]
    split <;> simp [Path.isAbsolute, hcs]
  rw [startOf, startOf, habsolute]

/-- A path below a directory leads to what stands there. -/
theorem Points.under {loc : Location} (hp : d.Points .visit p loc) (hdir : d.look loc = some .dir) (hne : l ≠ [])
    (hl : ∀ name ∈ l, EntryName name) (hfile : d.look (loc ++ l) = some (.file bytes))
    (hshort : (Location.under p l).utf8ByteSize ≤ pathLimit) : d.Points .visit (Location.under p l) (loc ++ l) := by
  have hempty : p ≠ "" := by simpa using hp.readable.notEmpty
  obtain ⟨ns, tail, hnames, htail, hunder⟩ := exists_names_under hempty
  refine ⟨⟨containsNul_under hempty hp.readable.nul hne hl, hshort, ?_⟩, ?_, ?_⟩
  · rw [Location.under_eq hempty hne hl]
    split <;> simp [hempty]
  · rw [startOf_under d hempty hne hl]
    exact hp.start
  · have harrives := hp.arrives
    rw [hnames] at harrives
    rw [startOf_under d hempty hne hl, hunder l hne hl]
    exact harrives.further htail hdir fun links =>
      arrives_of_named .visit links (fun name hname => (hl name hname).named) hfile nofun

/-- A file that stands below a directory is found by its path, if that is not too long. -/
theorem read_under (hp : d.node? p = some (.dir es)) (hne : l ≠ []) (hl : ∀ name ∈ l, EntryName name)
    (hfile : (Node.dir es).look l = some (.file bytes)) :
    d.read (Location.under p l) =
      if pathLimit < (Location.under p l).utf8ByteSize then .error .nameTooLong else .ok bytes := by
  obtain ⟨loc, hpoints, hat⟩ := (node?_eq_some_iff d p _).1 hp
  have hdir : d.look loc = some .dir := (Node.look_eq_dir_iff d.root loc).2 ⟨es, hat⟩
  have hbelow : d.look (loc ++ l) = some (.file bytes) := by
    rw [look, Node.look_eq_file_iff, Node.at?_append, hat]
    exact (Node.look_eq_file_iff _ _ _).1 hfile
  by_cases hlong : pathLimit < (Location.under p l).utf8ByteSize
  · have hempty : p ≠ "" := by simpa using hpoints.readable.notEmpty
    have hnul := containsNul_under hempty hpoints.readable.nul hne hl
    rw [if_pos hlong, read, resolve, resolveFor, hnul, if_neg Bool.false_ne_true, if_pos hlong]
  · have hunder := hpoints.under hdir hne hl hbelow (Nat.le_of_not_lt hlong)
    have hpresent := (resolveFor_eq_present_iff _ _ _ _ _).2 ⟨hunder, (Node.look_eq_file_iff _ _ _).1 hbelow⟩
    rw [if_neg hlong, read, resolve, hpresent]

/-- The text in a file with these bytes, read by its path. -/
def textFrom (q : String) (bytes : ByteArray) : Except FileError String :=
  if pathLimit < q.utf8ByteSize then .error .nameTooLong
  else
    match String.fromUTF8? bytes with
    | some text => .ok text
    | none => .error .notText

theorem textFrom_ne_noEntry (q : String) (bytes : ByteArray) : textFrom q bytes ≠ .error .noEntry := by
  unfold textFrom
  split
  · exact nofun
  · split <;> exact nofun

theorem readText_under (hp : d.node? p = some (.dir es)) (hne : l ≠ []) (hl : ∀ name ∈ l, EntryName name)
    (hfile : (Node.dir es).look l = some (.file bytes)) :
    d.readText (Location.under p l) = textFrom (Location.under p l) bytes := by
  rw [readText, read_under hp hne hl hfile, textFrom]
  split
  · rfl
  · show (match String.fromUTF8? bytes with | some text => Except.ok text | none => .error FileError.notText) = _
    cases String.fromUTF8? bytes <;> rfl

end Under

end Disk

end ScanDelta

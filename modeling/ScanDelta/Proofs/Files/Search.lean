import Mathlib.Data.List.Sort
import ScanDelta.Proofs.Files.Below

/-!
# Searching a directory

* `Path.extension?_eq_some_iff` : the extension is what follows the last dot, if something stands before it;
* `Node.HasScan n l` : a scan file stands at a location;
* `Node.scans`, `Node.mem_scans_iff` : where the scan files of a tree stand, in increasing order;
* `Path.components_under_lt`, `Disk.pairwise_components_search` : paths are found in the order of their components;
* `Disk.search_finds_scan_files` : a search finds just these, each once, in the order of the components of their paths,
  in whatever order the directories list their entries.
-/

set_option autoImplicit false

namespace ScanDelta

/-! ## Extensions -/

namespace Path

theorem exists_last_dot {name : List Char} (h : '.' ∈ name) : ∃ stem ext, name = stem ++ '.' :: ext ∧ '.' ∉ ext := by
  obtain ⟨xs, ys, hreverse, hxs⟩ := List.eq_append_cons_of_mem (List.mem_reverse.2 h)
  refine ⟨ys.reverse, xs.reverse, ?_, by simpa using hxs⟩
  rw [← List.reverse_inj, hreverse]
  simp

theorem extension?_of_no_dot {name : List Char} (h : '.' ∉ name) : extension? name = none := by
  rw [extension?, Text.splitOn_eq, List.splitOn_eq_singleton h]
  rfl

theorem extension?_of_first_dot {ext : List Char} (hext : '.' ∉ ext) : extension? ('.' :: ext) = none := by
  have hlast : Text.splitOn '.' ext = [ext] := by rw [Text.splitOn_eq, List.splitOn_eq_singleton hext]
  rw [extension?, Text.splitOn, if_pos rfl, hlast]
  rfl

theorem extension?_of_last_dot {stem ext : List Char} (hstem : stem ≠ []) (hext : '.' ∉ ext) :
    extension? (stem ++ '.' :: ext) = if stem ++ '.' :: ext = ['.', '.'] then none else some ext := by
  have hlast : Text.splitOn '.' ext = [ext] := by rw [Text.splitOn_eq, List.splitOn_eq_singleton hext]
  have hone : Text.splitOn '.' stem ≠ [[]] := by
    intro h
    have hjoin : ['.'].intercalate (stem.splitOn '.') = stem := List.intercalate_splitOn '.'
    rw [← Text.splitOn_eq, h] at hjoin
    exact hstem hjoin.symm
  have hnone := Text.splitOn_ne_nil '.' stem
  rw [extension?, Text.splitOn_append, hlast, List.reverse_concat]
  -- what stands before the dot is one piece that is not empty, or several
  cases hpieces : (Text.splitOn '.' stem).reverse with
  | nil => exact absurd (List.reverse_eq_nil_iff.1 hpieces) hnone
  | cons last pieces =>
    rw [List.reverse_eq_cons_iff] at hpieces
    cases pieces with
    | nil =>
      cases last with
      | nil => exact absurd hpieces hone
      | cons c cs => rfl
    | cons before pieces => cases last <;> rfl

/-- The extension is what follows the last dot, if something stands before it. -/
theorem extension?_eq_some_iff (name ext : List Char) :
    extension? name = some ext ↔ '.' ∉ ext ∧ name ≠ ['.', '.'] ∧ ∃ stem, stem ≠ [] ∧ name = stem ++ '.' :: ext := by
  constructor
  · intro h
    by_cases hdot : '.' ∈ name
    · obtain ⟨stem, ext', rfl, hext⟩ := exists_last_dot hdot
      have hstem : stem ≠ [] := by
        rintro rfl
        rw [List.nil_append, extension?_of_first_dot hext] at h
        cases h
      rw [extension?_of_last_dot hstem hext] at h
      split at h
      · cases h
      · rename_i hname
        cases h
        exact ⟨hext, hname, stem, hstem, rfl⟩
    · rw [extension?_of_no_dot hdot] at h
      cases h
  · rintro ⟨hext, hname, stem, hstem, rfl⟩
    rw [extension?_of_last_dot hstem hext, if_neg hname]

end Path

/-! ## Scan files in a tree -/

/-- Letter by letter: `.SARIF` is another extension. -/
theorem Path.extension?_eq_sarif_iff (name : String) :
    extension? name.toList = some "sarif".toList ↔ ∃ stem, stem ≠ "" ∧ name = stem ++ ".sarif" := by
  rw [extension?_eq_some_iff]
  constructor
  · rintro ⟨-, -, stem, hstem, hname⟩
    refine ⟨String.ofList stem, ?_, ?_⟩
    · rw [ne_eq, ← String.toList_inj, String.toList_ofList]
      exact hstem
    · rw [← String.toList_inj, String.toList_append, String.toList_ofList, hname]
      rfl
  · rintro ⟨stem, hstem, rfl⟩
    have hname : (stem ++ ".sarif").toList = stem.toList ++ '.' :: "sarif".toList := String.toList_append
    refine ⟨by decide, ?_, stem.toList, mt String.toList_eq_nil_iff.1 hstem, hname⟩
    intro hup
    have hlength := congrArg List.length (hname.symm.trans hup)
    rw [List.length_append] at hlength
    revert hlength
    simp

theorem Location.isSarif_iff (l : Location) :
    l.isSarif = true ↔ ∃ dirs stem, stem ≠ "" ∧ l = dirs ++ [stem ++ ".sarif"] := by
  rw [isSarif]
  rcases List.eq_nil_or_concat' l with rfl | ⟨dirs, name, rfl⟩
  · simp
  · rw [List.getLast?_concat]
    constructor
    · intro h
      obtain ⟨stem, hstem, rfl⟩ := (Path.extension?_eq_sarif_iff name).1 (of_decide_eq_true h)
      exact ⟨dirs, stem, hstem, rfl⟩
    · rintro ⟨dirs', stem, hstem, heq⟩
      obtain ⟨-, hname⟩ := List.append_inj' heq rfl
      exact decide_eq_true ((Path.extension?_eq_sarif_iff name).2 ⟨stem, hstem, (List.cons.inj hname).1⟩)

namespace Node

/-- A regular file stands at the location, and its name ends in `.sarif` and is longer than that. -/
def HasScan (n : Node) (l : Location) : Prop :=
  ∃ bytes dirs stem, stem ≠ "" ∧ l = dirs ++ [stem ++ ".sarif"] ∧ n.look l = some (.file bytes)

theorem hasScan_iff {n : Node} (h : n.WellFormed) (l : Location) :
    n.HasScan l ↔ l ∈ n.regularFiles ∧ l.isSarif = true := by
  rw [mem_regularFiles_iff h, Location.isSarif_iff]
  constructor
  · rintro ⟨bytes, dirs, stem, hstem, hl, hfile⟩
    exact ⟨⟨bytes, hfile⟩, dirs, stem, hstem, hl⟩
  · rintro ⟨⟨bytes, hfile⟩, dirs, stem, hstem, hl⟩
    exact ⟨bytes, dirs, stem, hstem, hl, hfile⟩

theorem HasScan.ne_nil {n : Node} {l : Location} (h : n.HasScan l) : l ≠ [] := by
  obtain ⟨bytes, dirs, stem, -, rfl, -⟩ := h
  simp

theorem HasScan.entryName {n : Node} (hn : n.WellFormed) {l : Location} (h : n.HasScan l) :
    ∀ name ∈ l, EntryName name := by
  obtain ⟨bytes, dirs, stem, -, -, hfile⟩ := h
  exact hn.entryName hfile

/-- Where the scan files stand, in increasing order. -/
def scans (n : Node) : List Location := (Location.sorted n.regularFiles).filter Location.isSarif

theorem mem_scans_iff {n : Node} (h : n.WellFormed) (l : Location) : l ∈ n.scans ↔ n.HasScan l := by
  rw [scans, List.mem_filter, (Location.sorted_perm _).mem_iff, hasScan_iff h]

theorem pairwise_lt_scans {n : Node} (h : n.WellFormed) : n.scans.Pairwise (· < ·) :=
  (Location.pairwise_lt_sorted (nodup_regularFiles h)).filter _

theorem Relisted.scans_eq {n n' : Node} (h : Relisted n n') : n'.scans = n.scans := by
  rw [scans, scans, Location.sorted_eq_of_perm h.perm]

end Node

/-! ## What a search finds -/

/-- Paths below one directory are ordered as the locations are. -/
theorem Path.components_under_lt {p : String} (hp : p ≠ "") {l l' : Location} (hne : l ≠ []) (hne' : l' ≠ [])
    (hl : ∀ name ∈ l, EntryName name) (hl' : ∀ name ∈ l', EntryName name) (h : l < l') :
    components (Location.under p l) < components (Location.under p l') := by
  rw [components_under hp hne hl, components_under hp hne' hl']
  exact List.append_left_lt h

namespace Disk

section Search
variable {d : Disk} {p : String} {es : List (String × Node)}

theorem search_eq (hp : d.node? p = some (.dir es)) (hinput : Path.isStandardInput p = false) :
    d.search p = (Node.dir es).scans.map (Location.under p) := by
  rw [search, filesUnder, hinput, if_neg Bool.false_ne_true, hp]
  rfl

/-- The path `-` stands for the standard input. -/
theorem search_of_isStandardInput (hinput : Path.isStandardInput p = true) : d.search p = [] := by
  rw [search, filesUnder, if_pos hinput]
  rfl

theorem ne_empty_of_node? {n : Node} (h : d.node? p = some n) : p ≠ "" := by
  obtain ⟨loc, hpoints, -⟩ := (node?_eq_some_iff d p n).1 h
  simpa using hpoints.readable.notEmpty

theorem pairwise_components_search (hp : d.node? p = some (.dir es)) (hes : (Node.dir es).WellFormed)
    (hinput : Path.isStandardInput p = false) :
    (d.search p).Pairwise fun q q' => Path.components q < Path.components q' := by
  rw [search_eq hp hinput, List.pairwise_map]
  refine (Node.pairwise_lt_scans hes).imp_of_mem ?_
  intro l l' hl hl' hlt
  have hscan := (Node.mem_scans_iff hes l).1 hl
  have hscan' := (Node.mem_scans_iff hes l').1 hl'
  exact Path.components_under_lt (ne_empty_of_node? hp) hscan.ne_nil hscan'.ne_nil (hscan.entryName hes)
    (hscan'.entryName hes) hlt

/-- The order is not that of the texts. -/
example : Path.components "sub/z.sarif" < Path.components "sub-x/a.sarif" ∧ "sub-x/a.sarif" < "sub/z.sarif" := by decide

/-- The lesser of two locations is found first. -/
theorem sublist_search (hp : d.node? p = some (.dir es)) (hes : (Node.dir es).WellFormed)
    (hinput : Path.isStandardInput p = false) {l l' : Location} (hl : (Node.dir es).HasScan l)
    (hl' : (Node.dir es).HasScan l') (h : l < l') :
    [Location.under p l, Location.under p l'].Sublist (d.search p) := by
  have hpair : [l, l'].Pairwise (· < ·) := List.pairwise_pair.2 h
  have hne : l ≠ l' := by
    rintro rfl
    exact List.lt_irrefl l h
  have hsubset : [l, l'] ⊆ (Node.dir es).scans := by
    intro x hx
    rw [Node.mem_scans_iff hes]
    rcases List.mem_pair.1 hx with rfl | rfl
    · exact hl
    · exact hl'
  have hsubperm := List.subperm_of_subset (List.nodup_cons.2 ⟨by simpa using hne, List.nodup_singleton l'⟩) hsubset
  rw [search_eq hp hinput]
  exact (List.sublist_of_subperm_of_pairwise hsubperm hpair (Node.pairwise_lt_scans hes)).map (Location.under p)

end Search

/-- **A search finds the scan files below a directory and nothing else**: the regular files at any depth whose name ends
in `.sarif` and is longer than that, but not what only a link leads to. Each is found once, and they come in the order of
their paths component by component, so that all that is below one directory comes before all that is below a directory
of a greater name. The order in which directories list their entries makes no difference. (The path `-` stands for the
standard input, below which nothing is visited.) -/
theorem search_finds_scan_files {d : Disk} {p : String} {es : List (String × Node)} (hp : d.node? p = some (.dir es))
    (hes : (Node.dir es).WellFormed) (hinput : Path.isStandardInput p = false) :
    (∀ q, q ∈ d.search p ↔ ∃ l, (Node.dir es).HasScan l ∧ q = Location.under p l) ∧
    (d.search p).Nodup ∧
    (d.search p).Pairwise (fun q q' => Path.components q < Path.components q') ∧
    (∀ (dirs below below' : Location) (name name' : String), name < name' →
      (Node.dir es).HasScan (dirs ++ name :: below) → (Node.dir es).HasScan (dirs ++ name' :: below') →
      [Location.under p (dirs ++ name :: below), Location.under p (dirs ++ name' :: below')].Sublist (d.search p)) ∧
    (∀ (d' : Disk) (es' : List (String × Node)), d'.node? p = some (.dir es') → Node.Relisted (.dir es) (.dir es') →
      d'.search p = d.search p) := by
  have hordered := pairwise_components_search hp hes hinput
  refine ⟨?_, ?_, hordered, ?_, ?_⟩
  · intro q
    rw [search_eq hp hinput, List.mem_map]
    simp only [Node.mem_scans_iff hes, eq_comm]
  · refine hordered.imp ?_
    rintro q _ hlt rfl
    exact List.lt_irrefl _ hlt
  · intro dirs below below' name name' hlt hscan hscan'
    exact sublist_search hp hes hinput hscan hscan' (List.append_left_lt (List.Lex.rel hlt))
  · intro d' es' hp' hrelisted
    rw [search_eq hp' hinput, search_eq hp hinput, hrelisted.scans_eq]

/-- Scans in two directories and in a hidden one, and what is no scan beside them. -/
def walkedTree : List (String × Node) :=
  [("sub-x", .dir [("a.sarif", .file "".toUTF8)]), (".sarif", .file "".toUTF8), ("link.sarif", .link "sub"),
    ("sub", .dir [("z.sarif", .file "".toUTF8), ("Z.SARIF", .file "".toUTF8),
      (".hidden", .dir [("d.sarif", .file "".toUTF8)])])]

/-- The same, listed in another order. -/
def relistedTree : List (String × Node) :=
  [(".sarif", .file "".toUTF8), ("sub-x", .dir [("a.sarif", .file "".toUTF8)]), ("link.sarif", .link "sub"),
    ("sub", .dir [("z.sarif", .file "".toUTF8), ("Z.SARIF", .file "".toUTF8),
      (".hidden", .dir [("d.sarif", .file "".toUTF8)])])]

theorem wellFormed_walkedTree : (Node.dir walkedTree).WellFormed := by
  have hsubX : (Node.dir [("a.sarif", .file "".toUTF8)]).WellFormed :=
    .dir (by decide) (by decide) (List.forall_mem_singleton.2 (.file _))
  have hhidden : (Node.dir [("d.sarif", .file "".toUTF8)]).WellFormed :=
    .dir (by decide) (by decide) (List.forall_mem_singleton.2 (.file _))
  have hsub : (Node.dir [("z.sarif", .file "".toUTF8), ("Z.SARIF", .file "".toUTF8),
      (".hidden", .dir [("d.sarif", .file "".toUTF8)])]).WellFormed := by
    refine .dir (by decide) (by decide) ?_
    simp only [List.forall_mem_cons]
    exact ⟨.file _, .file _, hhidden, nofun⟩
  refine .dir (by decide) (by decide) ?_
  unfold walkedTree
  simp only [List.forall_mem_cons]
  exact ⟨hsubX, .file _, .link _, hsub, nofun⟩

/-- A disk with these entries in the directory `/w`. -/
def ofTree (es : List (String × Node)) : Disk := ⟨.dir [("w", .dir es)], []⟩

theorem node?_ofTree (es : List (String × Node)) : (ofTree es).node? "/w" = some (.dir es) := by
  have hplain : Plain "/w" := by decide
  have hnames : names "/w" = ["w"] := by decide
  refine node?_of_plain hplain ?_ (by simp)
  rw [hnames]
  rfl

theorem search_finds_scan_files_walkedTree :
    ((ofTree walkedTree).node? "/w" = some (.dir walkedTree) ∧ (Node.dir walkedTree).WellFormed ∧
      Path.isStandardInput "/w" = false) ∧
    ["/w/sub/z.sarif", "/w/sub-x/a.sarif"].Sublist ((ofTree walkedTree).search "/w") ∧
    (ofTree relistedTree).search "/w" = (ofTree walkedTree).search "/w" := by
  have hp := node?_ofTree walkedTree
  have hinput : Path.isStandardInput "/w" = false := by decide
  obtain ⟨-, -, -, hfirst, hrelisted⟩ := search_finds_scan_files hp wellFormed_walkedTree hinput
  refine ⟨⟨hp, wellFormed_walkedTree, hinput⟩, ?_,
    hrelisted _ relistedTree (node?_ofTree relistedTree) (.dir (.swap _ _ _))⟩
  have hz : (Node.dir walkedTree).HasScan ["sub", "z.sarif"] := ⟨_, ["sub"], "z", by decide, rfl, rfl⟩
  have ha : (Node.dir walkedTree).HasScan ["sub-x", "a.sarif"] := ⟨_, ["sub-x"], "a", by decide, rfl, rfl⟩
  exact hfirst [] ["z.sarif"] ["a.sarif"] "sub" "sub-x" (by decide) hz ha

end Disk

end ScanDelta

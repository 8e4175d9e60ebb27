import Mathlib.Data.List.Forall2
import ScanDelta.Proofs.Files.Search
import ScanDelta.Proofs.Sarif.Merging

/-!
# Loading a directory

* `HoldsJson d q j`, `Defect d q e` : a file that can be used, and one that cannot, with what is wrong with it;
* `loadFiles_eq_ok_iff`, `loadFiles_eq_error_iff` : files are loaded if all of them can be used, and else the first that
  cannot says why they are not;
* `PutTogether first rest doc` : the document that is made of several (`putTogether_iff`);
* `readText_of_mem_search` : the files that a search finds are there to be read;
* `load_directory` : what a directory is loaded as, and why it is not loaded.
-/

set_option autoImplicit false

namespace ScanDelta.Sarif

/-! ## Files that can be used -/

/-- The file is a text that is JSON. -/
def HoldsJson (d : Disk) (q : String) (j : Json) : Prop := ∃ text, d.readText q = .ok text ∧ Json.parse text = .ok j

/-- What is wrong with a file: it cannot be read as a text, or the text is no JSON. -/
inductive Defect (d : Disk) (q : String) : Failure → Prop
  | unreadable {cause : FileError} (h : d.readText q = .error cause) : Defect d q (.file cause)
  | notJson {text : String} {cause : Json.ParseError} (htext : d.readText q = .ok text)
    (hparse : Json.parse text = .error cause) : Defect d q (.notJson q cause)

section Files
variable {d : Disk}

theorem loadFile_eq_ok_iff (q : String) (j : Json) : result (loadFile d q) = .ok j ↔ HoldsJson d q j := by
  rw [result_loadFile, HoldsJson]
  cases d.readText q with
  | error e => cases e <;> simp
  | ok text => cases hparse : Json.parse text <;> simp [hparse]

/-- A file that is there is not loaded for what is wrong with it. -/
theorem loadFile_eq_error_iff {q : String} (hthere : d.readText q ≠ .error .noEntry) (e : Failure) :
    result (loadFile d q) = .error e ↔ Defect d q e := by
  rw [result_loadFile]
  constructor
  · intro h
    split at h
    · rename_i hread
      exact absurd hread hthere
    · rename_i cause hread
      cases h
      exact .unreadable hread
    · rename_i text hread
      split at h
      · cases h
      · rename_i cause hparse
        cases h
        exact .notJson hread hparse
  · intro h
    cases h with
    | @unreadable cause hread =>
      rw [hread] at hthere ⊢
      cases cause with
      | noEntry => exact absurd rfl hthere
      | _ => rfl
    | notJson htext hparse =>
      rw [htext]
      dsimp only
      rw [hparse]

theorem exists_forall₂_holdsJson_iff {qs : List String} :
    (∃ js, List.Forall₂ (HoldsJson d) qs js) ↔ ∀ q ∈ qs, ∃ j, HoldsJson d q j := by
  induction qs with
  | nil => exact ⟨fun _ => nofun, fun _ => ⟨[], .nil⟩⟩
  | cons q qs ih =>
    rw [List.forall_mem_cons, ← ih]
    constructor
    · rintro ⟨js, hjs⟩
      cases hjs with
      | cons hj hjs => exact ⟨⟨_, hj⟩, _, hjs⟩
    · rintro ⟨⟨j, hj⟩, js, hjs⟩
      exact ⟨j :: js, .cons hj hjs⟩

/-- Files are loaded if each of them can be used. -/
theorem loadFiles_eq_ok_iff (qs : List String) (js : List Json) :
    result (loadFiles d qs) = .ok js ↔ List.Forall₂ (HoldsJson d) qs js := by
  induction qs generalizing js with
  | nil =>
    rw [List.forall₂_nil_left_iff]
    exact ⟨fun h => (Except.ok.inj h).symm, fun h => congrArg Except.ok h.symm⟩
  | cons q qs ih =>
    rw [loadFiles, result_bind, bind_eq_ok_iff]
    simp only [loadFile_eq_ok_iff, result_bind, bind_eq_ok_iff, ih, result_pure]
    constructor
    · rintro ⟨j, hj, js', hjs, hall⟩
      cases hall
      exact .cons hj hjs
    · rintro (_ | ⟨hj, hjs⟩)
      exact ⟨_, hj, _, hjs, rfl⟩

/-- Files are not loaded if one of them cannot be used. The first of these says why, whatever comes after it. -/
theorem loadFiles_eq_error_iff {qs : List String} (hthere : ∀ q ∈ qs, d.readText q ≠ .error .noEntry) (e : Failure) :
    result (loadFiles d qs) = .error e ↔
      ∃ before bad after, qs = before ++ bad :: after ∧ (∀ q ∈ before, ∃ j, HoldsJson d q j) ∧ Defect d bad e := by
  induction qs with
  | nil =>
    constructor
    · intro h
      cases h
    · rintro ⟨before, bad, after, hqs, -, -⟩
      exact absurd hqs (by simp)
  | cons q qs ih =>
    have hq := hthere q List.mem_cons_self
    have ih := ih fun q' hq' => hthere q' (List.mem_cons_of_mem _ hq')
    rw [loadFiles, result_bind, bind_eq_error_iff]
    simp only [loadFile_eq_error_iff hq, loadFile_eq_ok_iff, result_bind, bind_eq_error_iff, ih, result_pure]
    constructor
    · rintro (hdefect | ⟨j, hj, ⟨before, bad, after, rfl, hbefore, hdefect⟩ | ⟨js, -, hpure⟩⟩)
      · exact ⟨[], q, qs, rfl, List.forall_mem_nil _, hdefect⟩
      · exact ⟨q :: before, bad, after, rfl, List.forall_mem_cons.2 ⟨⟨j, hj⟩, hbefore⟩, hdefect⟩
      · cases hpure
    · rintro ⟨before, bad, after, hqs, hbefore, hdefect⟩
      cases before with
      | nil =>
        obtain ⟨rfl, -⟩ := List.cons.inj hqs
        exact .inl hdefect
      | cons first before =>
        obtain ⟨rfl, rfl⟩ := List.cons.inj hqs
        obtain ⟨⟨j, hj⟩, hbefore⟩ := List.forall_mem_cons.1 hbefore
        exact .inr ⟨j, hj, .inl ⟨before, bad, after, rfl, hbefore, hdefect⟩⟩

end Files

/-! ## Documents put together -/

/-- The version of the first document, or a default where that is missing or null. -/
inductive VersionTaken (first : Json) : Json → Prop
  | own {version : Json} (h : first.get? "version" = some version) (hnull : version ≠ .null) : VersionTaken first version
  | missing (h : first.get? "version" = none) : VersionTaken first (.str "2.1.0")
  | null (h : first.get? "version" = some .null) : VersionTaken first (.str "2.1.0")

/-- The schema of the first document, or null where that is missing. -/
inductive SchemaTaken (first : Json) : Json → Prop
  | own {schema : Json} (h : first.get? "$schema" = some schema) : SchemaTaken first schema
  | missing (h : first.get? "$schema" = none) : SchemaTaken first .null

/-- The document with the runs of all documents in order, and version and schema of the first. -/
def PutTogether (first : Json) (rest : List Json) (doc : Json) : Prop :=
  ∃ version schema, VersionTaken first version ∧ SchemaTaken first schema ∧
    doc = .obj [("$schema", schema), ("runs", .arr ((first :: rest).flatMap runs)), ("version", version)]

theorem versionTaken_iff (first : Json) (rest : List Json) (version : Json) :
    VersionTaken first version ↔ version = versionOf (first :: rest) := by
  have htaken : versionOf (first :: rest) =
      ((first.get? "version").filter fun v => !v.isNull).getD (.str "2.1.0") := rfl
  rw [htaken]
  constructor
  · rintro (⟨h, hnull⟩ | h | h)
    · rw [h]
      cases version with
      | null => exact absurd rfl hnull
      | _ => rfl
    · rw [h]
      rfl
    · rw [h]
      rfl
  · rintro rfl
    cases h : first.get? "version" with
    | none => exact .missing h
    | some version =>
      cases version with
      | null => exact .null h
      | _ => exact .own h nofun

theorem schemaTaken_iff (first : Json) (rest : List Json) (schema : Json) :
    SchemaTaken first schema ↔ schema = schemaOf (first :: rest) := by
  have htaken : schemaOf (first :: rest) = (first.get? "$schema").getD .null := rfl
  rw [htaken]
  constructor
  · rintro (h | h) <;> rw [h] <;> rfl
  · rintro rfl
    cases h : first.get? "$schema" with
    | none => exact .missing h
    | some schema => exact .own h

theorem putTogether_iff (first : Json) (rest : List Json) (doc : Json) :
    PutTogether first rest doc ↔ doc = merge (first :: rest) := by
  rw [merge_eq, PutTogether]
  simp only [versionTaken_iff first rest, schemaTaken_iff first rest]
  constructor
  · rintro ⟨version, schema, rfl, rfl, rfl⟩
    rfl
  · rintro rfl
    exact ⟨_, _, rfl, rfl, rfl⟩

/-! ## Directories -/

section Directory
variable {d : Disk} {p : String} {es : List (String × Node)}

/-- A file that a search finds stands in the tree, and is read as what it contains. -/
theorem readText_of_mem_search (hp : d.node? p = some (.dir es)) (hes : (Node.dir es).WellFormed) {q : String}
    (hq : q ∈ d.search p) : ∃ l bytes, (Node.dir es).look l = some (.file bytes) ∧ q = Location.under p l ∧
      d.readText q = Disk.textFrom q bytes := by
  have hinput : Path.isStandardInput p = false := by
    rw [← Bool.not_eq_true]
    intro hinput
    rw [Disk.search_of_isStandardInput hinput] at hq
    cases hq
  rw [Disk.search_eq hp hinput] at hq
  obtain ⟨l, hl, rfl⟩ := List.mem_map.1 hq
  have hscan := (Node.mem_scans_iff hes l).1 hl
  have hnames := hscan.entryName hes
  have hne := hscan.ne_nil
  obtain ⟨bytes, -, -, -, -, hfile⟩ := hscan
  exact ⟨l, bytes, hfile, rfl, Disk.readText_under hp hne hnames hfile⟩

theorem ne_noEntry_of_mem_search (hp : d.node? p = some (.dir es)) (hes : (Node.dir es).WellFormed) :
    ∀ q ∈ d.search p, d.readText q ≠ .error .noEntry := by
  intro q hq
  obtain ⟨l, bytes, -, -, htext⟩ := readText_of_mem_search hp hes hq
  rw [htext]
  exact Disk.textFrom_ne_noEntry q bytes

theorem load_eq_ok_iff (hdir : d.isDir p = true) (doc : Json) : result (load d p) = .ok doc ↔
    ∃ first rest, List.Forall₂ (HoldsJson d) (d.search p) (first :: rest) ∧ PutTogether first rest doc := by
  simp only [← loadFiles_eq_ok_iff, putTogether_iff]
  rw [result_load_of_isDir hdir]
  by_cases hnone : d.search p = []
  · rw [if_pos hnone, hnone]
    refine ⟨nofun, ?_⟩
    rintro ⟨first, rest, hfiles, -⟩
    cases hfiles
  · rw [if_neg hnone, map_eq_ok_iff]
    constructor
    · rintro ⟨js, hjs, rfl⟩
      cases js with
      | nil => exact absurd (List.forall₂_nil_right_iff.1 ((loadFiles_eq_ok_iff _ _).1 hjs)) hnone
      | cons first rest => exact ⟨first, rest, hjs, rfl⟩
    · rintro ⟨first, rest, hjs, rfl⟩
      exact ⟨first :: rest, hjs, rfl⟩

theorem load_eq_error_iff (hdir : d.isDir p = true) (hthere : ∀ q ∈ d.search p, d.readText q ≠ .error .noEntry)
    (e : Failure) : result (load d p) = .error e ↔
      (d.search p = [] ∧ e = .notFound ("No SARIF files found under directory: " ++ p)) ∨
      ∃ before bad after, d.search p = before ++ bad :: after ∧ (∀ q ∈ before, ∃ j, HoldsJson d q j) ∧
        Defect d bad e := by
  rw [← loadFiles_eq_error_iff hthere, result_load_of_isDir hdir]
  by_cases hnone : d.search p = []
  · rw [if_pos hnone, hnone]
    constructor
    · intro h
      cases h
      exact .inl ⟨rfl, rfl⟩
    · rintro (⟨-, rfl⟩ | h)
      · rfl
      · cases h
  · rw [if_neg hnone, map_eq_error_iff]
    exact ⟨.inr, fun h => h.resolve_left fun hempty => hnone hempty.1⟩

/-- **A directory is loaded if it has scan files and all of them can be used**: as the document put together of theirs,
in the order in which they are found. With no scan file it is not found, and else the first one that cannot be used says
why it is not loaded, whatever comes after it. -/
theorem load_directory (hp : d.node? p = some (.dir es)) (hes : (Node.dir es).WellFormed) :
    ((∃ doc, result (load d p) = .ok doc) ↔ d.search p ≠ [] ∧ ∀ q ∈ d.search p, ∃ j, HoldsJson d q j) ∧
    (∀ doc, result (load d p) = .ok doc ↔
      ∃ first rest, List.Forall₂ (HoldsJson d) (d.search p) (first :: rest) ∧ PutTogether first rest doc) ∧
    (∀ e, result (load d p) = .error e ↔
      (d.search p = [] ∧ e = .notFound ("No SARIF files found under directory: " ++ p)) ∨
      ∃ before bad after, d.search p = before ++ bad :: after ∧ (∀ q ∈ before, ∃ j, HoldsJson d q j) ∧
        Defect d bad e) ∧
    (∀ q ∈ d.search p, ∃ l bytes, (Node.dir es).look l = some (.file bytes) ∧ q = Location.under p l ∧
      d.readText q = Disk.textFrom q bytes) := by
  have hdir : d.isDir p = true := by rw [Disk.isDir, hp]
  refine ⟨?_, load_eq_ok_iff hdir, load_eq_error_iff hdir (ne_noEntry_of_mem_search hp hes),
    fun q hq => readText_of_mem_search hp hes hq⟩
  constructor
  · rintro ⟨doc, h⟩
    obtain ⟨first, rest, hfiles, -⟩ := (load_eq_ok_iff hdir doc).1 h
    refine ⟨?_, exists_forall₂_holdsJson_iff.1 ⟨_, hfiles⟩⟩
    intro hnone
    rw [hnone] at hfiles
    cases hfiles
  · rintro ⟨hsome, hall⟩
    obtain ⟨js, hjs⟩ := exists_forall₂_holdsJson_iff.2 hall
    cases js with
    | nil => exact absurd (List.forall₂_nil_right_iff.1 hjs) hsome
    | cons first rest =>
      exact ⟨merge (first :: rest), (load_eq_ok_iff hdir _).2 ⟨first, rest, hjs, (putTogether_iff _ _ _).2 rfl⟩⟩

end Directory

/-- A document, a file that is no text, and a text that is no JSON. -/
def mixedTree : List (String × Node) :=
  [("a.sarif", .file "\x7b\x7d".toUTF8), ("b.sarif", .file ⟨#[255]⟩), ("c.sarif", .file "\x7b".toUTF8)]

theorem wellFormed_mixedTree : (Node.dir mixedTree).WellFormed := by
  refine .dir (by decide) (by decide) ?_
  unfold mixedTree
  simp only [List.forall_mem_cons]
  exact ⟨.file _, .file _, .file _, nofun⟩

theorem search_mixedTree :
    (Disk.ofTree mixedTree).search "/w" = ["/w/a.sarif", "/w/b.sarif", "/w/c.sarif"] := by
  have hinput : Path.isStandardInput "/w" = false := by decide
  have hsorted : Location.sorted (Node.dir mixedTree).regularFiles = [["a.sarif"], ["b.sarif"], ["c.sarif"]] :=
    List.mergeSort_of_pairwise (by decide)
  rw [Disk.search_eq (Disk.node?_ofTree mixedTree) hinput, Node.scans, hsorted]
  decide

/-- The first of two files that cannot be used is told of. -/
theorem load_directory_mixedTree :
    ((Disk.ofTree mixedTree).node? "/w" = some (.dir mixedTree) ∧ (Node.dir mixedTree).WellFormed) ∧
      result (load (Disk.ofTree mixedTree) "/w") = .error (.file .notText) := by
  have hp := Disk.node?_ofTree mixedTree
  have ha := Disk.readText_under hp (List.cons_ne_nil "a.sarif" []) (by decide) rfl
  have hb := Disk.readText_under hp (List.cons_ne_nil "b.sarif" []) (by decide) rfl
  obtain ⟨-, -, herror, -⟩ := load_directory hp wellFormed_mixedTree
  refine ⟨⟨hp, wellFormed_mixedTree⟩,
    (herror _).2 (.inr ⟨["/w/a.sarif"], "/w/b.sarif", ["/w/c.sarif"], search_mixedTree, ?_, ?_⟩)⟩
  · exact List.forall_mem_singleton.2 ⟨.obj [], "\x7b\x7d", ha, rfl⟩
  · exact .unreadable hb

end ScanDelta.Sarif

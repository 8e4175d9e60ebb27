import ScanDelta.Proofs.Files.Resolution
import ScanDelta.Proofs.Run
import ScanDelta.Proofs.Sarif.Document
import ScanDelta.Proofs.Sarif.Records

/-!
# Documents put together

* `Baseline.ofRuns_append`, `Baseline.ofRuns_flatMap` : runs are classified one after another, each by itself;
* `Sarif.versionOf`, `Sarif.schemaOf`, `Sarif.merge_eq` : the three members of documents put together;
* `Sarif.collect_merge` : putting documents together and classifying them can be done in either order;
* `Sarif.merge_merge` : documents can be put together in steps;
* `Sarif.merge_then_collect` : both, and what follows for a directory with one scan file.
-/

set_option autoImplicit false

namespace ScanDelta

namespace Baseline

/-! ## Runs one after another -/

theorem ofRuns_append (xs ys : List Json) :
    ofRuns (xs ++ ys) = do
      let a ← ofRuns xs
      let b ← ofRuns ys
      return a.append b := by
  rw [ofRuns_eq, ofRuns_eq, ofRuns_eq, List.flatMap_append, gather_append]

/-- Each document contributes what it contributes alone. -/
theorem ofRuns_flatMap (ds : List Json) :
    ofRuns (ds.flatMap Sarif.runs) =
      ⟨ds.flatMap fun d => (collect d).events,
        ⟨ds.flatMap fun d => (collect d).value.new, ds.flatMap fun d => (collect d).value.absent⟩⟩ := by
  induction ds with
  | nil => rfl
  | cons d ds ih =>
    rw [List.flatMap_cons, ofRuns_append, ih]
    have hevents : (collect d).events ++ (ds.flatMap (fun d => (collect d).events) ++ []) =
        (d :: ds).flatMap fun d => (collect d).events := by
      rw [List.append_nil, List.flatMap_cons]
    rw [← hevents]
    rfl

end Baseline

namespace Sarif

/-! ## The members of documents put together -/

/-- The version of the first document, if it has one that is not null. -/
def versionOf (ds : List Json) : Json := (ds.head?.bind (·.member? "version")).getD (.str defaultVersion)

/-- The schema of the first document, if it has one. -/
def schemaOf (ds : List Json) : Json := (ds.head?.bind (·.get? "$schema")).getD .null

theorem merge_eq (ds : List Json) :
    merge ds = .obj [("$schema", schemaOf ds), ("runs", .arr (ds.flatMap runs)), ("version", versionOf ds)] := by
  have hschema : "$schema" < "version" := by decide
  have hlow : ¬ "runs" < "$schema" := by decide
  have hhigh : "runs" < "version" := by decide
  show Json.ofMembers [("version", versionOf ds), ("$schema", schemaOf ds), ("runs", .arr (ds.flatMap runs))] = _
  simp [Json.ofMembers, Json.put, hschema, hlow, hhigh]

theorem runs_merge (ds : List Json) : runs (merge ds) = ds.flatMap runs := by
  rw [merge_eq]
  rfl

/-- There is always a version: one that is null counts as missing. -/
theorem versionOf_ne_null (ds : List Json) : (versionOf ds).isNull = false := by
  rw [versionOf]
  cases h : ds.head?.bind (·.member? "version") with
  | none => rfl
  | some v =>
    obtain ⟨d, -, hd⟩ := Option.bind_eq_some_iff.1 h
    have hv := (Option.filter_eq_some_iff.1 hd).2
    simpa using hv

theorem member?_version_merge (ds : List Json) : (merge ds).member? "version" = some (versionOf ds) := by
  rw [merge_eq]
  show Option.filter _ (some (versionOf ds)) = _
  rw [Option.filter_some, versionOf_ne_null]
  rfl

theorem get?_schema_merge (ds : List Json) : (merge ds).get? "$schema" = some (schemaOf ds) := by
  rw [merge_eq]
  rfl

/-! ## Both orders -/

/-- What is collected from documents put together is what is collected from each of them, in order. -/
theorem collect_merge (ds : List Json) :
    Baseline.collect (merge ds) =
      ⟨ds.flatMap fun d => (Baseline.collect d).events,
        ⟨ds.flatMap fun d => (Baseline.collect d).value.new,
          ds.flatMap fun d => (Baseline.collect d).value.absent⟩⟩ := by
  rw [Baseline.collect, runs_merge, Baseline.ofRuns_flatMap]

theorem collect_merge_singleton (d : Json) : Baseline.collect (merge [d]) = Baseline.collect d := by
  rw [collect_merge]
  simp only [List.flatMap_cons, List.flatMap_nil, List.append_nil]

/-- Documents that have been put together can be put together with more of them. -/
theorem merge_merge (d : Json) (ds es : List Json) : merge (merge (d :: ds) :: es) = merge (d :: ds ++ es) := by
  have hversion : versionOf (merge (d :: ds) :: es) = versionOf (d :: ds ++ es) := by
    show ((merge (d :: ds)).member? "version").getD _ = _
    rw [member?_version_merge]
    rfl
  have hschema : schemaOf (merge (d :: ds) :: es) = schemaOf (d :: ds ++ es) := by
    show ((merge (d :: ds)).get? "$schema").getD _ = _
    rw [get?_schema_merge]
    rfl
  have hruns : (merge (d :: ds) :: es).flatMap runs = (d :: ds ++ es).flatMap runs := by
    rw [List.flatMap_cons, runs_merge, List.flatMap_append]
  rw [merge_eq (merge (d :: ds) :: es), merge_eq (d :: ds ++ es), hversion, hschema, hruns]

/-! ## Directories -/

/-- A directory with one scan file is loaded like the file, but for the way in which documents are put together. -/
theorem result_load_of_search {d : Disk} {p q : String} (hp : d.isDir p = true) (hq : d.search p = [q]) :
    result (load d p) = (fun j => merge [j]) <$> result (loadFile d q) := by
  rw [result_load_of_isDir hp, hq, if_neg (by simp), loadFiles, result_bind]
  cases result (loadFile d q) <;> rfl

/-- **Putting documents together and classifying them commute**: what is found in documents put together, and what the
log tells of them, is what each of them gives alone, one after another. So a directory with one scan file gives what the
file gives. Documents can be put together in steps. -/
theorem merge_then_collect :
    (∀ ds : List Json, Baseline.collect (merge ds) =
      ⟨ds.flatMap fun d => (Baseline.collect d).events,
        ⟨ds.flatMap fun d => (Baseline.collect d).value.new,
          ds.flatMap fun d => (Baseline.collect d).value.absent⟩⟩) ∧
    (∀ (d : Disk) (p q : String), d.isDir p = true → d.search p = [q] → d.isDir q = false →
      Baseline.collect <$> result (load d p) = Baseline.collect <$> result (load d q)) ∧
    (∀ (d : Json) (ds es : List Json), merge (merge (d :: ds) :: es) = merge (d :: ds ++ es)) := by
  refine ⟨collect_merge, ?_, merge_merge⟩
  intro d p q hp hq hfile
  have hload : load d q = loadFile d q := by
    rw [load, if_neg (by simp [hfile])]
  rw [result_load_of_search hp hq, hload]
  cases result (loadFile d q) with
  | error e => rfl
  | ok j => exact congrArg Except.ok (collect_merge_singleton j)

/-- A directory with a scan and a note beside it. -/
def oneScan : Disk :=
  ⟨.dir [("scans", .dir [("a.sarif", .file "\x7b\x7d".toUTF8), ("notes.txt", .file "".toUTF8)])], []⟩

theorem node?_oneScan : oneScan.node? "/scans" =
    some (.dir [("a.sarif", .file "\x7b\x7d".toUTF8), ("notes.txt", .file "".toUTF8)]) := by
  have hnames : Disk.names "/scans" = ["scans"] := by decide
  have hplain : Disk.Plain "/scans" := by decide
  refine Disk.node?_of_plain hplain ?_ (by simp)
  rw [hnames]
  rfl

theorem node?_oneScan_file : oneScan.node? "/scans/a.sarif" = some (.file "\x7b\x7d".toUTF8) := by
  have hnames : Disk.names "/scans/a.sarif" = ["scans", "a.sarif"] := by decide
  have hplain : Disk.Plain "/scans/a.sarif" := by decide
  refine Disk.node?_of_plain hplain ?_ (by simp)
  rw [hnames]
  rfl

theorem search_oneScan : oneScan.search "/scans" = ["/scans/a.sarif"] := by
  have hinput : Path.isStandardInput "/scans" = false := by decide
  have hfiles : oneScan.filesUnder "/scans" = [["a.sarif"], ["notes.txt"]] := by
    rw [Disk.filesUnder, node?_oneScan, hinput]
    show Location.sorted [["a.sarif"], ["notes.txt"]] = _
    exact List.mergeSort_of_pairwise (by decide)
  rw [Disk.search, hfiles]
  decide

theorem merge_then_collect_oneScan :
    oneScan.search "/scans" = ["/scans/a.sarif"] ∧
      Baseline.collect <$> result (load oneScan "/scans") =
        Baseline.collect <$> result (load oneScan "/scans/a.sarif") := by
  have hdir : oneScan.isDir "/scans" = true := by rw [Disk.isDir, node?_oneScan]
  have hfile : oneScan.isDir "/scans/a.sarif" = false := by rw [Disk.isDir, node?_oneScan_file]
  exact ⟨search_oneScan, merge_then_collect.2.1 oneScan "/scans" "/scans/a.sarif" hdir search_oneScan hfile⟩

end Sarif

end ScanDelta

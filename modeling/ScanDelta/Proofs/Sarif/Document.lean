import ScanDelta.Proofs.Files.Resolution
import ScanDelta.Proofs.Run
import ScanDelta.Sarif.Document

/-!
# Loading scan documents

* `result_loadFile`, `result_load_of_isDir` : what a file and a directory are loaded as;
* `not_isRemote_of_load` : whatever keeps a scan from being loaded is no failure of the service;
* `load_of_fileAt` : a plain path to a file with a JSON text loads what the text says.
-/

set_option autoImplicit false

namespace ScanDelta.Sarif

theorem result_loadFile (d : Disk) (p : String) :
    result (loadFile d p) =
      match d.readText p with
      | .error .noEntry => .error (.notFound ("SARIF file not found: " ++ p))
      | .error e => .error (.file e)
      | .ok text =>
        match Json.parse text with
        | .ok j => .ok j
        | .error e => .error (.notJson p e) := by
  rw [loadFile]
  cases d.readText p with
  | error e => cases e <;> rfl
  | ok text =>
    dsimp only
    rw [result_bind, result_traced, ok_bind]
    cases Json.parse text <;> rfl

/-- The documents of a directory are put together, if there are any. -/
theorem result_load_of_isDir {d : Disk} {p : String} (h : d.isDir p = true) :
    result (load d p) =
      if d.search p = [] then .error (.notFound ("No SARIF files found under directory: " ++ p))
      else merge <$> result (loadFiles d (d.search p)) := by
  rw [load, if_pos h, result_bind, result_traced, ok_bind]
  dsimp only
  by_cases hnone : d.search p = []
  · rw [if_pos hnone, hnone]
    rfl
  · rw [if_neg hnone, if_neg (by simpa using hnone), result_bind, result_traced, ok_bind, result_bind]
    cases result (loadFiles d (d.search p)) <;> rfl

theorem not_isRemote_of_loadFile {d : Disk} {p : String} {e : Failure} (h : result (loadFile d p) = .error e) :
    e.isRemote = false := by
  rw [result_loadFile] at h
  split at h
  · cases h
    rfl
  · cases h
    rfl
  · split at h
    · cases h
    · cases h
      rfl

theorem not_isRemote_of_loadFiles {d : Disk} {ps : List String} {e : Failure}
    (h : result (loadFiles d ps) = .error e) : e.isRemote = false := by
  induction ps with
  | nil => cases h
  | cons p ps ih =>
    rw [loadFiles, result_bind, bind_eq_error_iff] at h
    rcases h with h | ⟨j, -, h⟩
    · exact not_isRemote_of_loadFile h
    · rw [result_bind, bind_eq_error_iff] at h
      rcases h with h | ⟨js, -, h⟩
      · exact ih h
      · cases h

/-- A scan that cannot be loaded is something local. -/
theorem not_isRemote_of_load {d : Disk} {p : String} {e : Failure} (h : result (load d p) = .error e) :
    e.isRemote = false := by
  by_cases hdir : d.isDir p = true
  · rw [result_load_of_isDir hdir] at h
    split at h
    · cases h
      rfl
    · exact not_isRemote_of_loadFiles ((map_eq_error_iff _ _ _).1 h)
  · rw [load, if_neg hdir] at h
    exact not_isRemote_of_loadFile h

theorem load_of_fileAt {d : Disk} {p text : String} {bytes : ByteArray} {j : Json} (hp : Disk.Plain p)
    (hfile : d.fileAt (Disk.names p) = some bytes) (htext : String.fromUTF8? bytes = some text)
    (hj : Json.parse text = .ok j) : result (load d p) = .ok j := by
  have hpath := Disk.resolveFor_of_fileAt .visit hp hfile
  have hdir : d.isDir p = false := by rw [Disk.isDir, Disk.node?, Disk.resolve, hpath]
  have hread : d.readText p = .ok text := by
    rw [Disk.readText, Disk.read, Disk.resolve, hpath]
    simp only [ok_bind, htext]
  rw [load, if_neg (by simp [hdir]), result_loadFile, hread]
  simp only [hj]

end ScanDelta.Sarif

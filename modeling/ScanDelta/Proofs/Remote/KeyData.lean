import Mathlib.Data.List.Forall2
import ScanDelta.Proofs.Remote.Comparison
import ScanDelta.Proofs.Sarif.Location

/-!
# What tells the findings of a listing apart

* `fingerprintPaths`, `rulePath`, `locationPaths` : where raw objects have their key data;
* `SameKeyData raw raw'` : the same fingerprint, or none and the same rule and locations;
* `fingerprintOf?_eq`, `physical?_congr`, `instanceLocation?_congr` : the readers of raw objects look there and nowhere else;
* `SameKeyData.identityOf_eq` : raw objects with the same key data are the same finding.
-/

set_option autoImplicit false

namespace ScanDelta.Remote

open Json (AgreeAt)

/-! ## Where the key data is -/

/-- Fingerprints, the first of which counts. -/
def fingerprintPaths : List (List String) :=
  [["most_recent_instance", "analysis_key"], ["analysis_key"], ["fingerprint"]]

def firstFingerprint? (raw : Json) : Option String := fingerprintPaths.findSome? fun path => raw.textUnder? path

def rulePath : List String := ["rule", "id"]

/-- Path, line and column in a physical location. -/
def physicalPaths : List (List String) :=
  [["artifactLocation", "uri"], ["artifactLocation", "uriBaseId"], ["region", "startLine"], ["region", "startColumn"]]

/-- Path, line and column in a flat location. -/
def flatPaths : List (List String) := [["path"], ["start_line"], ["start_column"]]

/-- All location data of an instance. -/
def locationPaths : List (List String) :=
  (physicalPaths.map ("physicalLocation" :: ·) ++ flatPaths).map ("location" :: ·)

/-- The same fingerprint, or none and the same rule and locations. All else may differ. -/
structure SameKeyData (raw raw' : Json) : Prop where
  fingerprint : firstFingerprint? raw = firstFingerprint? raw'
  rule : firstFingerprint? raw = none → AgreeAt [rulePath] raw raw'
  latest : firstFingerprint? raw = none → AgreeAt (locationPaths.map ("most_recent_instance" :: ·)) raw raw'
  instances : firstFingerprint? raw = none →
    List.Forall₂ (AgreeAt locationPaths) (raw.list "instances") (raw'.list "instances")

/-! ## Fingerprint and rule -/

theorem latestInstance_eq (raw : Json) : latestInstance raw = raw.getOrNull "most_recent_instance" :=
  Json.getD_member? _ raw

theorem fingerprintOf?_eq (raw : Json) : fingerprintOf? raw = firstFingerprint? raw := by
  rw [fingerprintOf?, firstFingerprint?, fingerprintPaths, List.findSome?_cons, Json.textUnder?_cons,
    Json.textUnder?_singleton, latestInstance_eq]
  cases (raw.getOrNull "most_recent_instance").textAt? "analysis_key" with
  | some key => rfl
  | none =>
    rw [Json.firstText?_pair, List.findSome?_cons, List.findSome?_cons, Json.textUnder?_singleton,
      Json.textUnder?_singleton]
    cases raw.textAt? "analysis_key" with
    | some key => rfl
    | none => cases raw.textAt? "fingerprint" <;> rfl

theorem textAt?_ruleOf (raw : Json) (name : String) : (ruleOf raw).textAt? name = raw.textUnder? ["rule", name] := by
  rw [ruleOf, Json.getD_member?, Json.textUnder?_cons, Json.textUnder?_singleton]

theorem ruleId_plainAlertOf (raw : Json) : (plainAlertOf raw).ruleId = (raw.textUnder? rulePath).getD Alert.noRuleId := by
  rw [rulePath, ← textAt?_ruleOf]
  rfl

/-! ## Location -/

theorem flatLocation?_eq (loc : Json) : flatLocation? loc =
    (loc.textUnder? ["path"]).map fun path =>
      Sarif.Location.joined path (loc.textUnder? ["start_line"]) (loc.textUnder? ["start_column"]) := by
  rw [Json.textUnder?_singleton, Json.textUnder?_singleton, Json.textUnder?_singleton, flatLocation?]
  cases loc.textAt? "path" <;> rfl

theorem physical?_congr {phys phys' : Json} (h : AgreeAt physicalPaths phys phys') :
    Sarif.Location.physical? phys = Sarif.Location.physical? phys' := by
  rw [Sarif.Location.physical?_eq, Sarif.Location.physical?_eq, h _ (by decide), h _ (by decide), h _ (by decide), h _ (by decide)]

theorem flatLocation?_congr {loc loc' : Json} (h : AgreeAt flatPaths loc loc') :
    flatLocation? loc = flatLocation? loc' := by
  rw [flatLocation?_eq, flatLocation?_eq, h _ (by decide), h _ (by decide), h _ (by decide)]

theorem instanceLocation?_eq (inst : Json) : instanceLocation? inst =
    (Sarif.Location.physical? ((inst.getOrNull "location").getOrNull "physicalLocation") <|>
      flatLocation? (inst.getOrNull "location")) := by
  rw [instanceLocation?, Json.bind_member? _ rfl, Sarif.Location.physicalOf?, Json.bind_member? _ rfl]

theorem instanceLocation?_congr {inst inst' : Json} (h : AgreeAt locationPaths inst inst') :
    instanceLocation? inst = instanceLocation? inst' := by
  have hloc : AgreeAt (physicalPaths.map ("physicalLocation" :: ·) ++ flatPaths) (inst.getOrNull "location")
      (inst'.getOrNull "location") := AgreeAt.getOrNull h
  have hphys := AgreeAt.getOrNull (hloc.subset (List.subset_append_left _ _))
  have hflat := hloc.subset (List.subset_append_right _ _)
  rw [instanceLocation?_eq, instanceLocation?_eq, physical?_congr hphys, flatLocation?_congr hflat]

theorem findSome?_instanceLocation?_congr {is is' : List Json} (h : List.Forall₂ (AgreeAt locationPaths) is is') :
    is.findSome? instanceLocation? = is'.findSome? instanceLocation? := by
  induction h with
  | nil => rfl
  | cons hi _ ih => rw [List.findSome?_cons, List.findSome?_cons, instanceLocation?_congr hi, ih]

theorem locationOf?_congr {raw raw' : Json}
    (hlatest : AgreeAt (locationPaths.map ("most_recent_instance" :: ·)) raw raw')
    (hinstances : List.Forall₂ (AgreeAt locationPaths) (raw.list "instances") (raw'.list "instances")) :
    locationOf? raw = locationOf? raw' := by
  rw [locationOf?, locationOf?, latestInstance_eq, latestInstance_eq, instanceLocation?_congr hlatest.getOrNull,
    findSome?_instanceLocation?_congr hinstances]

/-! ## Identity -/

/-- Raw objects with the same key data are the same finding, whatever else they show. -/
theorem SameKeyData.identityOf_eq {raw raw' : Json} (h : SameKeyData raw raw') : identityOf raw = identityOf raw' := by
  have hkey : (plainAlertOf raw).analysisKey = (plainAlertOf raw').analysisKey := by
    show fingerprintOf? raw = fingerprintOf? raw'
    rw [fingerprintOf?_eq, fingerprintOf?_eq, h.fingerprint]
  rw [identityOf, identityOf, Alert.identity, Alert.identity, ← hkey]
  cases hfp : (plainAlertOf raw).analysisKey with
  | some key => rfl
  | none =>
    have hnone : firstFingerprint? raw = none := by
      rw [← fingerprintOf?_eq]
      exact hfp
    have hrule : (plainAlertOf raw).ruleId = (plainAlertOf raw').ruleId := by
      rw [ruleId_plainAlertOf, ruleId_plainAlertOf, h.rule hnone _ (List.mem_singleton_self _)]
    have hlocation : (plainAlertOf raw).location = (plainAlertOf raw').location := by
      show (locationOf? raw).getD _ = (locationOf? raw').getD _
      rw [locationOf?_congr (h.latest hnone) (h.instances hnone)]
    rw [hrule, hlocation]

end ScanDelta.Remote

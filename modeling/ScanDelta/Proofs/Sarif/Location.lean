import Mathlib.Data.List.Basic
import ScanDelta.Proofs.Json.Candidates
import ScanDelta.Sarif.Location

/-!
# The location of a result

* `Joins path Line Column text` : a path with line and column, said without a program;
* `PhysicalText j root text` : the text of the physical location that a path of names leads to;
* `Entry`, `entries result` : all places of a result where a location may stand, in the order in which they are tried;
* `Padded Extra Same xs ys` : a list with some more entries in it;
* `MoreEntries result result'` : a result with more entries that offer no location, at any depth;
* `ofResult?_eq_head?` : the location of a result is the first one offered;
* `location_is_first_offered` : what is offered, what is chosen, and what makes no difference.
-/

set_option autoImplicit false

namespace ScanDelta.Sarif.Location

/-! ## Physical locations -/

/-- A path with its line, if there is one, and its column, if there are both. -/
inductive Joins (path : String) (Line Column : String → Prop) : String → Prop
  | path (hline : ∀ l, ¬ Line l) : Joins path Line Column path
  | line {l : String} (hline : Line l) (hcolumn : ∀ c, ¬ Column c) : Joins path Line Column (path ++ ":" ++ l)
  | column {l c : String} (hline : Line l) (hcolumn : Column c) : Joins path Line Column (path ++ ":" ++ l ++ ":" ++ c)

theorem joined_eq_iff {line column : Option String} {Line Column : String → Prop} (hline : ∀ l, line = some l ↔ Line l)
    (hcolumn : ∀ c, column = some c ↔ Column c) (path text : String) :
    joined path line column = text ↔ Joins path Line Column text := by
  have hnoLine := forall_not_iff_eq_none hline
  have hnoColumn := forall_not_iff_eq_none hcolumn
  constructor
  · rintro rfl
    cases line with
    | none => exact .path (hnoLine.2 rfl)
    | some l =>
      cases column with
      | none => exact .line ((hline l).1 rfl) (hnoColumn.2 rfl)
      | some c => exact .column ((hline l).1 rfl) ((hcolumn c).1 rfl)
  · intro h
    cases h with
    | path h => rw [hnoLine.1 h, joined]
    | line hl h => rw [(hline _).2 hl, hnoColumn.1 h, joined]
    | column hl hc => rw [(hline _).2 hl, (hcolumn _).2 hc, joined]

/-- The text of the physical location that a path of names leads to: the address of its artifact or, failing that, the
name of the base, with line and column of the region. -/
def PhysicalText (j : Json) (root : List String) (text : String) : Prop :=
  ∃ path, Chosen j.HasTextAt [root ++ ["artifactLocation", "uri"], root ++ ["artifactLocation", "uriBaseId"]] (some path) ∧
    Joins path (j.HasTextAt (root ++ ["region", "startLine"])) (j.HasTextAt (root ++ ["region", "startColumn"])) text

/-- The same as a function. -/
def physicalUnder? (root : List String) (j : Json) : Option String :=
  (j.textUnder? (root ++ ["artifactLocation", "uri"]) <|> j.textUnder? (root ++ ["artifactLocation", "uriBaseId"])).map
    fun path => joined path (j.textUnder? (root ++ ["region", "startLine"]))
      (j.textUnder? (root ++ ["region", "startColumn"]))

theorem physicalUnder?_eq_some_iff (j : Json) (root : List String) (text : String) :
    physicalUnder? root j = some text ↔ PhysicalText j root text := by
  have htext := j.textUnder?_eq_some_iff
  have hpath : ∀ path, (j.textUnder? (root ++ ["artifactLocation", "uri"]) <|>
      j.textUnder? (root ++ ["artifactLocation", "uriBaseId"])) = some path ↔
      Chosen j.HasTextAt [root ++ ["artifactLocation", "uri"], root ++ ["artifactLocation", "uriBaseId"]] (some path) := by
    intro path
    rw [chosen_iff htext, Json.findSome?_pair]
  rw [physicalUnder?, Option.map_eq_some_iff]
  simp only [hpath, joined_eq_iff (htext _) (htext _), PhysicalText]

theorem physicalUnder?_cons (name : String) (root : List String) (j : Json) :
    physicalUnder? (name :: root) j = physicalUnder? root (j.getOrNull name) := by
  simp only [physicalUnder?, List.cons_append, Json.textUnder?_cons]

/-! ## The reader of physical locations -/

theorem physical?_eq (phys : Json) : physical? phys =
    (phys.textUnder? ["artifactLocation", "uri"] <|> phys.textUnder? ["artifactLocation", "uriBaseId"]).map fun path =>
      joined path (phys.textUnder? ["region", "startLine"])
        (phys.textUnder? ["region", "startColumn"]) := by
  simp only [Json.textUnder?_cons _ [_], Json.textUnder?_singleton, ← Json.firstText?_pair]
  rw [← Json.bind_member? (Json.textAt? "startLine") rfl, ← Json.bind_member? (Json.textAt? "startColumn") rfl,
    ← Json.bind_member? (Json.firstText? ["uri", "uriBaseId"]) rfl, physical?]
  cases phys.member? "artifactLocation" with
  | none => rfl
  | some artifact =>
    show (artifact.firstText? ["uri", "uriBaseId"]).bind _ = Option.map _ (artifact.firstText? ["uri", "uriBaseId"])
    cases artifact.firstText? ["uri", "uriBaseId"] <;> rfl

theorem physicalOf?_eq (owner : Json) : physicalOf? owner = physicalUnder? ["physicalLocation"] owner := by
  rw [physicalOf?, Json.bind_member? physical? rfl, physical?_eq, physicalUnder?_cons]
  rfl

theorem physicalOf?_eq_some_iff (owner : Json) (text : String) :
    physicalOf? owner = some text ↔ PhysicalText owner ["physicalLocation"] text := by
  rw [physicalOf?_eq, physicalUnder?_eq_some_iff]

/-- What finds nothing in null finds a physical location one name further down. -/
theorem physicalOf?_member?_eq_some_iff (name : String) (j : Json) (text : String) :
    (j.member? name).bind physicalOf? = some text ↔ PhysicalText j [name, "physicalLocation"] text := by
  rw [Json.bind_member? physicalOf? rfl, physicalOf?_eq, ← physicalUnder?_cons, physicalUnder?_eq_some_iff]

/-- A physical location has a text if its artifact has an address or the name of a base. -/
theorem exists_physicalText_iff (j : Json) (root : List String) : (∃ text, PhysicalText j root text) ↔
    ∃ path, j.HasTextAt (root ++ ["artifactLocation", "uri"]) path ∨
      j.HasTextAt (root ++ ["artifactLocation", "uriBaseId"]) path := by
  simp only [← physicalUnder?_eq_some_iff, ← Json.textUnder?_eq_some_iff, physicalUnder?]
  cases j.textUnder? (root ++ ["artifactLocation", "uri"]) with
  | some path => simp
  | none => cases j.textUnder? (root ++ ["artifactLocation", "uriBaseId"]) <;> simp

/-! ## What a result offers -/

/-- A place where a location may stand: an object with a physical location, a logical location, a step of a flow. -/
inductive Entry where
  | place (owner : Json)
  | name (logical : Json)
  | flowStep (step : Json)

namespace Entry

/-- What an entry shows. -/
def Shows : Entry → String → Prop
  | place owner, text => PhysicalText owner ["physicalLocation"] text
  | name logical, text => Chosen logical.HasTextAt [["fullyQualifiedName"], ["name"]] (some text)
  | flowStep step, text => PhysicalText step ["location", "physicalLocation"] text

/-- The same as a function. -/
def text? : Entry → Option String
  | place owner => physicalOf? owner
  | name logical => logical? logical
  | flowStep step => (step.member? "location").bind physicalOf?

/-- An entry that shows nothing. -/
def Unusable (e : Entry) : Prop := ∀ text, ¬ e.Shows text

theorem text?_eq_some_iff (e : Entry) (text : String) : e.text? = some text ↔ e.Shows text := by
  cases e with
  | place owner => exact physicalOf?_eq_some_iff owner text
  | name logical =>
    rw [Shows, chosen_iff logical.textUnder?_eq_some_iff, Json.findSome?_pair, Json.textUnder?_singleton,
      Json.textUnder?_singleton, ← Json.firstText?_pair]
    rfl
  | flowStep step => exact physicalOf?_member?_eq_some_iff "location" step text

theorem unusable_iff (e : Entry) : e.Unusable ↔ e.text? = none := forall_not_iff_eq_none e.text?_eq_some_iff

end Entry

/-- All places of a result where a location may stand, in the order in which they are tried. -/
def entries (result : Json) : List Entry :=
  (result.list "locations").map .place ++ (result.list "relatedLocations").map .place ++
    (result.list "logicalLocations").map .name ++ (flowSteps result).map .flowStep

theorem candidates_eq (result : Json) : candidates result = (entries result).filterMap Entry.text? := by
  simp only [entries, List.filterMap_append, List.filterMap_map]
  rfl

theorem offered_candidates (result : Json) : Offered Entry.Shows (entries result) (candidates result) := by
  rw [candidates_eq]
  exact (offered_iff Entry.text?_eq_some_iff _ _).2 rfl

/-- The location of a result is the first one offered. -/
theorem ofResult?_eq_head? (result : Json) : ofResult? result = (candidates result).head? := by
  simp only [ofResult?, firstPhysical?, candidates, List.head?_append, List.head?_filterMap, Option.or_assoc,
    Option.orElse_eq_orElse, Option.orElse_eq_or]

/-- What stands behind the first entry that shows something makes no difference. -/
theorem ofResult?_eq_of_entries {result : Json} {before after : List Entry} {e : Entry}
    (h : entries result = before ++ e :: after) {text : String} (he : e.Shows text) :
    ofResult? result = (before.filterMap Entry.text?).head?.or (some text) := by
  rw [ofResult?_eq_head?, candidates_eq, h, List.filterMap_append, List.head?_append,
    List.filterMap_cons_some ((e.text?_eq_some_iff text).2 he), List.head?_cons]

/-! ## More entries -/

/-- A list with some more members in it, that are `Extra`; the others are the `Same` as before, in their order. -/
inductive Padded (Extra : Json → Prop) (Same : Json → Json → Prop) : List Json → List Json → Prop
  | nil : Padded Extra Same [] []
  | keep {x y : Json} {xs ys : List Json} (h : Same x y) (hrest : Padded Extra Same xs ys) :
      Padded Extra Same (x :: xs) (y :: ys)
  | insert {y : Json} {xs ys : List Json} (h : Extra y) (hrest : Padded Extra Same xs ys) :
      Padded Extra Same xs (y :: ys)

/-- More steps without a location in a thread flow. -/
def MoreSteps (thread thread' : Json) : Prop :=
  Padded (fun step => (Entry.flowStep step).Unusable) (· = ·) (thread.list "locations") (thread'.list "locations")

/-- A thread flow without a location. -/
def IdleThread (thread : Json) : Prop := ∀ step ∈ thread.list "locations", (Entry.flowStep step).Unusable

/-- More steps without a location in the thread flows, or more thread flows without any. -/
def MoreThreads (flow flow' : Json) : Prop :=
  Padded IdleThread MoreSteps (flow.list "threadFlows") (flow'.list "threadFlows")

/-- A code flow without a location. -/
def IdleFlow (flow : Json) : Prop := ∀ thread ∈ flow.list "threadFlows", IdleThread thread

/-- A result with more entries that show nothing, anywhere. What is no entry may differ. -/
structure MoreEntries (result result' : Json) : Prop where
  locations : Padded (fun owner => (Entry.place owner).Unusable) (· = ·) (result.list "locations")
    (result'.list "locations")
  related : Padded (fun owner => (Entry.place owner).Unusable) (· = ·) (result.list "relatedLocations")
    (result'.list "relatedLocations")
  logical : Padded (fun owner => (Entry.name owner).Unusable) (· = ·) (result.list "logicalLocations")
    (result'.list "logicalLocations")
  flows : Padded IdleFlow MoreThreads (result.list "codeFlows") (result'.list "codeFlows")

theorem Padded.flatMap_eq {Extra : Json → Prop} {Same : Json → Json → Prop} {xs ys : List Json}
    (h : Padded Extra Same xs ys) {g : Json → List String} (hextra : ∀ y, Extra y → g y = [])
    (hsame : ∀ x y, Same x y → g x = g y) : xs.flatMap g = ys.flatMap g := by
  induction h with
  | nil => rfl
  | keep hxy _ ih => rw [List.flatMap_cons, List.flatMap_cons, hsame _ _ hxy, ih]
  | insert hy _ ih => rw [List.flatMap_cons, hextra _ hy, List.nil_append, ih]

theorem Padded.filterMap_eq {xs ys : List Json} {entry : Json → Entry}
    (h : Padded (fun x => (entry x).Unusable) (· = ·) xs ys) :
    xs.filterMap (fun x => (entry x).text?) = ys.filterMap fun x => (entry x).text? := by
  rw [List.filterMap_eq_flatMap_toList, List.filterMap_eq_flatMap_toList]
  refine h.flatMap_eq (fun y hy => ?_) fun x y hxy => ?_
  · rw [(entry y).unusable_iff.1 hy, Option.toList_none]
  · rw [hxy]

/-- What the steps of a thread flow offer. -/
def threadTexts (thread : Json) : List String := (thread.list "locations").filterMap fun step => (Entry.flowStep step).text?

/-- What the thread flows of a code flow offer. -/
def flowTexts (flow : Json) : List String := (flow.list "threadFlows").flatMap threadTexts

theorem filterMap_flowSteps (result : Json) :
    ((flowSteps result).filterMap fun step => (Entry.flowStep step).text?) = (result.list "codeFlows").flatMap flowTexts := by
  simp only [flowSteps, List.filterMap_flatMap]
  rfl

theorem threadTexts_of_idle {thread : Json} (h : IdleThread thread) : threadTexts thread = [] :=
  List.filterMap_eq_nil_iff.2 fun step hstep => (Entry.unusable_iff _).1 (h step hstep)

theorem flowTexts_of_idle {flow : Json} (h : IdleFlow flow) : flowTexts flow = [] :=
  List.flatMap_eq_nil_iff.2 fun thread hthread => threadTexts_of_idle (h thread hthread)

theorem MoreThreads.flowTexts_eq {flow flow' : Json} (h : MoreThreads flow flow') : flowTexts flow = flowTexts flow' :=
  Padded.flatMap_eq h (fun _ => threadTexts_of_idle) fun _ _ hmore => Padded.filterMap_eq hmore

/-- More entries that show nothing offer nothing. -/
theorem MoreEntries.candidates_eq {result result' : Json} (h : MoreEntries result result') :
    candidates result = candidates result' := by
  have hflows := h.flows.flatMap_eq (fun _ => flowTexts_of_idle) fun _ _ => MoreThreads.flowTexts_eq
  rw [← filterMap_flowSteps, ← filterMap_flowSteps] at hflows
  have hlocations := h.locations.filterMap_eq
  have hrelated := h.related.filterMap_eq
  have hlogical := h.logical.filterMap_eq
  simp only [Entry.text?] at hlocations hrelated hlogical hflows
  simp only [candidates, hlocations, hrelated, hlogical, hflows]

/-! ## The first candidate -/

/-- **The location of a result is the first one it offers.** What it offers is what its entries show, in order: its
locations, related ones, logical ones and the steps of its flows; it has no location if none of them shows one. A
physical location shows something if there is a path. Entries that show nothing can be put in anywhere, and whatever
stands behind the first entry that shows something can be changed: the location stays. -/
theorem location_is_first_offered (result : Json) :
    Offered Entry.Shows (entries result) (candidates result) ∧
      ofResult? result = (candidates result).head? ∧ (ofResult? result = none ↔ candidates result = []) ∧
      (∀ j root, (∃ text, PhysicalText j root text) ↔ ∃ path, j.HasTextAt (root ++ ["artifactLocation", "uri"]) path ∨
        j.HasTextAt (root ++ ["artifactLocation", "uriBaseId"]) path) ∧
      (∀ result', MoreEntries result result' → ofResult? result' = ofResult? result) ∧
      ∀ result' before e after after' text, entries result = before ++ e :: after → e.Shows text →
        entries result' = before ++ e :: after' → ofResult? result' = ofResult? result := by
  refine ⟨offered_candidates result, ofResult?_eq_head? result, ?_, exists_physicalText_iff, ?_, ?_⟩
  · rw [ofResult?_eq_head?, List.head?_eq_none_iff]
  · intro result' hmore
    rw [ofResult?_eq_head?, ofResult?_eq_head?, hmore.candidates_eq]
  · intro result' before e after after' text h hshows h'
    rw [ofResult?_eq_of_entries h' hshows, ofResult?_eq_of_entries h hshows]

/-- An object with a physical location on the first line of a file. -/
def placeIn (file : String) : Json :=
  .obj [("physicalLocation", .obj [("artifactLocation", .obj [("uri", .str file)]),
    ("region", .obj [("startLine", .nat 1)])])]

/-- A related location behind an object without any. -/
def relatedOnly : Json := .obj [("locations", .arr [.obj []]), ("relatedLocations", .arr [placeIn "a.c"])]

/-- The same with a null and an empty name before it, and an idle flow. -/
def relatedAmongIdle : Json :=
  .obj [("codeFlows", .arr [.obj [("threadFlows", .arr [.obj [("locations", .arr [.null])]])]]),
    ("locations", .arr [.null, .obj []]), ("logicalLocations", .arr [.obj [("name", .str "")]]),
    ("relatedLocations", .arr [.obj [("physicalLocation", .nat 7)], placeIn "a.c"])]

/-- The same with other locations behind it. -/
def relatedBeforeOthers : Json :=
  .obj [("locations", .arr [.obj []]), ("logicalLocations", .arr [.obj [("name", .str "main")]]),
    ("relatedLocations", .arr [placeIn "a.c", placeIn "b.c"])]

theorem moreEntries_relatedOnly : MoreEntries relatedOnly relatedAmongIdle := by
  have hidle : ∀ e ∈ [Entry.place .null, .place (.obj [("physicalLocation", .nat 7)]), .name (.obj [("name", .str "")]),
      .flowStep .null], e.Unusable := by
    intro e he
    rw [e.unusable_iff]
    revert e
    decide
  constructor
  case locations => exact .insert (hidle _ (by simp)) (.keep rfl .nil)
  case related => exact .insert (hidle _ (by simp)) (.keep rfl .nil)
  case logical => exact .insert (hidle _ (by simp)) .nil
  case flows =>
    refine .insert (fun thread hthread step hstep => ?_) .nil
    obtain rfl := List.mem_singleton.1 hthread
    obtain rfl := List.mem_singleton.1 hstep
    exact hidle _ (by simp)

theorem location_of_relatedOnly : ofResult? relatedOnly = some "a.c:1" ∧
    MoreEntries relatedOnly relatedAmongIdle ∧ ofResult? relatedAmongIdle = some "a.c:1" ∧
    entries relatedBeforeOthers = [.place (.obj [])] ++ .place (placeIn "a.c") :: [.place (placeIn "b.c"),
      .name (.obj [("name", .str "main")])] ∧ ofResult? relatedBeforeOthers = some "a.c:1" := by
  have hvalue : ofResult? relatedOnly = some "a.c:1" := by decide
  have hshows : (Entry.place (placeIn "a.c")).Shows "a.c:1" := (Entry.text?_eq_some_iff _ _).1 (by decide)
  obtain ⟨-, -, -, -, hmore, hbehind⟩ := location_is_first_offered relatedOnly
  have hpadded := hmore relatedAmongIdle moreEntries_relatedOnly
  have hothers := hbehind relatedBeforeOthers [.place (.obj [])] (.place (placeIn "a.c")) [] _ "a.c:1" rfl hshows rfl
  exact ⟨hvalue, moreEntries_relatedOnly, hpadded.trans hvalue, rfl, hothers.trans hvalue⟩

end ScanDelta.Sarif.Location

import ScanDelta.Proofs.Json.Compact
import ScanDelta.Proofs.Remote.OwnLines
import ScanDelta.Proofs.Sarif.Records

/-!
# What the log tells of records without a location

* `IsSnippet label value line` : the line is the label and the text of the value, which is cut after 4000 characters;
* `Sarif.Record.Unlocated x line` : the record is new or absent, has no usable location, and this line says so;
* `Baseline.events_collect`, `Baseline.offered_linesOf` : a document leaves these lines and nothing else;
* `Remote.Unlocated raw line` : the raw object has no usable location, and this line says so;
* `Remote.ReadBy s ref items` : the raw objects of all listings that a comparison reads to their ends, in order;
* `Remote.unlocated_records_are_logged_once` : each such record is told of once and in order, by documents and listings.
-/

set_option autoImplicit false

namespace ScanDelta

/-! ## Snippets -/

/-- The line is the label and the text of the value, which is cut after 4000 characters. -/
def IsSnippet (label : String) (value : Json) (line : String) : Prop :=
  ∃ text, value.WrittenAs text ∧ line = label ++ String.ofList (text.take 4000)

theorem snippet_eq_iff (label : String) (value : Json) (line : String) :
    Note.snippet label value = line ↔ IsSnippet (label ++ ": ") value line := by
  simp only [IsSnippet, ← Json.compact_eq_iff, exists_eq_left']
  exact eq_comm

/-! ## Results -/

namespace Sarif

/-- The record is new or absent, its alert has no location, and this is the line about it, which shows what the alert
says and where the result was looked for. -/
def Record.Unlocated (x : Record) (line : String) : Prop :=
  ∃ state a, x.Shows state a ∧ a.location = "(location unavailable)" ∧
    IsSnippet "Unknown SARIF location for result: " (.obj
      [("level", .str a.level.name),
        ("locations", (x.result.get? "locations").getD .null),
        ("message", .str a.message),
        ("relatedLocations", (x.result.get? "relatedLocations").getD .null),
        ("ruleId", .str a.ruleId)]) line

theorem locationSnippet_eq (result : Json) (a : Alert) : locationSnippet result a = .obj
    [("level", .str a.level.name), ("locations", result.getOrNull "locations"), ("message", .str a.message),
      ("relatedLocations", result.getOrNull "relatedLocations"), ("ruleId", .str a.ruleId)] := by
  simp +decide only [locationSnippet, Json.ofMembers, List.foldl_cons, List.foldl_nil, Json.put, if_true, if_false]

/-- What the log tells of a record. -/
def Record.line? (x : Record) : Option String :=
  match baselineState? x.result with
  | none => none
  | some _ =>
    let a := plainAlertOf (rulesOf x.run) x.result
    if a.hasLocation then none else some (Note.snippet noLocationLabel (locationSnippet x.result a))

theorem hasLocation_iff (a : Alert) : a.hasLocation = true ↔ a.location ≠ "(location unavailable)" := bne_iff_ne

theorem Record.line?_eq_some_iff (x : Record) (line : String) : x.line? = some line ↔ x.Unlocated line := by
  have hshows : ∀ state a, x.Shows state a ↔
      baselineState? x.result = some state ∧ plainAlertOf (rulesOf x.run) x.result = a := by
    intro state a
    rw [← Record.alert?_eq_some_iff, Record.alert?, Option.ite_none_right_eq_some, Option.some.injEq]
  simp only [Record.Unlocated, hshows]
  rw [Record.line?]
  cases baselineState? x.result with
  | none => simp
  | some state =>
    dsimp only
    rw [Option.ite_none_left_eq_some, hasLocation_iff, not_not, Option.some.injEq, snippet_eq_iff, locationSnippet_eq]
    constructor
    · rintro ⟨hlocation, hline⟩
      exact ⟨state, _, ⟨rfl, rfl⟩, hlocation, hline⟩
    · rintro ⟨-, a, ⟨-, rfl⟩, hlocation, hline⟩
      exact ⟨hlocation, hline⟩

theorem Record.events_taken (x : Record) : x.taken.events = (x.line?.toList).map .line := by
  rw [Record.taken, Record.line?]
  cases baselineState? x.result with
  | none => rfl
  | some state =>
    dsimp only
    rw [Traced.map_events, alertOf]
    cases (plainAlertOf (rulesOf x.run) x.result).hasLocation <;> rfl

end Sarif

namespace Baseline

open Sarif (Record records)

theorem events_gather (xs : List Record) : (gather xs).events = (xs.filterMap Record.line?).map .line := by
  induction xs with
  | nil => rfl
  | cons x xs ih =>
    rw [gather, Traced.bind_events, Traced.bind_events, x.events_taken, ih, Traced.pure_events, List.append_nil,
      ← List.map_append]
    cases hx : x.line? with
    | none => rw [List.filterMap_cons_none hx]; rfl
    | some line => rw [List.filterMap_cons_some hx]; rfl

/-- What the log tells of the records of a document. -/
def linesOf (document : Json) : List String := (records document).filterMap Record.line?

theorem events_collect (document : Json) : (collect document).events = (linesOf document).map .line := by
  rw [collect_eq, events_gather]
  rfl

theorem offered_linesOf (document : Json) : Offered Record.Unlocated (records document) (linesOf document) :=
  (offered_iff Record.line?_eq_some_iff _ _).2 rfl

end Baseline

/-! ## Raw objects -/

namespace Remote

/-- The alert of the raw object has no location, and this is the line about it, which shows its number and rule and where
it was looked for. -/
def Unlocated (raw : Json) (line : String) : Prop :=
  (alertOf raw).value.location = "(location unavailable)" ∧
    IsSnippet "Unknown API alert location: " (.obj
      [("instances", (raw.get? "instances").getD .null),
        ("most_recent_instance", (raw.get? "most_recent_instance").getD .null),
        ("number", (raw.get? "number").getD .null),
        ("rule", (raw.get? "rule").getD .null)]) line

theorem locationSnippet_eq (raw : Json) : locationSnippet raw = .obj
    [("instances", raw.getOrNull "instances"), ("most_recent_instance", raw.getOrNull "most_recent_instance"),
      ("number", raw.getOrNull "number"), ("rule", raw.getOrNull "rule")] := by
  simp +decide only [locationSnippet, Json.ofMembers, List.map_cons, List.map_nil, List.foldl_cons, List.foldl_nil, Json.put,
    if_true, if_false]

theorem isSnippet_unlocatedLine (raw : Json) : IsSnippet "Unknown API alert location: " (.obj
    [("instances", raw.getOrNull "instances"), ("most_recent_instance", raw.getOrNull "most_recent_instance"),
      ("number", raw.getOrNull "number"), ("rule", raw.getOrNull "rule")]) (unlocatedLine raw) :=
  (snippet_eq_iff noLocationLabel _ _).1 (congrArg (Note.snippet noLocationLabel) (locationSnippet_eq raw).symm)

theorem offered_unlocatedLines (items : List Json) : Offered Unlocated items (unlocatedLines items) := by
  induction items with
  | nil => exact .nil
  | cons raw more ih =>
    rw [← List.singleton_append, unlocatedLines_append]
    cases h : (plainAlertOf raw).hasLocation with
    | true =>
      have hnone : unlocatedLines [raw] = [] := by simp [unlocatedLines, h]
      rw [hnone]
      refine .unusable (fun line hline => ?_) ih
      exact (Sarif.hasLocation_iff _).1 h (value_alertOf raw ▸ hline.1)
    | false =>
      have hone : unlocatedLines [raw] = [unlocatedLine raw] := by simp [unlocatedLines, h]
      have hlocation : (alertOf raw).value.location = "(location unavailable)" := by
        rw [value_alertOf]
        by_contra hne
        rw [(Sarif.hasLocation_iff _).2 hne] at h
        cases h
      rw [hone]
      exact .usable ⟨hlocation, isSnippet_unlocatedLine raw⟩ ih

/-! ## What a comparison reads -/

/-- The raw objects of a further listing: all of them if there is a ref and its listing ends, else none. -/
inductive ReadFurther (s : Service) : Option String → List Json → Prop
  | none : ReadFurther s none []
  | ended {t : String} {items : List Json} (h : EndsWith (s.alertAnswers (some t)) items) : ReadFurther s (some t) items
  | unread {t : String} (h : ∀ items, ¬ EndsWith (s.alertAnswers (some t)) items) : ReadFurther s (some t) []

/-- The raw objects of all listings that a comparison reads to their ends, in the order in which they are read. -/
inductive ReadBy (s : Service) (ref : String) : List Json → Prop
  | subjectFails (h : ∀ xs, ¬ EndsWith (s.alertAnswers (some ref)) xs) : ReadBy s ref []
  | defaultFails {xs : List Json} (hsubject : EndsWith (s.alertAnswers (some ref)) xs)
    (h : ∀ ys, ¬ EndsWith (s.alertAnswers none) ys) : ReadBy s ref xs
  | both {xs ys ps bs : List Json} (hsubject : EndsWith (s.alertAnswers (some ref)) xs)
    (hdefault : EndsWith (s.alertAnswers none) ys)
    (hprevious : ReadFurther s (pullRefs s ref).value.previousCommit ps)
    (hbase : ReadFurther s (baseTarget? s ref) bs) : ReadBy s ref (xs ++ (ys ++ (ps ++ bs)))

/-- The same as a function. -/
def readItems (s : Service) (ref : String) : List Json :=
  match readAll (s.alertAnswers (some ref)) with
  | .error _ => []
  | .ok xs => xs ++ match readAll (s.alertAnswers none) with
    | .error _ => []
    | .ok ys => ys ++ (furtherItems s (pullRefs s ref).value.previousCommit ++ furtherItems s (baseTarget? s ref))

section
variable {s : Service} {ref : String}

theorem exists_readAll_error {answers : Nat → Except Failure (List Json)} (h : ∀ items, ¬ EndsWith answers items) :
    ∃ e, readAll answers = .error e := by
  cases hread : readAll answers with
  | error e => exact ⟨e, rfl⟩
  | ok items => exact absurd ((readAll_eq_ok_iff answers items).1 hread) (h items)

theorem not_endsWith_of_error {answers : Nat → Except Failure (List Json)} {e : Failure}
    (h : readAll answers = .error e) (items : List Json) : ¬ EndsWith answers items := by
  rw [← readAll_eq_ok_iff, h]
  exact nofun

theorem readFurther_furtherItems (s : Service) (target : Option String) :
    ReadFurther s target (furtherItems s target) := by
  cases target with
  | none => exact .none
  | some t =>
    rw [furtherItems, Option.elim_some, itemsAt, listed?]
    cases h : readAll (s.alertAnswers (some t)) with
    | error e => exact .unread (not_endsWith_of_error h)
    | ok items => exact .ended ((readAll_eq_ok_iff _ items).1 h)

theorem ReadFurther.eq {target : Option String} {items : List Json} (h : ReadFurther s target items) :
    items = furtherItems s target := by
  cases h with
  | none => rfl
  | ended h => rw [furtherItems, Option.elim_some, itemsAt, (listed?_eq_some_iff _ _).2 h, Option.getD_some]
  | unread h =>
    obtain ⟨e, he⟩ := exists_readAll_error h
    rw [furtherItems, Option.elim_some, itemsAt, listed?, he]
    rfl

theorem readBy_readItems (s : Service) (ref : String) : ReadBy s ref (readItems s ref) := by
  rw [readItems]
  cases hx : readAll (s.alertAnswers (some ref)) with
  | error e => exact .subjectFails (not_endsWith_of_error hx)
  | ok xs =>
    have hsubject := (readAll_eq_ok_iff _ xs).1 hx
    cases hy : readAll (s.alertAnswers none) with
    | error e =>
      dsimp only
      rw [List.append_nil]
      exact .defaultFails hsubject (not_endsWith_of_error hy)
    | ok ys =>
      have hdefault := (readAll_eq_ok_iff _ ys).1 hy
      exact .both hsubject hdefault (readFurther_furtherItems s _) (readFurther_furtherItems s _)

theorem ReadBy.eq {items : List Json} (h : ReadBy s ref items) : items = readItems s ref := by
  rw [readItems]
  cases h with
  | subjectFails h =>
    obtain ⟨e, he⟩ := exists_readAll_error h
    rw [he]
  | defaultFails hsubject h =>
    obtain ⟨e, he⟩ := exists_readAll_error h
    rw [readAll_of_endsWith hsubject, he]
    exact (List.append_nil _).symm
  | both hsubject hdefault hprevious hbase =>
    rw [readAll_of_endsWith hsubject, readAll_of_endsWith hdefault, hprevious.eq, hbase.eq]

end

/-! ## The lines of a comparison -/

theorem clear_apiLabel : Clear apiLabel := by decide

theorem linesWith_apiLabel (s : Service) (ref : String) :
    linesWith apiLabel (trace (compare s.silent ref)) = unlocatedLines (readItems s ref) := by
  have hmalformed := filter_malformedLines_of_apart (show Apart malformedLabel apiLabel by decide) ref
  rw [linesWith_compare s clear_apiLabel, remarks, readItems]
  cases readAll (s.alertAnswers (some ref)) with
  | error e => rfl
  | ok xs =>
    cases readAll (s.alertAnswers none) with
    | error e =>
      dsimp only
      rw [List.append_nil, List.append_nil, filter_unlocatedLines]
    | ok ys =>
      simp only [List.filter_append, filter_unlocatedLines, hmalformed, unlocatedLines_append, List.nil_append]

/-- **Records without a location are logged once each.** A document leaves one line for each new or absent record whose
alert has no location, in document order, and nothing else; a list of raw objects leaves one for each that has none, in
order, and nothing else; neither changes the alerts. Of the lines that a comparison writes itself, those with the label
of a raw object are the ones about the raw objects of the listings that it reads, before equal ones are put together. If
a client is asked over HTTP, these are all lines with the label. -/
theorem unlocated_records_are_logged_once (document : Json) (items : List Json) (s : Service) (ref : String) :
    (∃ lines, (Baseline.collect document).events = lines.map .line ∧
      Offered Sarif.Record.Unlocated (Sarif.records document) lines) ∧
    (∀ state, Offered (Sarif.Record.Shows state) (Sarif.records document)
      ((Baseline.collect document).value.inState state)) ∧
    (∃ lines, (alertsOf items).events = lines.map .line ∧ Offered Unlocated items lines) ∧
    (alertsOf items).value = items.map plainAlertOf ∧
    trace (compare s ref) = withNotes s (trace (compare s.silent ref)) ∧
    (∃ read, ReadBy s ref read) ∧
    ∀ read, ReadBy s ref read →
      Offered Unlocated read (linesWith "Unknown API alert location: " (trace (compare s.silent ref))) ∧
      ∀ (c : Client) repo, s = c.service repo →
        Offered Unlocated read (linesWith "Unknown API alert location: " (trace (compare s ref))) := by
  refine ⟨⟨_, Baseline.events_collect document, Baseline.offered_linesOf document⟩, ?_,
    ⟨_, events_alertsOf items, offered_unlocatedLines items⟩, value_alertsOf items, trace_compare_silent s ref,
    ⟨_, readBy_readItems s ref⟩, ?_⟩
  · intro state
    rw [Baseline.collect_eq]
    exact Baseline.offered_gather _ state
  · intro read hread
    have hown : Offered Unlocated read (linesWith apiLabel (trace (compare s.silent ref))) := by
      rw [linesWith_apiLabel, ← hread.eq]
      exact offered_unlocatedLines read
    refine ⟨hown, ?_⟩
    rintro c repo rfl
    rw [← linesWith_compare_client c clear_apiLabel] at hown
    exact hown

end Remote

end ScanDelta

import ScanDelta.Proofs.Files.Removal
import ScanDelta.Proofs.Journal
import ScanDelta.Proofs.Run

/-!
# The history of a log

* `Journal.Step`, `Journal.Stage`, `Journal.steps` : what can happen to a log, and a disk with the log that is open on it;
* `Step.line?`, `lines` : the lines that steps add to the file of the log;
* `Holds d p loc held` : the file at the end of a path, at this location, has the text, or nothing is there;
* `Kept d loc p held d'` : the path holds the text, and no file has changed since `d` but the one at `loc`;
* `Kept.step`, `Kept.steps` : one step, and many, on a log that is open;
* `Silent`, `silent_steps` : a log that is disabled changes nothing;
* `Faithful`, `faithful_of_whole`, `faithful_of_removal` : the file of an open log has the lines since it was opened, and
  since it was removed.
-/

set_option autoImplicit false

namespace ScanDelta

open Disk

namespace Journal

/-! ## What happens to a log -/

/-- What can happen to a log; lines come with their time stamps. -/
inductive Step where
  | openAt (stamp path : String)
  | disable
  | record (stamp text : String)
  | append (stamp text : String)
  | snippet (stamp label : String) (value : Json)
  /-- Somebody removes a file. -/
  | remove (path : String)

/-- A disk and the log that is open on it. -/
structure Stage where
  disk : Disk
  log : Journal

/-- Does the step put another log in place of the one that is open? -/
def Step.replaces : Step → Bool
  | .openAt _ _ | .disable => true
  | _ => false

def Step.removes : Step → Bool
  | .remove _ => true
  | _ => false

/-- Something is recorded, or the file at the path is removed. -/
def Step.Continues (p : String) : Step → Prop
  | .openAt _ _ | .disable => False
  | .remove q => q = p
  | _ => True

def step (s : Stage) : Step → Stage
  | .openAt stamp p => ⟨(Journal.openAt stamp s.disk p).1, (Journal.openAt stamp s.disk p).2.value⟩
  | .disable => ⟨s.disk, .disabled⟩
  | .record stamp text => ⟨s.log.appendAll stamp s.disk (ScanDelta.record text).events, s.log⟩
  | .append stamp text => ⟨s.log.append stamp s.disk text, s.log⟩
  | .snippet stamp label value => ⟨s.log.appendAll stamp s.disk (recordSnippet label value).events, s.log⟩
  | .remove p =>
    match s.disk.removeFile p with
    | .ok d => ⟨d, s.log⟩
    | .error _ => s

def steps (s : Stage) (xs : List Step) : Stage := xs.foldl step s

/-- The line that a step adds to the file of the log; of a JSON value it has the first 4000 characters. -/
def Step.line? : Step → Option String
  | .record stamp text | .append stamp text => some (stamp ++ " " ++ text ++ "\n")
  | .snippet stamp label value =>
    some (stamp ++ " " ++ (label ++ ": " ++ String.ofList ((Json.compact value).toList.take 4000)) ++ "\n")
  | _ => none

def lines (xs : List Step) : List String := xs.filterMap Step.line?

theorem steps_append (s : Stage) (xs ys : List Step) : steps s (xs ++ ys) = steps (steps s xs) ys :=
  List.foldl_append

/-! ## A log that is disabled -/

theorem append_of_disabled {j : Journal} (h : j.path = none) (stamp : String) (d : Disk) (text : String) :
    j.append stamp d text = d := by
  rw [append, h]

theorem step_of_disabled {d : Disk} {x : Step} (hx : x.replaces = false) (hremove : x.removes = false) :
    step ⟨d, .disabled⟩ x = ⟨d, .disabled⟩ := by
  have hdisabled : disabled.path = none := rfl
  cases x with
  | openAt stamp p => cases hx
  | disable => cases hx
  | remove p => cases hremove
  | record stamp text => exact congrArg (Stage.mk · disabled) (append_of_disabled hdisabled stamp d text)
  | append stamp text => exact congrArg (Stage.mk · disabled) (append_of_disabled hdisabled stamp d text)
  | snippet stamp label value =>
    exact congrArg (Stage.mk · disabled) (append_of_disabled hdisabled stamp d (Note.snippet label value))

theorem log_step {s : Stage} {x : Step} (hx : x.replaces = false) : (step s x).log = s.log := by
  cases x with
  | openAt stamp p => cases hx
  | disable => cases hx
  | remove p =>
    rw [step]
    split <;> rfl
  | _ => rfl

/-- The log is disabled, and the disk is as the removals alone leave it. -/
structure Silent (d : Disk) (xs : List Step) (s : Stage) : Prop where
  path : s.log.path = none
  stage : s = steps ⟨d, .disabled⟩ (xs.filter Step.removes)

/-- What is recorded in a disabled log changes nothing. -/
theorem silent_steps (d : Disk) {xs : List Step} (hxs : ∀ x ∈ xs, x.replaces = false) :
    Silent d xs (steps ⟨d, .disabled⟩ xs) := by
  induction xs generalizing d with
  | nil => exact ⟨rfl, rfl⟩
  | cons x xs ih =>
    have hx := hxs x List.mem_cons_self
    have hlog : step ⟨d, .disabled⟩ x = ⟨(step ⟨d, .disabled⟩ x).disk, .disabled⟩ :=
      congrArg (Stage.mk _) (log_step hx)
    obtain ⟨hrest, hstage⟩ := ih (step ⟨d, .disabled⟩ x).disk fun y hy => hxs y (List.mem_cons_of_mem _ hy)
    rw [← hlog] at hrest hstage
    refine ⟨hrest, ?_⟩
    show steps (step ⟨d, .disabled⟩ x) xs = _
    rw [hstage]
    by_cases hremove : x.removes = true
    · rw [List.filter_cons_of_pos hremove]
      rfl
    · rw [List.filter_cons_of_neg hremove, step_of_disabled hx (by simpa using hremove)]

/-! ## A log that is open -/

/-- The file at the end of the path has this text, or the path leads to a place where nothing is. -/
inductive Holds (d : Disk) (p : String) (loc : Location) : Option String → Prop
  | there {text : String} (hleads : d.Leads p loc) (htext : d.fileAt loc = some text.toUTF8) : Holds d p loc (some text)
  | gone (hpoints : ∀ purpose, d.Points purpose p loc) (hnone : d.look loc = none) : Holds d p loc none

theorem Holds.readText {d : Disk} {p : String} {loc : Location} {held : Option String} (h : Holds d p loc held) :
    d.readText p = held.elim (.error .noEntry) .ok := by
  cases h with
  | there hleads htext =>
    rw [Disk.readText, read_of_leads hleads htext, ok_bind]
    simp only [fromUTF8?_toUTF8]
    rfl
  | gone hpoints hnone => rw [Disk.readText, read_of_free (hpoints .file) hnone]; rfl

/-- Files at other locations are as they were. -/
def Sparing (d : Disk) (loc : Location) (d' : Disk) : Prop :=
  ∀ loc' bytes, loc' ≠ loc → d.fileAt loc' = some bytes → d'.fileAt loc' = some bytes

/-- The file of the log holds the text, and no other file than the one at `loc` is not as it was on the disk `d`. -/
def Kept (d : Disk) (loc : Location) (p : String) (held : Option String) (d' : Disk) : Prop :=
  ∃ here, Holds d' p here held ∧ (here = loc ∨ d.fileAt here = none) ∧ Sparing d loc d'

/-- A log that could be opened has its header in its file. -/
theorem kept_of_openAt {stamp : String} {d : Disk} {p : String} (h : (Journal.openAt stamp d p).2.value.path ≠ none) :
    (Journal.openAt stamp d p).2.value.path = some p ∧ ∃ loc, (Journal.openAt stamp d p).1.Leads p loc ∧
      Kept d loc p (some (stamped stamp header)) (Journal.openAt stamp d p).1 := by
  rcases openAt_cases stamp d p with ⟨loc, hpath, hc⟩ | ⟨hnone, -⟩
  · have hsparing : Sparing d loc (Journal.openAt stamp d p).1 := by
      intro loc' bytes hne hbytes
      rw [hc.others hne, hbytes]
    exact ⟨hpath, loc, hc.leads, loc, .there hc.leads hc.content, .inl rfl, hsparing⟩
  · exact absurd hnone h

section Kept
variable {d d' : Disk} {loc : Location} {p : String} {held : Option String}

/-- A line goes to the end of the file, or begins it anew. -/
theorem Kept.append (h : Kept d loc p held d') {j : Journal} (hj : j.path = some p) (stamp text : String) :
    Kept d loc p (some (held.getD "" ++ stamped stamp text)) (j.append stamp d' text) := by
  obtain ⟨here, hholds, hhere, hsparing⟩ := h
  -- the file at `here` is the only one that changes, and it is not one that was there on `d`
  have hafter : ∀ {d'' : Disk} {bytes : ByteArray}, Changes d' d'' p here bytes → Sparing d loc d'' := by
    intro d'' bytes hc loc' bytes' hne hbytes
    have hother : loc' ≠ here := by
      rintro rfl
      rcases hhere with heq | hnone
      · exact hne heq
      · rw [hnone] at hbytes
        cases hbytes
    rw [hc.others hother, hsparing loc' bytes' hne hbytes]
  cases hholds with
  | @there old hleads htext =>
    obtain ⟨d'', happend, hc⟩ := append_of_leads hleads (stamped stamp text)
    have hcontent := hc.content
    rw [htext, Option.getD_some, String.toUTF8_eq_toByteArray, String.toUTF8_eq_toByteArray,
      ← String.toByteArray_append] at hcontent
    rw [Journal.append, hj]
    simp only [happend]
    exact ⟨here, .there hc.leads hcontent, hhere, hafter hc⟩
  | gone hpoints hnone =>
    obtain ⟨d'', happend, hc⟩ := append_of_free (hpoints .file) hnone (stamped stamp text)
    rw [Journal.append, hj]
    simp only [happend]
    rw [Option.getD_none, String.empty_append]
    exact ⟨here, .there hc.leads hc.content, hhere, hafter hc⟩

/-- Whether the file or a link to it is removed, the path leads to a free place then. -/
theorem Kept.removeFile (h : Kept d loc p held d') :
    (∃ d'', d'.removeFile p = .ok d'' ∧ Kept d loc p none d'') ∨ held = none ∧ d'.removeFile p = .error .noEntry := by
  obtain ⟨here, hholds, hhere, hsparing⟩ := h
  cases hholds with
  | gone hpoints hnone => exact .inr ⟨rfl, removeFile_of_free (hpoints .entry) hnone⟩
  | there hleads htext =>
    obtain ⟨d'', entry, hremove, -, hwithout, hentry, hpoints⟩ := removeFile_of_leads hleads
    have hplace : entry = loc ∨ d.fileAt entry = none := by
      rcases hentry with rfl | ⟨target, hlink⟩
      · exact hhere
      · by_cases heq : entry = loc
        · exact .inl heq
        · refine .inr (Option.eq_none_iff_forall_ne_some.2 fun bytes hbytes => ?_)
          have hfile := (fileAt_eq_some_iff _ _ _).1 (hsparing entry bytes heq hbytes)
          rw [hlink] at hfile
          cases hfile
    have hnone : d''.look entry = none := (hwithout entry).trans (if_pos rfl)
    refine .inl ⟨d'', hremove, entry, .gone hpoints hnone, hplace, ?_⟩
    intro loc' bytes hne hbytes
    have hother : loc' ≠ entry := by
      rintro rfl
      rcases hplace with heq | hnone
      · exact hne heq
      · rw [hnone] at hbytes
        cases hbytes
    have hlook : d''.look loc' = d'.look loc' := (hwithout loc').trans (if_neg hother)
    rw [fileAt_congr hlook, hsparing loc' bytes hne hbytes]

end Kept

/-- What the file of a log holds after a step. -/
def Step.fill (held : Option String) : Step → Option String
  | .remove _ => none
  | x => x.line?.elim held fun line => some (held.getD "" ++ line)

/-- One step on a log that is open. -/
theorem Kept.step {d : Disk} {loc : Location} {p : String} {held : Option String} {s : Stage}
    (h : Kept d loc p held s.disk) (hpath : s.log.path = some p) {x : Step} (hx : x.Continues p) :
    (step s x).log = s.log ∧ Kept d loc p (x.fill held) (Journal.step s x).disk := by
  cases x with
  | openAt stamp q => cases hx
  | disable => cases hx
  | record stamp text => exact ⟨rfl, h.append hpath stamp text⟩
  | append stamp text => exact ⟨rfl, h.append hpath stamp text⟩
  | snippet stamp label value => exact ⟨rfl, h.append hpath stamp _⟩
  | remove q =>
    obtain rfl : q = p := hx
    rw [Journal.step]
    rcases h.removeFile with ⟨d'', hremove, hkept⟩ | ⟨rfl, hremove⟩
    · rw [hremove]
      exact ⟨rfl, hkept⟩
    · rw [hremove]
      exact ⟨rfl, h⟩

/-- Any steps on a log that is open. -/
theorem Kept.steps {d : Disk} {loc : Location} {p : String} {held : Option String} {s : Stage}
    (h : Kept d loc p held s.disk) (hpath : s.log.path = some p) {xs : List Step} (hxs : ∀ x ∈ xs, x.Continues p) :
    (Journal.steps s xs).log = s.log ∧ Kept d loc p (xs.foldl Step.fill held) (Journal.steps s xs).disk := by
  induction xs generalizing s held with
  | nil => exact ⟨rfl, h⟩
  | cons x xs ih =>
    obtain ⟨hlog, hkept⟩ := h.step hpath (hxs x List.mem_cons_self)
    have hrest := ih hkept (by rw [hlog, hpath]) fun y hy => hxs y (List.mem_cons_of_mem _ hy)
    exact ⟨hrest.1.trans hlog, hrest.2⟩

theorem lines_cons (x : Step) (xs : List Step) : lines (x :: xs) = x.line?.toList ++ lines xs := by
  unfold lines
  rw [List.filterMap_cons]
  cases x.line? <;> rfl

/-- Lines stand behind one another in the file. -/
theorem foldl_fill {xs : List Step} (hxs : ∀ x ∈ xs, x.removes = false) (held : Option String) :
    xs.foldl Step.fill held = if lines xs = [] then held else some (held.getD "" ++ String.join (lines xs)) := by
  induction xs generalizing held with
  | nil => rfl
  | cons x xs ih =>
    have hx : x.fill held = x.line?.elim held fun line => some (held.getD "" ++ line) := by
      cases x with
      | remove p => exact absurd (hxs _ List.mem_cons_self) nofun
      | _ => rfl
    rw [List.foldl_cons, ih fun y hy => hxs y (List.mem_cons_of_mem _ hy), hx, lines_cons]
    cases x.line? with
    | none => rfl
    | some line =>
      simp only [Option.elim_some, Option.toList_some, List.cons_append, List.nil_append, List.cons_ne_nil, if_false,
        Option.getD_some, String.join_cons]
      by_cases hnil : lines xs = []
      · rw [if_pos hnil, hnil, String.join_nil, String.append_empty]
      · rw [if_neg hnil, String.append_assoc]

/-! ## The file of a log -/

/-- The log is open at the path, at which there is this text or no file; other files than the one that the path led to
when the log was opened are as they were before. -/
structure Faithful (before opened : Disk) (p : String) (held : Option String) (s : Stage) : Prop where
  path : s.log.path = some p
  text : s.disk.readText p = held.elim (.error .noEntry) .ok
  others : ∃ loc, opened.Leads p loc ∧ Sparing before loc s.disk

section Opened
variable {stamp p : String} {s : Stage} (h : (Journal.openAt stamp s.disk p).2.value.path ≠ none)

include h

/-- A log that was opened, after any steps with it. -/
theorem faithful_steps {xs : List Step} (hxs : ∀ x ∈ xs, x.Continues p) :
    Faithful s.disk (Journal.openAt stamp s.disk p).1 p (xs.foldl Step.fill (some (stamped stamp header)))
      (steps s (.openAt stamp p :: xs)) := by
  obtain ⟨hpath, loc, hleads, hkept⟩ := kept_of_openAt h
  obtain ⟨hlog, here, hholds, hhere, hsparing⟩ :=
    Kept.steps (s := step s (.openAt stamp p)) hkept hpath hxs
  refine ⟨?_, hholds.readText, loc, hleads, hsparing⟩
  show (steps (step s (.openAt stamp p)) xs).log.path = some p
  rw [hlog]
  exact hpath

/-- While nobody removes it, the file has all lines since the log was opened. -/
theorem faithful_of_kept {xs : List Step} (hxs : ∀ x ∈ xs, x.Continues p ∧ x.removes = false) :
    Faithful s.disk (Journal.openAt stamp s.disk p).1 p (some (stamped stamp header ++ String.join (lines xs)))
      (steps s (.openAt stamp p :: xs)) := by
  have hfaithful := faithful_steps h fun x hx => (hxs x hx).1
  rw [foldl_fill fun x hx => (hxs x hx).2] at hfaithful
  by_cases hnil : lines xs = []
  · rw [if_pos hnil] at hfaithful
    rwa [hnil, String.join_nil, String.append_empty]
  · rwa [if_neg hnil] at hfaithful

/-- Once somebody has removed it, the file has all lines since then; it is there if there are any. -/
theorem faithful_of_removal {xs ys : List Step} (hxs : ∀ x ∈ xs, x.Continues p)
    (hys : ∀ y ∈ ys, y.Continues p ∧ y.removes = false) :
    Faithful s.disk (Journal.openAt stamp s.disk p).1 p
      (if lines ys = [] then none else some (String.join (lines ys)))
      (steps s (.openAt stamp p :: (xs ++ .remove p :: ys))) := by
  have hall : ∀ x ∈ xs ++ .remove p :: ys, x.Continues p := by
    intro x hx
    rcases List.mem_append.1 hx with hx | hx
    · exact hxs x hx
    · rcases List.mem_cons.1 hx with rfl | hx
      · exact rfl
      · exact (hys x hx).1
  have hfaithful := faithful_steps h hall
  have hrest := foldl_fill (fun y hy => (hys y hy).2) none
  rw [Option.getD_none, String.empty_append] at hrest
  -- what was there before the removal does not count
  rw [List.foldl_append, List.foldl_cons, Step.fill, hrest] at hfaithful
  exact hfaithful

end Opened

/-- A log that could not be opened is disabled, and no file has changed. -/
theorem step_of_failed {stamp p : String} {s : Stage} (h : (Journal.openAt stamp s.disk p).2.value.path = none) :
    step s (.openAt stamp p) = ⟨(Journal.openAt stamp s.disk p).1, .disabled⟩ ∧
      KeepsFiles s.disk (Journal.openAt stamp s.disk p).1 := by
  rcases openAt_cases stamp s.disk p with ⟨loc, hsome, -⟩ | ⟨hnone, hkeep⟩
  · rw [hsome] at h
    cases h
  · refine ⟨congrArg (Stage.mk _) ?_, hkeep⟩
    show (Journal.openAt stamp s.disk p).2.value = ⟨none⟩
    rw [← h]

end Journal

end ScanDelta

import ScanDelta.Proofs.Remote.PullRequest
import ScanDelta.Proofs.Remote.Steps
import ScanDelta.Remote.Client

/-!
# What a comparison itself writes into the log

* `Service.silent s` : the service that gives the answers of `s` without their notes;
* `withNotes s es` : events with the notes of each answer behind its question; `trace_compare_silent` : a comparison is
  the one through the silent service, with these notes in it;
* `linesWith label es` : the lines that begin with a label, in order;
* `Clear label` : no line that tells how far a comparison has come begins with this label;
* `unlocatedLines items` : the lines about raw objects without a usable location (`events_alertsOf`);
* `malformedLines ref` : the line about a ref that only begins like that of a pull request;
* `linesWith_compare` : with a clear label, a comparison writes these lines and no others;
* `linesWith_compare_client` : with such a label, a client that is asked over HTTP writes none.
-/

set_option autoImplicit false

namespace ScanDelta

/-! ## Silent services -/

namespace Service

/-- The same answers without notes. -/
def silent (s : Service) : Service where
  alertPage ref page := pure (s.alertPage ref page).value
  pull number := pure (s.pull number).value
  commitPage number page := pure (s.commitPage number page).value

/-- The notes that come with an answer. -/
def notes (s : Service) : Remote.Call → List Note
  | .alerts ref page => (s.alertPage ref page).events
  | .pull number => (s.pull number).events
  | .commits number page => (s.commitPage number page).events

@[simp] theorem alertAnswers_silent (s : Service) (ref : Option String) :
    s.silent.alertAnswers ref = s.alertAnswers ref := rfl

end Service

namespace Remote

/-- A question with the notes of its answer behind it. -/
def Event.answered (s : Service) : Event → List Event
  | .call c => .call c :: (s.notes c).map .note
  | e => [e]

/-- Events with the notes of each answer behind its question. -/
def withNotes (s : Service) (es : List Event) : List Event := es.flatMap (Event.answered s)

theorem withNotes_append (s : Service) (es es' : List Event) :
    withNotes s (es ++ es') = withNotes s es ++ withNotes s es' := List.flatMap_append

theorem withNotes_notes (s : Service) (ns : List Note) : withNotes s (ns.map .note) = ns.map .note := by
  induction ns with
  | nil => rfl
  | cons n ns ih => exact congrArg (Event.note n :: ·) ih

theorem withNotes_call (s : Service) (c : Call) : withNotes s [.call c] = .call c :: (s.notes c).map .note :=
  List.append_nil _

/-- Through the silent service a run comes to the same, and leaves the same but for the notes of the answers. -/
theorem SameSteps.eq_withNotes {α : Type} {s : Service} {t t' : Traced Event α} (h : SameSteps s s.silent t t') :
    t'.value = t.value ∧ t.events = withNotes s t'.events := by
  induction h with
  | noted t => exact ⟨rfl, (withNotes_notes s t.events).symm⟩
  | alerts ref page => exact ⟨rfl, (withNotes_call s (.alerts ref page)).symm⟩
  | pull number => exact ⟨rfl, (withNotes_call s (.pull number)).symm⟩
  | commits number page => exact ⟨rfl, (withNotes_call s (.commits number page)).symm⟩
  | @bind _ _ t t' f f' _ _ ih ihf =>
    obtain ⟨hvalue, hevents⟩ := ih
    obtain ⟨hvalue', hevents'⟩ := ihf t.value
    rw [Traced.bind_value, Traced.bind_value, Traced.bind_events, Traced.bind_events, hvalue, withNotes_append]
    exact ⟨hvalue', by rw [hevents, hevents']⟩

theorem trace_compare_silent (s : Service) (ref : String) :
    trace (compare s ref) = withNotes s (trace (compare s.silent ref)) :=
  (sameSteps_compare s s.silent ref).eq_withNotes.2

theorem value_pullRefs_silent (s : Service) (ref : String) : (pullRefs s.silent ref).value = (pullRefs s ref).value :=
  (sameSteps_pullRefs s s.silent ref).eq_withNotes.1

/-! ## Lines -/

/-- The lines of the log among some events. -/
def lines (es : List Event) : List String := es.filterMap fun e => e.note?.bind Note.line?

/-- The line begins with the label. -/
def Labelled (label line : String) : Prop := label.toList <+: line.toList

instance (label line : String) : Decidable (Labelled label line) :=
  inferInstanceAs (Decidable (label.toList <+: line.toList))

/-- The lines that begin with the label, in order. -/
def linesWith (label : String) (es : List Event) : List String := (lines es).filter (Labelled label ·)

section
variable (label : String) {α β : Type}

theorem labelled_append (rest : String) : Labelled label (label ++ rest) := by
  rw [Labelled, String.toList_append]
  exact List.prefix_append _ _

theorem linesWith_nil : linesWith label [] = [] := rfl

theorem linesWith_append (es es' : List Event) :
    linesWith label (es ++ es') = linesWith label es ++ linesWith label es' := by
  rw [linesWith, lines, List.filterMap_append, List.filter_append]
  rfl

theorem linesWith_lines (texts : List String) :
    linesWith label ((texts.map Note.line).map .note) = texts.filter (Labelled label ·) := by
  have hlines : lines ((texts.map Note.line).map .note) = texts := by
    induction texts with
    | nil => rfl
    | cons text texts ih => exact congrArg (text :: ·) ih
  rw [linesWith, hlines]

theorem linesWith_record (text : String) :
    linesWith label ((record text).events.map .note) = [text].filter (Labelled label ·) := rfl

theorem linesWith_bind (r : Run α) (f : α → Run β) : linesWith label (trace (r >>= f)) =
    linesWith label (trace r) ++ (match result r with | .ok a => linesWith label (trace (f a)) | .error _ => []) := by
  rw [trace_bind, linesWith_append]
  cases result r <;> rfl

theorem linesWith_bind_noted (t : Traced Note α) (f : α → Run β) : linesWith label (trace ((liftM t : Run α) >>= f)) =
    linesWith label (t.events.map .note) ++ linesWith label (trace (f t.value)) := by
  rw [trace_bind_noted, linesWith_append]

theorem linesWith_bind_traced (t : Traced Event α) (f : α → Run β) : linesWith label (trace ((liftM t : Run α) >>= f)) =
    linesWith label t.events ++ linesWith label (trace (f t.value)) := by
  rw [trace_bind_traced, linesWith_append]

end

/-! ## Lines that are written on the way -/

/-- How the lines begin that tell how far a comparison, or the client that it asks, has come. -/
def fixedHeads : List String :=
  ["Fetched ", "Alerts for ", "Matched: ", "Skipping comparison against ", "No alerts recorded for ", "PR #",
    "Could not determine PR base for ref ", "Could not determine previous commit for ref ",
    "GitHub API request: GET ", "GitHub API HTTP ", "GitHub API response: GET "]

/-- No text begins with both. -/
def Apart (head label : String) : Prop := ¬ head.toList <+: label.toList ∧ ¬ label.toList <+: head.toList

instance (head label : String) : Decidable (Apart head label) :=
  inferInstanceAs (Decidable (¬ head.toList <+: label.toList ∧ ¬ label.toList <+: head.toList))

/-- None of these lines can begin with the label. -/
def Clear (label : String) : Prop := ∀ head ∈ fixedHeads, Apart head label

instance (label : String) : Decidable (Clear label) :=
  inferInstanceAs (Decidable (∀ head ∈ fixedHeads, Apart head label))

variable {label : String}

/-- Of two beginnings of one text, one is a beginning of the other. -/
theorem Apart.not_labelled {head : String} (h : Apart head label) (rest : String) :
    ¬ Labelled label (head ++ rest) := by
  intro hlabel
  have hself : head.toList <+: (head ++ rest).toList := labelled_append head rest
  rcases Nat.le_total head.toList.length label.toList.length with hle | hle
  · exact h.1 (List.prefix_of_prefix_length_le hself hlabel hle)
  · exact h.2 (List.prefix_of_prefix_length_le hlabel hself hle)

theorem Apart.filter_singleton {head : String} (h : Apart head label) (rest : String) :
    [head ++ rest].filter (Labelled label ·) = [] :=
  List.filter_cons_of_neg ((not_congr decide_eq_true_iff).2 (h.not_labelled rest))

theorem Clear.linesWith_record (h : Clear label) {head : String} (hhead : head ∈ fixedHeads) (rest : String) :
    linesWith label ((record (head ++ rest)).events.map .note) = [] :=
  (h head hhead).filter_singleton rest

/-- Nothing is seen of a run that writes such a line and comes to an end. -/
theorem Clear.linesWith_last {α : Type} (h : Clear label) {head : String} (hhead : head ∈ fixedHeads) (rest : String)
    (a : α) :
    linesWith label ((liftM (record (head ++ rest)) : Traced Event Unit) >>= fun _ => pure a).events = [] := by
  rw [Traced.bind_events, linesWith_append, events_noted, h.linesWith_record hhead]
  rfl

/-! ## Lines about what is listed -/

def apiLabel : String := "Unknown API alert location: "

/-- The line about a raw object without a usable location. -/
def unlocatedLine (raw : Json) : String := Note.snippet noLocationLabel (locationSnippet raw)

/-- The lines about those of the raw objects that have none. -/
def unlocatedLines (items : List Json) : List String :=
  (items.filter fun raw => !(plainAlertOf raw).hasLocation).map unlocatedLine

theorem unlocatedLine_eq (raw : Json) : unlocatedLine raw =
    apiLabel ++ String.ofList ((locationSnippet raw).compact.toList.take Note.snippetLimit) := rfl

theorem unlocatedLines_append (xs ys : List Json) :
    unlocatedLines (xs ++ ys) = unlocatedLines xs ++ unlocatedLines ys := by
  rw [unlocatedLines, List.filter_append, List.map_append]
  rfl

theorem filter_unlocatedLines (items : List Json) :
    (unlocatedLines items).filter (Labelled apiLabel ·) = unlocatedLines items := by
  refine List.filter_eq_self.2 fun line hline => ?_
  obtain ⟨raw, -, rfl⟩ := List.mem_map.1 hline
  exact decide_eq_true (labelled_append apiLabel _)

theorem filter_unlocatedLines_of_apart (h : Apart apiLabel label) (items : List Json) :
    (unlocatedLines items).filter (Labelled label ·) = [] := by
  refine List.filter_eq_nil_iff.2 fun line hline => ?_
  obtain ⟨raw, -, rfl⟩ := List.mem_map.1 hline
  rw [unlocatedLine_eq, decide_eq_true_iff]
  exact h.not_labelled _

theorem events_alertOf (raw : Json) : (alertOf raw).events = (unlocatedLines [raw]).map .line := by
  rw [alertOf, unlocatedLines]
  cases h : (plainAlertOf raw).hasLocation <;> simp [h, unlocatedLine, recordSnippet, Traced.tell]

theorem events_alertsOf (items : List Json) : (alertsOf items).events = (unlocatedLines items).map .line := by
  induction items with
  | nil => rfl
  | cons raw more ih =>
    rw [alertsOf, Traced.bind_events, Traced.bind_events, ih, events_alertOf, Traced.pure_events, List.append_nil,
      ← List.map_append, ← unlocatedLines_append]
    rfl

/-- The raw objects of a listing, if it ends. -/
def itemsAt (s : Service) (ref : Option String) : List Json := (listed? (s.alertAnswers ref)).getD []

/-- The raw objects of the listing of a further ref, if there is one. -/
def furtherItems (s : Service) (target : Option String) : List Json := target.elim [] fun t => itemsAt s (some t)

/-! ## Lines about the ref -/

def malformedLabel : String := "Could not determine PR base/previous commit for ref "

/-- The line about a ref that begins like that of a pull request and is none. -/
def malformedLine (ref : String) : String := malformedLabel ++ ref ++ ": malformed pull request ref"

theorem malformedLine_eq (ref : String) :
    malformedLine ref = malformedLabel ++ (ref ++ ": malformed pull request ref") := String.append_assoc

def malformedLines (ref : String) : List String :=
  match RefKind.of ref with
  | .malformed => [malformedLine ref]
  | _ => []

theorem filter_malformedLines (ref : String) :
    (malformedLines ref).filter (Labelled malformedLabel ·) = malformedLines ref := by
  rw [malformedLines]
  cases RefKind.of ref with
  | plain | pull => rfl
  | malformed =>
    dsimp only
    rw [malformedLine_eq]
    exact List.filter_cons_of_pos (decide_eq_true (labelled_append malformedLabel _))

theorem filter_malformedLines_of_apart (h : Apart malformedLabel label) (ref : String) :
    (malformedLines ref).filter (Labelled label ·) = [] := by
  rw [malformedLines]
  cases RefKind.of ref with
  | plain | pull => rfl
  | malformed =>
    dsimp only
    rw [malformedLine_eq]
    exact h.filter_singleton _

/-- The lines of a comparison that depend on what is listed and on the form of the ref, in order. -/
def remarks (s : Service) (ref : String) : List String :=
  match readAll (s.alertAnswers (some ref)) with
  | .error _ => []
  | .ok xs => unlocatedLines xs ++ match readAll (s.alertAnswers none) with
    | .error _ => []
    | .ok ys => unlocatedLines ys ++ (malformedLines ref ++
        (unlocatedLines (furtherItems s (pullRefs s ref).value.previousCommit) ++
          unlocatedLines (furtherItems s (baseTarget? s ref))))

/-! ## Through the silent service -/

section Pass
variable (s : Service)

theorem linesWith_next (p : Pages) : linesWith label (p.next s.silent).events = [] := by
  rw [Pages.next]
  split
  · rfl
  · rw [Traced.bind_events, linesWith_append, events_attempt]
    split <;> rfl

theorem linesWith_drain (budget : Nat) (p : Pages) : linesWith label (trace (p.drain s.silent budget)) = [] := by
  induction budget generalizing p with
  | zero => rfl
  | succ budget ih =>
    rw [Pages.drain, linesWith_bind_traced, linesWith_next]
    generalize (p.next s.silent).value = x
    rcases x with ⟨_ | (e | items), p'⟩
    · rfl
    · rfl
    · show [] ++ linesWith label (trace (p'.drain s.silent budget >>= _)) = []
      rw [linesWith_bind, ih p']
      cases result (p'.drain s.silent budget) <;> rfl

theorem linesWith_decoded {α : Type} (decode : Decoder α) (j : Json) :
    linesWith label (trace (decoded decode j)) = [] := by
  unfold decoded
  cases decode j <;> rfl

theorem linesWith_commitsFrom (number budget page : Nat) :
    linesWith label (trace (commitsFrom s.silent number budget page)) = [] := by
  induction budget generalizing page with
  | zero => rfl
  | succ budget ih =>
    rw [commitsFrom, linesWith_bind]
    cases result (askCommits s.silent number page) with
    | error e => rfl
    | ok j =>
      show [] ++ linesWith label (trace (decoded commits j >>= _)) = []
      rw [linesWith_bind, linesWith_decoded]
      cases result (decoded commits j) with
      | error e => rfl
      | ok shas =>
        dsimp only
        split
        · rfl
        · rw [linesWith_bind, ih (page + 1)]
          cases result (commitsFrom s.silent number budget (page + 1)) <;> rfl

variable (h : Clear label)

include h

/-- A listing that has been read leaves the lines about its raw objects, one that has not leaves none. -/
theorem linesWith_fetchSet (ref : Option String) (name : String) :
    linesWith label (trace (fetchSet s.silent ref name)) =
      (unlocatedLines (itemsAt s ref)).filter (Labelled label ·) := by
  have hfetched := h.linesWith_record (show "Fetched " ∈ fixedHeads by simp [fixedHeads])
  have halerts := h.linesWith_record (show "Alerts for " ∈ fixedHeads by simp [fixedHeads])
  have hlisting : linesWith label (trace (listing s.silent ref)) = [] := linesWith_drain s _ _
  rw [fetchSet, linesWith_bind, hlisting, result_listing, itemsAt, listed?, Service.alertAnswers_silent]
  cases readAll (s.alertAnswers ref) with
  | error e => rfl
  | ok items =>
    simp only [linesWith_bind_noted, String.append_assoc, hfetched, halerts, events_alertsOf, linesWith_lines]
    exact List.append_nil _

theorem linesWith_secondaryIf (subject : AlertSet) (name : String) (target : Option String) :
    linesWith label (secondaryIf s.silent subject name target).events =
      (unlocatedLines (furtherItems s target)).filter (Labelled label ·) := by
  cases target with
  | none => rfl
  | some t =>
    rw [secondaryIf, secondary, Traced.bind_events, linesWith_append, events_attempt, linesWith_fetchSet s h]
    refine (congrArg ((unlocatedLines (itemsAt s (some t))).filter (Labelled label ·) ++ ·) ?_).trans
      (List.append_nil _)
    simp only [String.append_assoc]
    split
    · exact h.linesWith_last (by simp [fixedHeads]) _ _
    · split
      · exact h.linesWith_last (by simp [fixedHeads]) _ _
      · rfl

theorem linesWith_pullBaseOf (ref : String) (number : Nat) :
    linesWith label (pullBaseOf s.silent ref number).events = [] := by
  have hasked : linesWith label (trace (askPull s.silent number >>= decoded pullBase)) = [] := by
    rw [linesWith_bind]
    cases result (askPull s.silent number) with
    | error e => rfl
    | ok j => exact linesWith_decoded pullBase j
  rw [pullBaseOf, Traced.bind_events, linesWith_append, events_attempt, hasked]
  simp only [String.append_assoc]
  split
  · rfl
  · exact h.linesWith_last (by simp [fixedHeads]) _ _

theorem linesWith_pullCommits (number : Nat) : linesWith label (trace (pullCommits s.silent number)) = [] := by
  have hcount := h.linesWith_record (show "PR #" ∈ fixedHeads by simp [fixedHeads])
  rw [pullCommits, linesWith_bind, linesWith_commitsFrom]
  cases result (commitsFrom s.silent number Pages.lastPage 1) with
  | error e => rfl
  | ok shas =>
    simp only [linesWith_bind_noted, String.append_assoc, hcount]
    rfl

theorem linesWith_previousCommitOf (ref : String) (number : Nat) :
    linesWith label (previousCommitOf s.silent ref number).events = [] := by
  rw [previousCommitOf, Traced.bind_events, linesWith_append, events_attempt, linesWith_pullCommits s h]
  simp only [String.append_assoc]
  split
  · split
    · rfl
    · exact h.linesWith_last (by simp [fixedHeads]) _ _
  · exact h.linesWith_last (by simp [fixedHeads]) _ _

theorem linesWith_pullRefs (ref : String) :
    linesWith label (pullRefs s.silent ref).events = (malformedLines ref).filter (Labelled label ·) := by
  rw [pullRefs, malformedLines]
  cases RefKind.of ref with
  | plain => rfl
  | malformed =>
    dsimp only
    rw [Traced.bind_events, linesWith_append, events_noted, linesWith_record, Traced.pure_events, linesWith_nil,
      List.append_nil]
    rfl
  | pull number =>
    dsimp only
    rw [Traced.bind_events, linesWith_append, linesWith_pullBaseOf s h, Traced.bind_events, linesWith_append,
      linesWith_previousCommitOf s h]
    rfl

/-! ## The comparison -/

/-- With a clear label, nothing else is seen of a comparison. -/
theorem linesWith_compare (ref : String) :
    linesWith label (trace (compare s.silent ref)) = (remarks s ref).filter (Labelled label ·) := by
  have hmatched := h.linesWith_record (show "Matched: " ∈ fixedHeads by simp [fixedHeads])
  have hstart (text : String) : linesWith label ((info text).events.map .note) = [] := rfl
  rw [compare, linesWith_bind_noted, hstart, List.nil_append, linesWith_bind, linesWith_fetchSet s h, result_fetchSet,
    Service.alertAnswers_silent, itemsAt, listed?, remarks]
  cases readAll (s.alertAnswers (some ref)) with
  | error e => rfl
  | ok xs =>
    dsimp only
    rw [List.filter_append]
    refine congrArg ((unlocatedLines xs).filter (Labelled label ·) ++ ·) ?_
    show linesWith label (trace (_ >>= _)) = _
    rw [linesWith_bind, linesWith_fetchSet s h, result_fetchSet, Service.alertAnswers_silent, itemsAt, listed?]
    cases readAll (s.alertAnswers none) with
    | error e => rfl
    | ok ys =>
      dsimp only
      rw [List.filter_append]
      refine congrArg ((unlocatedLines ys).filter (Labelled label ·) ++ ·) ?_
      show linesWith label (trace (_ >>= _)) = _
      simp only [linesWith_bind_noted, linesWith_bind_traced, hmatched, linesWith_pullRefs s h,
        linesWith_secondaryIf s h, value_pullRefs_silent, List.filter_append, List.nil_append, baseTarget?, trace_pure,
        linesWith_nil, List.append_nil]

end Pass

/-! ## Through a client -/

/-- Notes of answers without the label do not show. -/
theorem linesWith_withNotes {s : Service} (hs : ∀ c, linesWith label ((s.notes c).map .note) = []) (es : List Event) :
    linesWith label (withNotes s es) = linesWith label es := by
  induction es with
  | nil => rfl
  | cons e es ih =>
    have hfirst : linesWith label (e.answered s) = linesWith label [e] := by
      cases e with
      | call c =>
        rw [Event.answered, ← List.singleton_append, linesWith_append, hs c, List.append_nil]
      | connect | note => rfl
    rw [← List.singleton_append (x := e), withNotes_append, linesWith_append, linesWith_append, ih, ← hfirst]
    rw [withNotes, List.flatMap_singleton]

section Client
variable {α β : Type} (c : Client)

theorem linesWith_notes_bind (r : ExceptT Failure (Traced Note) α) (f : α → ExceptT Failure (Traced Note) β) :
    linesWith label ((trace (r >>= f)).map .note) = linesWith label ((trace r).map .note) ++
      (match result r with | .ok a => linesWith label ((trace (f a)).map .note) | .error _ => []) := by
  rw [trace_bind, List.map_append, linesWith_append]
  cases result r <;> rfl

theorem linesWith_sendRequest (r : Http.Request) : linesWith label ((trace (c.sendRequest r)).map .note) = [] := by
  rw [Client.sendRequest]
  cases Http.check r with
  | error e => rfl
  | ok r =>
    dsimp only
    rw [trace_bind_traced]
    cases c.transport r <;> rfl

variable (h : Clear label)

include h

theorem linesWith_getJson (path : String) (query : List (String × String)) :
    linesWith label ((trace (c.getJson path query)).map .note) = [] := by
  have hrequest := h.linesWith_record (show "GitHub API request: GET " ∈ fixedHeads by simp [fixedHeads])
  have hrefused := h.linesWith_record (show "GitHub API HTTP " ∈ fixedHeads by simp [fixedHeads])
  have hresponse := h.linesWith_record (show "GitHub API response: GET " ∈ fixedHeads by simp [fixedHeads])
  unfold Client.getJson
  simp only [String.append_assoc, trace_bind_traced, List.map_append, linesWith_append, hrequest, List.nil_append,
    linesWith_notes_bind, linesWith_sendRequest]
  cases result (c.sendRequest (c.request path query)) with
  | error e => rfl
  | ok response =>
    dsimp only
    split
    · simp only [trace_bind_traced, List.map_append, linesWith_append, hrefused]
      rfl
    · simp only [trace_bind_traced, List.map_append, linesWith_append, hresponse]
      split
      · rfl
      · split <;> rfl

theorem linesWith_notes_service (repo : Repository) (q : Call) :
    linesWith label (((c.service repo).notes q).map .note) = [] := by
  cases q with
  | alerts ref page =>
    show linesWith label ((trace (c.alertPage repo ref page)).map .note) = []
    rw [Client.alertPage, linesWith_notes_bind, linesWith_getJson c h]
    cases result (c.getJson (Client.repositoryPath repo ++ "/code-scanning/alerts") (Client.alertQuery ref page)) with
    | error e => rfl
    | ok j => cases j <;> rfl
  | pull number => exact linesWith_getJson c h _ _
  | commits number page => exact linesWith_getJson c h _ _

theorem linesWith_compare_client (repo : Repository) (ref : String) :
    linesWith label (trace (compare (c.service repo) ref)) =
      linesWith label (trace (compare (c.service repo).silent ref)) := by
  rw [trace_compare_silent, linesWith_withNotes (linesWith_notes_service c h repo)]

end Client

end Remote

end ScanDelta

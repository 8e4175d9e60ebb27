import ScanDelta.Command.Run
import ScanDelta.Proofs.Command.Delivery
import ScanDelta.Proofs.Journal
import ScanDelta.Proofs.Reconcile

/-!
# What a check changes

* `engineRun`, `reconciled`, `logPath`, `afterLog` : the run of the engine in a check, what it comes to, the file of the
  log, and the disk on which the outcome is delivered;
* `closing`, `carryOut_eq` : a check is its run of the engine, and what follows from it;
* `runCheck_of_error`, `runCheck_of_ok` : a check is not begun without a plan, and carried out with one;
* `carryOut_of_error`, `carryOut_of_ok` : the two ways a check can go;
* `grows_runCheck` : a check leaves directories and links as they are, and files in their places;
* `Accounts`, `accounts_of_conclude` : what a check has done with its deliveries;
* `check_changes_its_files` : which files a check changes, how, and its exit status.
-/

set_option autoImplicit false

namespace ScanDelta.Command

open Disk

/-- The notes among some events. -/
def notesOf (es : List Remote.Event) : List Note := es.filterMap Remote.Event.note?

section Check
variable (s : Surroundings) (d : Disk) (p : Plan)

/-! ## The parts of a check -/

/-- The run of the engine in a check; it begins when the log is open. -/
def engineRun : Remote.Run Outcome :=
  Reconcile.run (Reconcile.overHttp s.transport p.settings.apiUrl) (Journal.openAt s.stamp d p.logPath).1 p.settings

/-- What the reconciliation comes to. -/
def reconciled : Except Failure Outcome := result (engineRun s d p)

/-- The file of the log, unless it could not be opened. -/
def logPath : Option String := (Journal.openAt s.stamp d p.logPath).2.value.path

/-- The disk when the log tells of these notes. -/
def loggedDisk (stamp : String) (notes : List Note) : Disk :=
  (Journal.openAt stamp d p.logPath).2.value.appendAll stamp (Journal.openAt stamp d p.logPath).1 notes

/-- The disk when the reconciliation is over and the log tells of it. -/
def afterLog : Disk := loggedDisk d p s.stamp (notesOf (trace (engineRun s d p)))

/-- A log changes its own file at most. -/
theorem changesAt_loggedDisk (stamp : String) (notes : List Note) :
    ChangesAt [p.logPath] d (loggedDisk d p stamp notes) := by
  have hopen := Journal.changesAt_openAt stamp d p.logPath
  have hpath := Journal.path_openAt stamp d p.logPath
  have hlines := Journal.changesAt_appendAll hpath stamp (Journal.openAt stamp d p.logPath).1 notes
  exact (hopen.trans hlines).mono (by simp)

theorem changesAt_afterLog : ChangesAt [p.logPath] d (afterLog s d p) := changesAt_loggedDisk d p s.stamp _

variable (a : CheckArguments) (notes : List Note)

/-- The end of a check that opened its log and ran the engine. -/
def closing (stamp : String) (run : Traced Remote.Event (Except Failure Outcome)) : Ending :=
  let opening := (Journal.openAt stamp d p.logPath).2
  let start := notes ++ opening.events ++ (info (programName ++ " v" ++ version)).events
  match run.value with
  | .error f =>
    let during := notesOf run.events ++ failureNotes f
    ⟨loggedDisk d p stamp during, "", start ++ during, some (.failure f)⟩
  | .ok o =>
    conclude a p opening.value.path (loggedDisk d p stamp (notesOf run.events)) (start ++ notesOf run.events) o

theorem carryOut_eq : carryOut s d a p notes = closing d p a notes s.stamp (engineRun s d p).run := rfl

theorem carryOut_of_error {f : Failure} (h : reconciled s d p = .error f) :
    (carryOut s d a p notes).trouble = some (.failure f) ∧
      ChangesAt [p.logPath] d (carryOut s d a p notes).disk := by
  have hvalue : (engineRun s d p).run.value = .error f := h
  rw [carryOut_eq, closing, hvalue]
  exact ⟨rfl, changesAt_loggedDisk d p s.stamp _⟩

theorem carryOut_of_ok {o : Outcome} (h : reconciled s d p = .ok o) : ∃ notes',
    carryOut s d a p notes = conclude a p (logPath s d p) (afterLog s d p) notes' o := by
  have hvalue : (engineRun s d p).run.value = .ok o := h
  rw [carryOut_eq, closing, hvalue]
  exact ⟨_, rfl⟩

variable {s d a}

theorem runCheck_of_error {f : Failure} (h : planned a s.environment d = .error f) :
    runCheck s d a = ⟨d, "", (Plan.configuration a d).events, some (.failure f)⟩ := by
  rw [runCheck, h]

theorem runCheck_of_ok {p : Plan} (h : planned a s.environment d = .ok p) :
    runCheck s d a = carryOut s d a p (Plan.configuration a d).events := by
  rw [runCheck, h]

variable (s d a)

/-- The format of what is printed bears on nothing else. -/
theorem carryOut_format (format : Format) :
    (carryOut s d { a with format := format } p notes).disk = (carryOut s d a p notes).disk ∧
      (carryOut s d { a with format := format } p notes).trouble = (carryOut s d a p notes).trouble ∧
      (carryOut s d { a with format := format } p notes).notes = (carryOut s d a p notes).notes := by
  rw [carryOut_eq, carryOut_eq, closing, closing]
  cases (engineRun s d p).run.value with
  | error f => exact ⟨rfl, rfl, rfl⟩
  | ok o => exact ⟨rfl, rfl, rfl⟩

end Check

/-! ## Deliveries of a check -/

/-- What a check has done: some deliveries were made, the others failed; the files of the former and the one of the log
are all that it has changed. The exit status tells whether one failed. -/
structure Accounts (d start : Disk) (log : String) (e : Ending) (made failed : List Delivery) : Prop where
  delivered : ∀ x ∈ made, x.Made d e.disk
  kept : ∀ x ∈ failed, Kept d e.disk x.path
  changes : ChangesAt (log :: made.map Delivery.path) d e.disk
  trouble : Failing start made failed e.trouble
  status : e.status = if failed = [] then 0 else 2

theorem Failing.status {start : Disk} {made failed : List Delivery} {e : Ending}
    (h : Failing start made failed e.trouble) : e.status = if failed = [] then 0 else 2 := by
  rw [Ending.status]
  cases ht : e.trouble with
  | none =>
    rw [ht] at h
    cases h
    rfl
  | some t =>
    rw [ht] at h
    cases h
    rfl

/-- A check accounts for its deliveries, and keeps the files that it delivers nothing to. -/
theorem accounts_of_conclude {s : Surroundings} {d : Disk} {a : CheckArguments} {p : Plan} {e : Ending} {o : Outcome}
    {notes : List Note} (unused : List String) (he : e = conclude a p (logPath s d p) (afterLog s d p) notes o)
    (hperm : ((deliveries a p (logPath s d p) o).map Delivery.path ++ unused).Perm
      (p.reportPath :: a.stepSummary.toList ++ a.outputFile.toList))
    (hapart : Apart e.disk (p.logPath :: p.reportPath :: a.stepSummary.toList ++ a.outputFile.toList)) :
    (∃ made failed, made ++ failed = deliveries a p (logPath s d p) o ∧
      Accounts d (afterLog s d p) p.logPath e made failed) ∧
    ∀ q ∈ unused, Kept d e.disk q := by
  have hdisk : e.disk = (deliver (afterLog s d p) (deliveries a p (logPath s d p) o)).disk := by rw [he, conclude]
  have htrouble : e.trouble = (deliver (afterLog s d p) (deliveries a p (logPath s d p) o)).trouble := by
    rw [he, conclude]
  obtain ⟨made, failed, hall, hfailing, hchanges, hmade⟩ :=
    delivering_deliver (afterLog s d p) (deliveries a p (logPath s d p) o)
  rw [← hdisk] at hchanges hmade
  rw [← htrouble] at hfailing
  have hlog := changesAt_afterLog s d p
  have hboth := hlog.trans hchanges
  -- the files of the check, those changed before those kept
  have hfiles : Apart e.disk ((p.logPath :: made.map Delivery.path) ++ (failed.map Delivery.path ++ unused)) := by
    refine hapart.perm ?_
    rw [← hall, List.map_append, List.append_assoc] at hperm
    exact (hperm.cons p.logPath).symm
  have hkept := hfiles.kept hboth
  obtain ⟨hfirst, hrest⟩ := List.pairwise_cons.1 (List.pairwise_append.1 hfiles).1
  refine ⟨⟨made, failed, hall, ?_, ?_, hboth, hfailing, hfailing.status⟩, ?_⟩
  · intro x hx
    refine (hmade hrest x hx).before hlog hchanges.grows ?_
    intro q hq
    rw [List.mem_singleton.1 hq]
    exact hfirst x.path (List.mem_map_of_mem hx)
  · intro x hx
    exact hkept x.path (List.mem_append_left _ (List.mem_map_of_mem hx))
  · intro q hq
    exact hkept q (List.mem_append_right _ hq)

/-- Whatever a check does, directories and links stay as they were, and files stay files. -/
theorem grows_runCheck (s : Surroundings) (d : Disk) (a : CheckArguments) : Grows d (runCheck s d a).disk := by
  cases hp : planned a s.environment d with
  | error f =>
    rw [runCheck_of_error hp]
    exact .refl d
  | ok p =>
    rw [runCheck_of_ok hp]
    cases h : reconciled s d p with
    | error f => exact (carryOut_of_error s d p a _ h).2.grows
    | ok o =>
      obtain ⟨notes, hend⟩ := carryOut_of_ok s d p a (Plan.configuration a d).events h
      obtain ⟨made, failed, hds⟩ := delivering_deliver (afterLog s d p) (deliveries a p (logPath s d p) o)
      rw [hend]
      exact (changesAt_afterLog s d p).grows.trans hds.changes.grows

/-! ## What is delivered -/

/-- The outputs of a check that has nothing to report. -/
def nothingLines (log : Option String) : String :=
  "new_alerts=false\nalert_count=0\nfixed_alerts=false\nfixed_count=0\ncomment_path=\nlog_path=" ++ log.getD "" ++ "\n"

theorem entries_nothing (log : Option String) : Report.StepOutputs.entries ⟨[], [], none, log⟩ =
    [("new_alerts", "false"), ("alert_count", "0"), ("fixed_alerts", "false"), ("fixed_count", "0"),
      ("comment_path", ""), ("log_path", log.getD "")] := by
  have hzero : natText 0 = "0" := by decide
  simp [Report.StepOutputs.entries, Report.StepOutputs.boolText, hzero]

theorem text_nothing (log : Option String) : Report.StepOutputs.text ⟨[], [], none, log⟩ = nothingLines log := by
  unfold Report.StepOutputs.text nothingLines
  rw [entries_nothing]
  simp only [List.map_cons, List.map_nil, String.join_cons, String.join_nil, String.append_empty]
  apply String.toList_injective
  simp

variable (a : CheckArguments) (p : Plan) (log : Option String) {o : Outcome}

theorem deliveries_of_not_reportable (h : o.isReportable = false) :
    deliveries a p log o = (a.outputFile.map fun q => Delivery.outputs q (nothingLines log)).toList := by
  rw [deliveries, h, ← text_nothing]
  rfl

theorem reportText_eq_elim (o : Outcome) : reportText p o =
    o.comparison?.elim (Report.plain (reportOptions p o) o.newAlerts o.fixedAlerts) (Report.full (reportOptions p o)) := by
  rw [reportText]
  cases o.comparison? <;> rfl

theorem deliveries_of_reportable (h : o.isReportable = true) :
    deliveries a p log o =
      .report p.reportPath (o.comparison?.elim (Report.plain (reportOptions p o) o.newAlerts o.fixedAlerts)
          (Report.full (reportOptions p o))) ::
        (if o.newAlerts = [] ∧ o.fixedAlerts = [] then [] else (a.stepSummary.map fun q =>
          Delivery.summary q (Report.stepSummary (reportOptions p o) o.newAlerts o.fixedAlerts)).toList) ++
        (a.outputFile.map fun q => Delivery.outputs q
          (Report.StepOutputs.text ⟨o.newAlerts, o.fixedAlerts, some p.reportPath, log⟩)).toList := by
  rw [deliveries, if_pos h, summaryDelivery, outputsDelivery, reportText_eq_elim]
  simp only [Bool.and_eq_true, List.isEmpty_iff]

theorem map_path_toList (q : Option String) (deliver : String → Delivery) (h : ∀ r, (deliver r).path = r) :
    (q.map deliver).toList.map Delivery.path = q.toList := by
  cases q with
  | none => rfl
  | some r => exact congrArg ([·]) (h r)

/-! ## The files of a check -/

/-- **A check changes its files as it says, and no others.** A reconciliation that fails leaves its trace in the log
alone. One with nothing to report adds to the outputs for later steps that there is nothing; otherwise the report is
replaced, by the full one of a comparison and else by the plain one, the summary extended if alerts are new or fixed, and
the outputs are extended, up to the first of these that fails. The exit status tells of a failure. The format bears on
what is printed only. -/
theorem check_changes_its_files (s : Surroundings) (d : Disk) (a : CheckArguments) :
    (∀ f, planned a s.environment d = .error f →
      (runCheck s d a).status = 2 ∧ (runCheck s d a).disk = d) ∧
    (∀ p, planned a s.environment d = .ok p →
      Apart (runCheck s d a).disk (p.logPath :: p.reportPath :: a.stepSummary.toList ++ a.outputFile.toList) →
      (∀ f, reconciled s d p = .error f →
        (runCheck s d a).status = 2 ∧ (runCheck s d a).trouble = some (.failure f) ∧
          ChangesAt [p.logPath] d (runCheck s d a).disk) ∧
      (∀ o, reconciled s d p = .ok o → o.isReportable = false →
        (∃ made failed,
          made ++ failed =
            (a.outputFile.map fun q => Delivery.outputs q (nothingLines (logPath s d p))).toList ∧
          Accounts d (afterLog s d p) p.logPath (runCheck s d a) made failed) ∧
        ∀ q ∈ p.reportPath :: a.stepSummary.toList, Kept d (runCheck s d a).disk q) ∧
      (∀ o, reconciled s d p = .ok o → o.isReportable = true →
        (∃ (options : Report.Options) (made failed : List Delivery),
          options = ⟨p.maxResults, o.appliedThreshold, p.settings.repository.map Repository.text, p.toolLabel⟩ ∧
          made ++ failed =
            .report p.reportPath
                (o.comparison?.elim (Report.plain options o.newAlerts o.fixedAlerts) (Report.full options)) ::
              (if o.newAlerts = [] ∧ o.fixedAlerts = [] then [] else (a.stepSummary.map fun q =>
                Delivery.summary q (Report.stepSummary options o.newAlerts o.fixedAlerts)).toList) ++
              (a.outputFile.map fun q => Delivery.outputs q (Report.StepOutputs.text
                ⟨o.newAlerts, o.fixedAlerts, some p.reportPath, logPath s d p⟩)).toList ∧
          Accounts d (afterLog s d p) p.logPath (runCheck s d a) made failed) ∧
        (o.newAlerts = [] → o.fixedAlerts = [] → ∀ q ∈ a.stepSummary, Kept d (runCheck s d a).disk q))) ∧
    (∀ format,
      (runCheck s d { a with format := format }).disk = (runCheck s d a).disk ∧
        (runCheck s d { a with format := format }).trouble = (runCheck s d a).trouble ∧
        (runCheck s d { a with format := format }).notes = (runCheck s d a).notes) := by
  refine ⟨?_, ?_, ?_⟩
  · intro f hf
    rw [runCheck_of_error hf]
    exact ⟨rfl, rfl⟩
  · intro p hp hapart
    have hrun := runCheck_of_ok hp
    have hends : ∀ {o}, reconciled s d p = .ok o → ∃ notes,
        runCheck s d a = conclude a p (logPath s d p) (afterLog s d p) notes o := by
      intro o ho
      rw [hrun]
      exact carryOut_of_ok s d p a _ ho
    have houtputs := fun text => map_path_toList a.outputFile (fun q => .outputs q text) fun _ => rfl
    have hsummary := fun text => map_path_toList a.stepSummary (fun q => .summary q text) fun _ => rfl
    refine ⟨?_, ?_, ?_⟩
    · intro f hf
      obtain ⟨htrouble, hchanges⟩ := carryOut_of_error s d p a (Plan.configuration a d).events hf
      rw [hrun, Ending.status, htrouble]
      exact ⟨rfl, rfl, hchanges⟩
    · intro o ho hreport
      obtain ⟨notes, hend⟩ := hends ho
      have hds := deliveries_of_not_reportable a p (logPath s d p) hreport
      rw [← hds]
      refine accounts_of_conclude (p.reportPath :: a.stepSummary.toList) hend ?_ hapart
      rw [hds, houtputs]
      exact List.perm_append_comm
    · intro o ho hreport
      obtain ⟨notes, hend⟩ := hends ho
      have hds := deliveries_of_reportable a p (logPath s d p) hreport
      by_cases hnone : o.newAlerts = [] ∧ o.fixedAlerts = []
      · have hfiles := accounts_of_conclude a.stepSummary.toList hend ?_ hapart
        · obtain ⟨⟨made, failed, hall, haccounts⟩, hkept⟩ := hfiles
          exact ⟨⟨_, made, failed, rfl, hall.trans hds, haccounts⟩, fun _ _ q hq => hkept q (Option.mem_toList.2 hq)⟩
        · rw [hds, if_pos hnone]
          simp only [List.cons_append, List.nil_append, List.map_cons, houtputs]
          exact List.perm_append_comm.cons p.reportPath
      · have hfiles := accounts_of_conclude [] hend ?_ hapart
        · obtain ⟨⟨made, failed, hall, haccounts⟩, -⟩ := hfiles
          exact ⟨⟨_, made, failed, rfl, hall.trans hds, haccounts⟩, fun hnew hfixed => absurd ⟨hnew, hfixed⟩ hnone⟩
        · rw [hds, if_neg hnone]
          simp only [List.cons_append, List.map_cons, List.map_append, hsummary, houtputs, List.append_nil]
          exact List.Perm.refl _
  · intro format
    have hplan : planned { a with format := format } s.environment d = planned a s.environment d := rfl
    cases hp : planned a s.environment d with
    | error f =>
      rw [runCheck_of_error hp, runCheck_of_error (hplan.trans hp)]
      exact ⟨rfl, rfl, rfl⟩
    | ok p =>
      rw [runCheck_of_ok hp, runCheck_of_ok (hplan.trans hp)]
      exact carryOut_format s d p a _ format

/-- A disk with an empty scan, on which every file of a check stands already. -/
def readyDisk : Disk :=
  ⟨.dir [("scan", .file "\x7b\x7d".toUTF8), ("log", .file .empty), ("report", .file .empty),
    ("summary", .file .empty), ("outputs", .file .empty)], []⟩

def readyCheck : CheckArguments where
  sarif := "/scan"
  ref := none
  owner := none
  repo := none
  repository := none
  token := none
  minLevel := none
  maxResults := none
  logPath := some "/log"
  reportPath := some "/report"
  format := .json
  apiUrl := ""
  outputFile := some "/outputs"
  stepSummary := some "/summary"
  noConfig := true

def readyPlan : Plan where
  settings := ⟨"/scan", none, .warning, none, none, ""⟩
  maxResults := 20
  toolLabel := "CodeQL"
  reportPath := "/report"
  logPath := "/log"

def quietPlace : Surroundings := ⟨⟨[]⟩, Http.offline, ""⟩

theorem planned_readyCheck : planned readyCheck quietPlace.environment readyDisk = .ok readyPlan := rfl

/-- The files of the check are there, each by its own name. -/
theorem files_readyDisk : ∀ p ∈ ["/log", "/report", "/summary", "/outputs"],
    Plain p ∧ ∃ bytes, readyDisk.fileAt (names p) = some bytes := by
  have hnames : names "/log" = ["log"] ∧ names "/report" = ["report"] ∧ names "/summary" = ["summary"] ∧
      names "/outputs" = ["outputs"] := by decide
  simp only [List.forall_mem_cons, hnames]
  exact ⟨⟨by decide, .empty, rfl⟩, ⟨by decide, .empty, rfl⟩, ⟨by decide, .empty, rfl⟩, ⟨by decide, .empty, rfl⟩, nofun⟩

theorem reconciled_readyCheck :
    reconciled quietPlace readyDisk readyPlan = .ok ⟨.warning, .baseline .empty .empty⟩ := by
  have hnames : names "/scan" = ["scan"] := by decide
  have hlog : names "/log" = ["log"] := by decide
  have hopen := Journal.changesAt_openAt "" readyDisk "/log"
  have hscan : (Journal.openAt "" readyDisk "/log").1.fileAt (names "/scan") = some "\x7b\x7d".toUTF8 := by
    rw [hnames, hopen.others]
    · rfl
    · intro p hp hleads
      rw [List.mem_singleton.1 hp] at hleads
      obtain ⟨hplain, bytes, hbytes⟩ := files_readyDisk "/log" List.mem_cons_self
      have hthere := (leads_of_fileAt hplain hbytes).of_grows hopen.grows
      rw [hlog] at hthere
      exact absurd (hleads.unique hthere) (by decide)
  have hload := Sarif.load_of_fileAt (by decide) hscan rfl rfl
  show result (Reconcile.run _ (Journal.openAt "" readyDisk "/log").1 readyPlan.settings) = _
  rw [Reconcile.run_eq, result_bind, Reconcile.result_classify]
  show _ <$> result (Sarif.load _ "/scan") >>= _ = _
  rw [hload]
  rfl

/-- The files can be added to when the log is written. -/
theorem append_afterLog_ready (text : String) :
    ∃ d', (afterLog quietPlace readyDisk readyPlan).append "/outputs" text = .ok d' := by
  have hplain : Plain "/outputs" ∧ ∃ bytes, readyDisk.fileAt (names "/outputs") = some bytes :=
    files_readyDisk "/outputs" (by simp)
  obtain ⟨hplain, bytes, hbytes⟩ := hplain
  have hgrows := (changesAt_afterLog quietPlace readyDisk readyPlan).grows
  obtain ⟨d', happend, -⟩ := append_of_leads ((leads_of_fileAt hplain hbytes).of_grows hgrows) text
  exact ⟨d', happend⟩

theorem check_changes_its_files_ready :
    (runCheck quietPlace readyDisk readyCheck).status = 0 ∧
      (Delivery.outputs "/outputs" (nothingLines (logPath quietPlace readyDisk readyPlan))).Made readyDisk
        (runCheck quietPlace readyDisk readyCheck).disk := by
  have hapart : Apart (runCheck quietPlace readyDisk readyCheck).disk ["/log", "/report", "/summary", "/outputs"] :=
    apart_of_plain (grows_runCheck quietPlace readyDisk readyCheck) files_readyDisk (by decide)
  have hcheck := (check_changes_its_files quietPlace readyDisk readyCheck).2.1 readyPlan planned_readyCheck hapart
  obtain ⟨⟨made, failed, hall, haccounts⟩, -⟩ := hcheck.2.1 _ reconciled_readyCheck rfl
  have hfailing := haccounts.trouble
  cases made with
  | nil =>
    -- the only delivery cannot have failed
    obtain ⟨d', happend⟩ := append_afterLog_ready (nothingLines (logPath quietPlace readyDisk readyPlan))
    subst hall
    generalize (runCheck quietPlace readyDisk readyCheck).trouble = t at hfailing
    cases hfailing with
    | first hwrite => simp [Delivery.write, deliver, happend] at hwrite
  | cons x made =>
    obtain ⟨hx, hrest⟩ := List.cons.inj hall
    obtain ⟨-, hfailed⟩ := List.append_eq_nil_iff.1 hrest
    have hstatus := haccounts.status
    rw [if_pos hfailed] at hstatus
    have hmade := haccounts.delivered x List.mem_cons_self
    rw [hx] at hmade
    exact ⟨hstatus, hmade⟩

end ScanDelta.Command

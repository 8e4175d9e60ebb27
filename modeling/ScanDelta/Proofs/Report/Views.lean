import ScanDelta.Command.Delivery
import ScanDelta.Proofs.Journal.History
import ScanDelta.Proofs.Json.RoundTrip
import ScanDelta.Proofs.Outcome
import ScanDelta.Proofs.Report.Lines
import ScanDelta.Proofs.Report.StepOutputs
import ScanDelta.Proofs.Sarif.Document

/-!
# The views of an outcome

* `Views` : what all views of an outcome share, the note on the threshold and the items for its alerts;
* `ReportTells`, `SummaryTells`, `OutputsTell`, `ConsoleTells` : texts that tell how many alerts there are, with these
  items;
* `reportTells_reportText`, `summaryTells_stepSummary`, `outputsTell_text`, `consoleTells` : the texts made of an outcome
  do;
* `tells_deliveries` : so does whatever a check delivers;
* `views_agree` : all views of the outcome of a run agree.
-/

set_option autoImplicit false

namespace ScanDelta.Command

open Report

/-- The note on the threshold, and the items for the new and the fixed alerts. -/
structure Views where
  note : String
  newItems : List String
  fixedItems : List String

/-! ## What views tell -/

section Tells
variable (v : Views) (p : Plan) (o : Outcome)

/-- What stands in a report before the new alerts: the counts of the further comparisons. -/
def linesBefore : List String := o.comparison?.elim [] overviewLines

/-- What stands in a report after the fixed alerts: the further comparisons and the closing line. -/
def linesAfter : List String :=
  (o.comparison?.elim [] fun c =>
    secondaryLines (reportOptions p o) "the previous PR commit" c.vsPreviousCommit ++
      secondaryLines (reportOptions p o) "the branch point" c.vsBranchPoint) ++
    [closingLine (reportOptions p o)]

/-- The text has a part for the new and one for the fixed alerts, if there are any. The headings tell how many there
are, that of the new ones their highest level. -/
def ReportTells (text : String) : Prop :=
  ∃ newLine fixedLine,
    text = textOf (linesBefore o ++ part newLine v.newItems o.newAlerts ++
      part fixedLine v.fixedItems o.fixedAlerts ++ linesAfter p o) ∧
    numberIn? newLine = some o.newAlerts.length ∧ numberIn? fixedLine = some o.fixedAlerts.length ∧
    (o.newAlerts ≠ [] → ∃ l, IsHighest l o.newAlerts ∧
      newLine = newHeading (reportOptions p o) o.newAlerts ++ v.note ++ " — Highest severity: " ++ l.title)

/-- The text has the same parts, with other lines at their beginning that tell how many there are. -/
def SummaryTells (text : String) : Prop :=
  ∃ newLine fixedLine,
    text = textOf (["## " ++ p.toolLabel ++ " Alerts", ""] ++ part newLine v.newItems o.newAlerts ++
      part fixedLine v.fixedItems o.fixedAlerts) ∧
    numberIn? newLine = some o.newAlerts.length ∧ numberIn? fixedLine = some o.fixedAlerts.length ∧
    newLine = "❌ " ++ natText o.newAlerts.length ++ " new alert" ++ plural o.newAlerts.length ++ v.note ++ "."

/-- The text is made of lines with different keys that tell whether there are new and fixed alerts, and how many. -/
def OutputsTell (text : String) : Prop :=
  ∃ entries : List (String × String),
    text = textOf (entries.map fun e => e.1 ++ "=" ++ e.2) ∧ (entries.map (·.1)).Nodup ∧
    entries.lookup "new_alerts" = some (if o.newAlerts = [] then "false" else "true") ∧
    (entries.lookup "alert_count").bind numberIn? = some o.newAlerts.length ∧
    entries.lookup "fixed_alerts" = some (if o.fixedAlerts = [] then "false" else "true") ∧
    (entries.lookup "fixed_count").bind numberIn? = some o.fixedAlerts.length

/-- The three lines on the console tell how many alerts there are at all levels. -/
def ConsoleTells (lines : List String) : Prop :=
  lines.map numberIn? = [some o.unfilteredNew.length, some o.unfilteredFixed.length, o.matched?.map List.length]

def Delivery.Tells : Delivery → Prop
  | .report _ text => ReportTells v p o text
  | .summary _ text => SummaryTells v p o text
  | .outputs _ text => OutputsTell o text

/-- The views of an outcome. -/
def viewsOf : Views where
  note := thresholdNote o.appliedThreshold
  newItems := bullets newMark p.maxResults o.newAlerts
  fixedItems := bullets fixedMark p.maxResults o.fixedAlerts

end Tells

/-! ## The texts of an outcome -/

section Texts
variable (p : Plan) (o : Outcome)

theorem numberIn?_newHeading (opts : Options) (as : List Alert) (rest : String) :
    numberIn? (newHeading opts as ++ rest) = some as.length := by
  have hline : newHeading opts as ++ rest =
      "## ❌ " ++ natText as.length ++ (" new " ++ (opts.toolLabel ++ (" alert" ++ (plural as.length ++ rest)))) := by
    simp only [newHeading, String.append_assoc]
  rw [hline]
  exact numberIn?_line _ _ (by decide) (by simp) _

theorem numberIn?_fixedHeading (opts : Options) (as : List Alert) (rest : String) :
    numberIn? (fixedHeading opts as ++ rest) = some as.length := by
  have hline : fixedHeading opts as ++ rest =
      "## ✅ " ++ natText as.length ++
        (" " ++ (opts.toolLabel ++ (" alert" ++ (plural as.length ++ (" resolved" ++ rest))))) := by
    simp only [fixedHeading, String.append_assoc]
  rw [hline]
  exact numberIn?_line _ _ (by decide) (by simp) _

/-! ### The report -/

theorem reportText_eq : reportText p o = textOf (linesBefore o ++
    primaryLines (reportOptions p o) o.newAlerts o.fixedAlerts ++ linesAfter p o) := by
  obtain ⟨threshold, findings⟩ := o
  cases findings with
  | baseline filtered unfiltered => exact plain_eq _ _ _
  | remote c =>
    show full _ c = _
    rw [full_eq]
    simp [linesBefore, linesAfter, Outcome.comparison?, fullLines, Outcome.newAlerts, Outcome.fixedAlerts]

theorem reportTells_reportText : ReportTells (viewsOf p o) p o (reportText p o) := by
  refine ⟨newHeading (reportOptions p o) o.newAlerts ++ thresholdNote o.appliedThreshold ++ highestNote o.newAlerts,
    fixedHeading (reportOptions p o) o.fixedAlerts ++ " since the previous run", ?_, ?_, ?_, ?_⟩
  · rw [reportText_eq, primaryLines, sectionLines_eq, sectionLines_eq, ← List.append_assoc]
    rfl
  · rw [String.append_assoc]
    exact numberIn?_newHeading _ _ _
  · exact numberIn?_fixedHeading _ _ _
  · intro hne
    obtain ⟨l, hl, hnote⟩ := exists_isHighest hne
    refine ⟨l, hl, ?_⟩
    rw [hnote, ← String.append_assoc]
    rfl

theorem summaryTells_stepSummary :
    SummaryTells (viewsOf p o) p o (stepSummary (reportOptions p o) o.newAlerts o.fixedAlerts) := by
  refine ⟨"❌ " ++ natText o.newAlerts.length ++ " new alert" ++ plural o.newAlerts.length ++
      thresholdNote o.appliedThreshold ++ ".",
    "✅ " ++ natText o.fixedAlerts.length ++ " alert" ++ plural o.fixedAlerts.length ++
      " resolved since the previous run.", ?_, ?_, ?_, rfl⟩
  · rw [stepSummary, summaryLines_eq, summaryLines_eq]
    rfl
  · have hline := numberIn?_line "❌ " (" new alert" ++ (plural o.newAlerts.length ++
      (thresholdNote o.appliedThreshold ++ "."))) (by decide) (by simp) o.newAlerts.length
    simpa only [String.append_assoc] using hline
  · have hline := numberIn?_line "✅ " (" alert" ++ (plural o.fixedAlerts.length ++ " resolved since the previous run."))
      (by decide) (by simp) o.fixedAlerts.length
    simpa only [String.append_assoc] using hline

/-! ### Outputs and console -/

theorem boolText_isEmpty (as : List Alert) :
    StepOutputs.boolText (!as.isEmpty) = if as = [] then "false" else "true" := by
  cases as <;> rfl

theorem outputsTell_text (reportPath logPath : Option String) :
    OutputsTell o (StepOutputs.text ⟨o.newAlerts, o.fixedAlerts, reportPath, logPath⟩) := by
  refine ⟨StepOutputs.entries ⟨o.newAlerts, o.fixedAlerts, reportPath, logPath⟩, StepOutputs.text_eq _,
    by simp [StepOutputs.entries], ?_, ?_, ?_, ?_⟩
  · rw [← boolText_isEmpty]
    rfl
  · exact numberIn?_natText _
  · rw [← boolText_isEmpty]
    rfl
  · exact numberIn?_natText _

theorem numberIn?_countLine {label : String} (h : Digitless label) (as : List Alert) :
    numberIn? (countLine label as) = some as.length := by
  have hdash : Digitless "- " := by decide
  have hcolon : Digitless ": " := by decide
  rw [countLine]
  refine numberIn?_line _ _ ((hdash.append h).append hcolon) ?_ _
  split <;> simp

theorem consoleTells : ConsoleTells o (consoleLines o) := by
  have hnew : Digitless "New (unfiltered)" := by decide
  have hfixed : Digitless "Fixed (unfiltered)" := by decide
  have hmatched : Digitless "Matched (preexisting)" := by decide
  unfold ConsoleTells consoleLines
  simp only [List.map_cons, List.map_nil, numberIn?_countLine hnew, numberIn?_countLine hfixed]
  cases o.matched? with
  | none => rfl
  | some as =>
    dsimp only
    rw [numberIn?_countLine hmatched]
    rfl

/-! ### Deliveries -/

theorem isReportable_eq_false (h : o.isReportable = false) : o.newAlerts = [] ∧ o.fixedAlerts = [] := by
  simp only [Outcome.isReportable, Bool.or_eq_false_iff, Bool.not_eq_false', List.isEmpty_iff] at h
  exact h.1

/-- Whatever a check delivers of an outcome tells of all its alerts. -/
theorem tells_deliveries (a : CheckArguments) (log : Option String) :
    ∀ x ∈ deliveries a p log o, x.Tells (viewsOf p o) p o := by
  have houtputs : ∀ report, ∀ x ∈ outputsDelivery a ⟨o.newAlerts, o.fixedAlerts, report, log⟩,
      x.Tells (viewsOf p o) p o := by
    intro report x hx
    obtain ⟨path, -, rfl⟩ := Option.map_eq_some_iff.1 (Option.mem_toList.1 hx)
    exact outputsTell_text o report log
  intro x hx
  rw [deliveries] at hx
  split at hx
  · rcases List.mem_append.1 hx with hx | hx
    · rcases List.mem_cons.1 hx with rfl | hx
      · exact reportTells_reportText p o
      · rw [summaryDelivery] at hx
        split at hx
        · cases hx
        · obtain ⟨path, -, rfl⟩ := Option.map_eq_some_iff.1 (Option.mem_toList.1 hx)
          exact summaryTells_stepSummary p o
    · exact houtputs _ x hx
  · rename_i hreport
    obtain ⟨hnew, hfixed⟩ := isReportable_eq_false o (by simpa using hreport)
    refine houtputs none x ?_
    rw [hnew, hfixed]
    exact hx

end Texts

/-! ## Agreement -/

/-- **All views of an outcome agree.** Whatever the limit is, the report, the job summary and the outputs for later
steps tell the same numbers of new and fixed alerts, the first two with the same items, and the report tells the highest
level of the new alerts; so do all deliveries of a check. Of a scan, the new alerts are those at or above the threshold,
as a note says, and the fixed ones are all there are; what was there before is not known. Of a comparison there is no
note, and what is reported is all there is. The console tells the numbers at all levels. -/
theorem views_agree {connect : Reconcile.Connector} {d : Disk} {s : Settings} {o : Outcome}
    (h : result (Reconcile.run connect d s) = .ok o) (p : Plan) :
    ∃ v : Views,
      ItemsFor newMark p.maxResults o.newAlerts v.newItems ∧
      ItemsFor fixedMark p.maxResults o.fixedAlerts v.fixedItems ∧
      ReportTells v p o (reportText p o) ∧
      SummaryTells v p o (stepSummary (reportOptions p o) o.newAlerts o.fixedAlerts) ∧
      (∀ reportPath logPath, OutputsTell o (StepOutputs.text ⟨o.newAlerts, o.fixedAlerts, reportPath, logPath⟩)) ∧
      (∀ (a : CheckArguments) (log : Option String), ∀ x ∈ deliveries a p log o, x.Tells v p o) ∧
      ConsoleTells o (consoleLines o) ∧
      ((∃ filtered unfiltered, o.findings = .baseline filtered unfiltered) →
        v.note = " (level ≥ " ++ s.minLevel.name ++ ")" ∧
        o.newAlerts = o.unfilteredNew.filter (fun a => s.minLevel.rank ≤ a.level.rank) ∧
        (∀ a ∈ o.newAlerts, s.minLevel.rank ≤ a.level.rank) ∧ o.fixedAlerts = o.unfilteredFixed ∧ o.matched? = none) ∧
      ∀ c, o.findings = .remote c →
        v.note = "" ∧ o.unfilteredNew = o.newAlerts ∧ o.unfilteredFixed = o.fixedAlerts ∧
        o.matched? = some c.matched := by
  obtain ⟨hthreshold, hfindings⟩ := Reconcile.outcome_of_run h
  refine ⟨viewsOf p o, itemsFor_bullets digitless_newMark _ _, itemsFor_bullets digitless_fixedMark _ _,
    reportTells_reportText p o, summaryTells_stepSummary p o, outputsTell_text o, tells_deliveries p o,
    consoleTells o, ?_, ?_⟩
  · rintro ⟨filtered, unfiltered, hscan⟩
    rcases hfindings with ⟨b, -, hb⟩ | ⟨service, ref, c, -, hc⟩
    · obtain ⟨threshold, findings⟩ := o
      obtain rfl : threshold = s.minLevel := hthreshold
      obtain rfl : findings = .baseline (b.atThreshold s.minLevel) b := hb
      exact ⟨rfl, rfl, fun a ha => of_decide_eq_true (List.mem_filter.1 ha).2, rfl, rfl⟩
    · rw [hscan] at hc
      cases hc
  · intro c hc
    obtain ⟨threshold, findings⟩ := o
    obtain rfl : findings = .remote c := hc
    exact ⟨rfl, rfl, rfl, rfl⟩

/-- A scan with new alerts at three levels, and a fixed one. -/
def mixedScan : Json :=
  let found (level : String) : Json := .obj [("baselineState", .str "new"), ("level", .str level)]
  .obj [("runs", .arr [.obj [("results", .arr [found "error", found "note", found "warning",
    .obj [("baselineState", .str "absent")]])]])]

def mixedDisk : Disk := ⟨.dir [("scan", .file (Json.pretty mixedScan).toUTF8)], []⟩

/-- One item for each part of a report. -/
def mixedPlan : Plan where
  settings := ⟨"/scan", none, .warning, none, none, ""⟩
  maxResults := 1
  toolLabel := "CodeQL"
  reportPath := "/report"
  logPath := "/log"

def mixedOutcome : Outcome :=
  let b := (Baseline.collect mixedScan).value
  ⟨.warning, .baseline (b.atThreshold .warning) b⟩

theorem plain_mixedScan : Json.Plain Json.greatestDepth mixedScan := by
  simp [mixedScan, Json.greatestDepth, Json.Plain]

theorem result_mixed :
    result (Reconcile.run (Reconcile.overHttp Http.offline "") mixedDisk mixedPlan.settings) = .ok mixedOutcome := by
  have hnames : Disk.names "/scan" = ["scan"] := by decide
  have hfile : mixedDisk.fileAt (Disk.names "/scan") = some (Json.pretty mixedScan).toUTF8 := by
    rw [hnames]
    rfl
  have hload := Sarif.load_of_fileAt (by decide) hfile (Disk.fromUTF8?_toUTF8 _) (Json.parse_pretty plain_mixedScan)
  rw [Reconcile.run_eq, result_bind, Reconcile.result_classify]
  show _ <$> result (Sarif.load _ "/scan") >>= _ = _
  rw [hload]
  rfl

theorem views_agree_mixed :
    result (Reconcile.run (Reconcile.overHttp Http.offline "") mixedDisk mixedPlan.settings) = .ok mixedOutcome ∧
      mixedOutcome.newAlerts.map Alert.level = [.error, .warning] ∧ mixedOutcome.unfilteredNew.length = 3 ∧
      ∃ v : Views, ItemsFor newMark 1 mixedOutcome.newAlerts v.newItems ∧
        ReportTells v mixedPlan mixedOutcome (reportText mixedPlan mixedOutcome) ∧ v.note = " (level ≥ warning)" := by
  obtain ⟨v, hnew, -, hreport, -, -, -, -, hscan, -⟩ := views_agree result_mixed mixedPlan
  exact ⟨result_mixed, rfl, rfl, v, hnew, hreport, (hscan ⟨_, _, rfl⟩).1⟩

end ScanDelta.Command

import Mathlib.Data.List.Forall2
import ScanDelta.Command.Delivery
import ScanDelta.Proofs.Report.Lines

/-!
# The layout of reports

* `Topic` : alerts, with the mark and the heading they stand under; `primaryTopics`, `allTopics`, `topicsOf` : what reports
  are about, in order;
* `Topic.Shown limit t s` : the section shows a topic, up to a limit;
* `LaidOut o before ts ss text` : the text consists of some lines, one section for each topic that has alerts and the
  closing line, and nothing of it was trimmed away;
* `flatMap_topicLines` : the lines about some topics are the lines of their sections;
* `told_topicsOf_eq_nil_iff` : there is a topic with alerts exactly if there is anything to report;
* `reports_are_laid_out` : all reports are laid out so.
-/

set_option autoImplicit false

namespace ScanDelta.Report

open Text Command

/-! ## What reports are about -/

/-- Alerts, with the mark of their items and the heading they stand under. -/
structure Topic where
  mark : String
  heading : String
  alerts : List Alert

/-- The word behind a number of alerts. -/
def alertWord (count : Nat) : String := if count = 1 then "alert" else "alerts"

def newTopic (label rest : String) (as : List Alert) : Topic where
  mark := ":x:"
  heading := "## ❌ " ++ natText as.length ++ " new " ++ label ++ " " ++ alertWord as.length ++ rest
  alerts := as

def fixedTopic (label since : String) (as : List Alert) : Topic where
  mark := ":white_check_mark:"
  heading := "## ✅ " ++ natText as.length ++ " " ++ label ++ " " ++ alertWord as.length ++ " resolved since " ++ since
  alerts := as

/-- New and fixed alerts against the default branch or the baseline. -/
def primaryTopics (o : Options) (new fixed : List Alert) : List Topic :=
  [newTopic o.toolLabel (thresholdNote o.threshold ++ highestNote new) new,
    fixedTopic o.toolLabel "the previous run" fixed]

/-- New and fixed alerts against a further ref. -/
def furtherTopics (o : Options) (since : String) (s : Remote.Secondary) : List Topic :=
  [newTopic o.toolLabel (" since " ++ since) s.new, fixedTopic o.toolLabel since s.fixed]

/-- The topics of a comparison: the previous commit comes before the branch point. -/
def allTopics (o : Options) (c : Remote.Comparison) : List Topic :=
  primaryTopics o c.new c.fixed ++ c.vsPreviousCommit.toList.flatMap (furtherTopics o "the previous PR commit") ++
    c.vsBranchPoint.toList.flatMap (furtherTopics o "the branch point")

/-- The topics of an outcome. -/
def topicsOf (o : Options) (x : Outcome) : List Topic :=
  match x.comparison? with
  | some c => allTopics o c
  | none => primaryTopics o x.newAlerts x.fixedAlerts

/-- The topics that have alerts. -/
def told (ts : List Topic) : List Topic := ts.filter fun t => !t.alerts.isEmpty

/-- The counts against a further ref, of whose name the first seven characters are shown. -/
def countsText (what : String) (s : Remote.Secondary) : String :=
  natText s.fixed.length ++ " fixed, " ++ natText s.new.length ++ " new since " ++ what ++ " (" ++
    String.ofList (s.against.toList.take 7) ++ ")"

/-- The counts against the branch point and the previous commit, in this order, and an empty line after them. -/
def countsBefore (c : Remote.Comparison) : List String :=
  match c.vsBranchPoint, c.vsPreviousCommit with
  | none, none => []
  | some b, none => [countsText "branch point" b, ""]
  | none, some p => [countsText "previous report on PR" p, ""]
  | some b, some p => [countsText "branch point" b, countsText "previous report on PR" p, ""]

/-! ## Sections -/

/-- A heading, items, and a line for the alerts that are not shown. -/
structure Section where
  heading : String
  items : List String
  rest : Option String

/-- The lines of a section, the last one empty. -/
def Section.lines (s : Section) : List String := s.heading :: s.items ++ s.rest.toList ++ [""]

namespace Topic

/-- The section has an item for each of the first alerts, in order and as many as the limit allows, and a line with the
number of the others exactly if there are others. -/
structure Shown (limit : Nat) (t : Topic) (s : Section) : Prop where
  heading : s.heading = t.heading
  count : s.items.length = min t.alerts.length limit
  item : ∀ i, i < s.items.length → s.items[i]? = t.alerts[i]?.map (bullet t.mark)
  rest : ∀ line, s.rest = some line ↔ limit < t.alerts.length ∧ line = trailer t.mark (t.alerts.length - limit)

def sectionUpTo (limit : Nat) (t : Topic) : Section where
  heading := t.heading
  items := (t.alerts.take limit).map (bullet t.mark)
  rest := if limit < t.alerts.length then some (trailer t.mark (t.alerts.length - limit)) else none

theorem shown_sectionUpTo (limit : Nat) (t : Topic) : t.Shown limit (t.sectionUpTo limit) := by
  have hcount : (t.sectionUpTo limit).items.length = min t.alerts.length limit := by
    rw [sectionUpTo, List.length_map, List.length_take, Nat.min_comm]
  constructor
  case heading => rfl
  case count => exact hcount
  case item =>
    intro i hi
    rw [hcount] at hi
    have hlimit : i < limit := by omega
    rw [sectionUpTo, List.getElem?_map, List.getElem?_take_of_lt hlimit]
  case rest =>
    intro line
    unfold sectionUpTo
    dsimp only
    split
    · rename_i hmore
      rw [Option.some_inj]
      exact ⟨fun h => ⟨hmore, h.symm⟩, fun h => h.2.symm⟩
    · rename_i hall
      exact ⟨fun h => absurd h.symm (Option.some_ne_none line), fun h => absurd h.1 hall⟩

/-- The lines about a topic. -/
def linesIn (o : Options) (t : Topic) : List String := sectionLines o t.mark t.heading t.alerts

theorem linesIn_of_ne_nil (o : Options) {t : Topic} (h : t.alerts.isEmpty = false) :
    t.linesIn o = (t.sectionUpTo o.maxResults).lines := by
  have hrest : (if o.maxResults < t.alerts.length then [trailer t.mark (t.alerts.length - o.maxResults)] else []) =
      (t.sectionUpTo o.maxResults).rest.toList := by
    unfold sectionUpTo
    dsimp only
    split <;> rfl
  rw [linesIn, sectionLines, if_neg (by simp [h]), bullets, hrest]
  rfl

end Topic

/-- The lines about some topics are those of one section for each topic that has alerts. -/
theorem flatMap_linesIn (o : Options) (ts : List Topic) :
    ts.flatMap (Topic.linesIn o) = ((told ts).map (Topic.sectionUpTo o.maxResults)).flatMap Section.lines := by
  induction ts with
  | nil => rfl
  | cons t ts ih =>
    rw [List.flatMap_cons, ih]
    cases hempty : t.alerts.isEmpty with
    | true =>
      have hskip : told (t :: ts) = told ts := List.filter_cons_of_neg (by simp [hempty])
      rw [hskip, Topic.linesIn, sectionLines, if_pos hempty, List.nil_append]
    | false =>
      have hkeep : told (t :: ts) = t :: told ts := List.filter_cons_of_pos (by simp [hempty])
      rw [hkeep, List.map_cons, List.flatMap_cons, Topic.linesIn_of_ne_nil o hempty]

/-! ## The lines of reports -/

theorem space_append_alertWord (count : Nat) (rest : String) :
    " " ++ (alertWord count ++ rest) = " alert" ++ (plural count ++ rest) := by
  rw [← String.append_assoc, ← String.append_assoc]
  congr 1
  unfold alertWord plural
  split <;> rfl

theorem newHeading_append (o : Options) (rest : String) (as : List Alert) :
    newHeading o as ++ rest = (newTopic o.toolLabel rest as).heading := by
  simp only [newTopic, newHeading, String.append_assoc, space_append_alertWord]

theorem fixedHeading_append (o : Options) (since : String) (as : List Alert) :
    fixedHeading o as ++ (" since " ++ since) = (fixedTopic o.toolLabel since as).heading := by
  have hsince : " resolved" ++ (" since " ++ since) = " resolved since " ++ since := by
    rw [← String.append_assoc]
    rfl
  simp only [fixedTopic, fixedHeading, String.append_assoc, space_append_alertWord, hsince]

theorem primaryLines_eq (o : Options) (new fixed : List Alert) :
    primaryLines o new fixed = (primaryTopics o new fixed).flatMap (Topic.linesIn o) := by
  rw [primaryLines, String.append_assoc, newHeading_append,
    show " since the previous run" = " since " ++ "the previous run" from rfl, fixedHeading_append]
  simp [primaryTopics, Topic.linesIn, newTopic, fixedTopic, newMark, fixedMark]

theorem secondaryLines_eq (o : Options) (since : String) (s : Option Remote.Secondary) :
    secondaryLines o since s = (s.toList.flatMap (furtherTopics o since)).flatMap (Topic.linesIn o) := by
  cases s with
  | none => rfl
  | some s =>
    rw [secondaryLines, String.append_assoc, String.append_assoc, newHeading_append, fixedHeading_append]
    simp [furtherTopics, Topic.linesIn, newTopic, fixedTopic, newMark, fixedMark]

theorem overviewLines_eq (c : Remote.Comparison) : overviewLines c = countsBefore c := by
  unfold overviewLines countsBefore
  cases c.vsBranchPoint <;> cases c.vsPreviousCommit <;> rfl

theorem fullLines_eq (o : Options) (c : Remote.Comparison) :
    fullLines o c = countsBefore c ++ (allTopics o c).flatMap (Topic.linesIn o) ++ [closingLine o] := by
  rw [fullLines, overviewLines_eq, primaryLines_eq, secondaryLines_eq, secondaryLines_eq]
  simp only [allTopics, List.flatMap_append, List.append_assoc]

/-! ## Layout -/

/-- The lines of a report with some lines at its beginning and these sections. -/
def linesWith (o : Options) (before : List String) (ss : List Section) : List String :=
  before ++ ss.flatMap Section.lines ++ [closingLine o]

/-- The text has a section for each topic that has alerts, in order. Its lines are joined by line breaks, with one more
at the end, and have no blanks at their ends that could be trimmed away. -/
structure LaidOut (o : Options) (before : List String) (ts : List Topic) (ss : List Section) (text : String) : Prop where
  shown : List.Forall₂ (Topic.Shown o.maxResults) (told ts) ss
  untrimmed : trim (Text.join "\n" (linesWith o before ss)) = Text.join "\n" (linesWith o before ss)
  text : text = Text.join "\n" (linesWith o before ss) ++ "\n"

/-- The sections about some topics. -/
def sectionsOf (o : Options) (ts : List Topic) : List Section := (told ts).map (Topic.sectionUpTo o.maxResults)

theorem forall₂_sectionsOf (o : Options) (ts : List Topic) :
    List.Forall₂ (Topic.Shown o.maxResults) (told ts) (sectionsOf o ts) := by
  rw [sectionsOf, List.forall₂_map_right_iff, List.forall₂_same]
  exact fun t _ => Topic.shown_sectionUpTo o.maxResults t

theorem laidOut_plain (o : Options) (new fixed : List Alert) :
    LaidOut o [] (primaryTopics o new fixed) (sectionsOf o (primaryTopics o new fixed)) (plain o new fixed) := by
  have hlines : plainLines o new fixed = linesWith o [] (sectionsOf o (primaryTopics o new fixed)) := by
    rw [plainLines, primaryLines_eq, flatMap_linesIn]
    rfl
  have htrim := trim_plainLines o new fixed
  rw [hlines] at htrim
  constructor
  case shown => exact forall₂_sectionsOf o _
  case untrimmed => exact htrim
  case text => rw [plain, finish, hlines, htrim]

theorem laidOut_full (o : Options) (c : Remote.Comparison) :
    LaidOut o (countsBefore c) (allTopics o c) (sectionsOf o (allTopics o c)) (full o c) := by
  have hlines : fullLines o c = linesWith o (countsBefore c) (sectionsOf o (allTopics o c)) := by
    rw [fullLines_eq, flatMap_linesIn]
    rfl
  have htrim := trim_fullLines o c
  rw [hlines] at htrim
  constructor
  case shown => exact forall₂_sectionsOf o _
  case untrimmed => exact htrim
  case text => rw [full, finish, hlines, htrim]

/-! ## Reports without sections -/

theorem told_eq_nil_iff (ts : List Topic) : told ts = [] ↔ ∀ t ∈ ts, t.alerts = [] := by
  rw [told, List.filter_eq_nil_iff]
  simp only [Bool.not_eq_true', Bool.not_eq_false, List.isEmpty_iff]

theorem told_primaryTopics_eq_nil_iff (o : Options) (new fixed : List Alert) :
    told (primaryTopics o new fixed) = [] ↔ new = [] ∧ fixed = [] := by
  simp [told_eq_nil_iff, primaryTopics, newTopic, fixedTopic]

theorem told_furtherTopics_eq_nil_iff (o : Options) (since : String) (s : Option Remote.Secondary) :
    told (s.toList.flatMap (furtherTopics o since)) = [] ↔ s.any (·.hasChanges) = false := by
  cases s with
  | none => simp [told]
  | some s => simp [told_eq_nil_iff, furtherTopics, newTopic, fixedTopic, Remote.Secondary.hasChanges]

/-- No topic has alerts exactly if there is nothing to report. -/
theorem told_topicsOf_eq_nil_iff (o : Options) (x : Outcome) : told (topicsOf o x) = [] ↔ x.isReportable = false := by
  unfold topicsOf Outcome.isReportable
  cases hc : x.comparison? with
  | none => simp [told_primaryTopics_eq_nil_iff]
  | some c =>
    have hnew : x.newAlerts = c.new ∧ x.fixedAlerts = c.fixed := by
      obtain ⟨threshold, findings⟩ := x
      cases findings with
      | baseline filtered unfiltered => cases hc
      | remote c' =>
        obtain rfl := Option.some.inj hc
        exact ⟨rfl, rfl⟩
    have htold : told (allTopics o c) = told (primaryTopics o c.new c.fixed) ++
        told (c.vsPreviousCommit.toList.flatMap (furtherTopics o "the previous PR commit")) ++
        told (c.vsBranchPoint.toList.flatMap (furtherTopics o "the branch point")) := by
      simp only [told, allTopics, List.filter_append]
    dsimp only
    rw [htold, List.append_eq_nil_iff, List.append_eq_nil_iff, told_primaryTopics_eq_nil_iff,
      told_furtherTopics_eq_nil_iff, told_furtherTopics_eq_nil_iff, hnew.1, hnew.2]
    simp [Remote.Comparison.hasSecondaryChanges, and_assoc]

/-! ## All reports -/

/-- **Reports are laid out in sections.** Whatever the limit is, a report on new and fixed alerts has a section for each of
these lists that is not empty; a report on a comparison has the counts against the further refs before them, and sections
for the lists against the previous commit and the branch point behind them. The report of an outcome has no section
exactly if there is nothing to report. -/
theorem reports_are_laid_out :
    (∀ (o : Options) (new fixed : List Alert),
      ∃ ss, LaidOut o [] (primaryTopics o new fixed) ss (plain o new fixed)) ∧
    (∀ (o : Options) (c : Remote.Comparison), ∃ ss, LaidOut o (countsBefore c) (allTopics o c) ss (full o c)) ∧
    ∀ (p : Plan) (x : Outcome), ∃ ss,
      LaidOut (reportOptions p x) (x.comparison?.elim [] countsBefore) (topicsOf (reportOptions p x) x) ss
        (reportText p x) ∧
      (ss = [] ↔ x.isReportable = false) := by
  refine ⟨fun o new fixed => ⟨_, laidOut_plain o new fixed⟩, fun o c => ⟨_, laidOut_full o c⟩, fun p x => ?_⟩
  refine ⟨sectionsOf (reportOptions p x) (topicsOf (reportOptions p x) x), ?_, ?_⟩
  · unfold reportText topicsOf
    cases x.comparison? with
    | none => exact laidOut_plain _ _ _
    | some c => exact laidOut_full _ c
  · rw [sectionsOf, List.map_eq_nil_iff]
    exact told_topicsOf_eq_nil_iff _ x

end ScanDelta.Report

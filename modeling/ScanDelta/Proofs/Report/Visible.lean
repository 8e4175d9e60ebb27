import ScanDelta.Proofs.Report.Lines

/-!
# What of a comparison a report shows

* `AlikeUpTo limit as bs` : as many alerts, and the same ones up to a limit;
* `Secondary.AlikeUpTo`, `Comparison.AlikeUpTo` : two comparisons that differ only in what no report shows;
* `sectionLines_congr`, `overviewLines_congr` : the parts of a report are the same for both;
* `report_shows_first_alerts` : so are the reports, and without further refs they are plain ones.
-/

set_option autoImplicit false

namespace ScanDelta

namespace Report

/-! ## What a section shows -/

/-- As many alerts, and the same ones at the positions up to the limit. -/
structure AlikeUpTo (limit : Nat) (as bs : List Alert) : Prop where
  length : as.length = bs.length
  first : ∀ i, i < limit → as[i]? = bs[i]?

section Sections
variable {limit : Nat} {as bs : List Alert}

theorem AlikeUpTo.take_eq (h : AlikeUpTo limit as bs) : as.take limit = bs.take limit := by
  apply List.ext_getElem?
  intro i
  by_cases hi : i < limit
  · rw [List.getElem?_take_of_lt hi, List.getElem?_take_of_lt hi]
    exact h.first i hi
  · rw [List.getElem?_take_eq_none (Nat.le_of_not_lt hi), List.getElem?_take_eq_none (Nat.le_of_not_lt hi)]

theorem AlikeUpTo.isEmpty_eq (h : AlikeUpTo limit as bs) : as.isEmpty = bs.isEmpty := by
  rw [Bool.eq_iff_iff, List.isEmpty_iff_length_eq_zero, List.isEmpty_iff_length_eq_zero, h.length]

theorem AlikeUpTo.bullets_eq (h : AlikeUpTo limit as bs) (mark : String) :
    bullets mark limit as = bullets mark limit bs := by
  rw [bullets, bullets, h.take_eq, h.length]

/-- A section shows nothing of its alerts beyond the limit, but what the heading tells. -/
theorem sectionLines_congr {o : Options} (h : AlikeUpTo o.maxResults as bs) (mark heading : String) :
    sectionLines o mark heading as = sectionLines o mark heading bs := by
  rw [sectionLines, sectionLines, h.isEmpty_eq, h.bullets_eq]

theorem newHeading_congr (o : Options) (h : AlikeUpTo limit as bs) : newHeading o as = newHeading o bs := by
  rw [newHeading, newHeading, h.length]

theorem fixedHeading_congr (o : Options) (h : AlikeUpTo limit as bs) : fixedHeading o as = fixedHeading o bs := by
  rw [fixedHeading, fixedHeading, h.length]

end Sections

end Report

/-! ## What a report shows -/

namespace Remote

/-- Comparisons with a further ref that differ only in alerts beyond the limit and in the name of the ref behind its
seventh character. -/
structure Secondary.AlikeUpTo (limit : Nat) (s s' : Secondary) : Prop where
  against : s.against.toList.take 7 = s'.against.toList.take 7
  new : Report.AlikeUpTo limit s.new s'.new
  fixed : Report.AlikeUpTo limit s.fixed s'.fixed

/-- Comparisons that differ only in what no report shows: in alerts beyond the limit, as long as the highest level of the
new ones is the same, in the alerts that were there before, in the hash of the base and the previous commit, and in further
refs as above. -/
structure Comparison.AlikeUpTo (limit : Nat) (c c' : Comparison) : Prop where
  new : Report.AlikeUpTo limit c.new c'.new
  highest : ∀ l, Report.IsHighest l c.new ↔ Report.IsHighest l c'.new
  fixed : Report.AlikeUpTo limit c.fixed c'.fixed
  vsPreviousCommit : Option.Rel (Secondary.AlikeUpTo limit) c.vsPreviousCommit c'.vsPreviousCommit
  vsBranchPoint : Option.Rel (Secondary.AlikeUpTo limit) c.vsBranchPoint c'.vsBranchPoint

end Remote

namespace Report

open Remote (Secondary Comparison)

section Congruence
variable {o : Options} {limit : Nat} {x y : Option Secondary} {c c' : Comparison}

theorem secondaryLines_congr (since : String) (h : Option.Rel (Secondary.AlikeUpTo o.maxResults) x y) :
    secondaryLines o since x = secondaryLines o since y := by
  cases h with
  | none => rfl
  | some h =>
    rw [secondaryLines, secondaryLines, newHeading_congr o h.new, fixedHeading_congr o h.fixed,
      sectionLines_congr h.new, sectionLines_congr h.fixed]

theorem countLines_congr (what : String) (h : Option.Rel (Secondary.AlikeUpTo limit) x y) :
    countLines what x = countLines what y := by
  cases h with
  | none => rfl
  | some h => rw [countLines, countLines, shortRef, shortRef, h.new.length, h.fixed.length, h.against]

theorem overviewLines_congr (h : Comparison.AlikeUpTo limit c c') : overviewLines c = overviewLines c' := by
  rw [overviewLines, overviewLines, countLines_congr _ h.vsBranchPoint, countLines_congr _ h.vsPreviousCommit]

theorem primaryLines_congr (h : Comparison.AlikeUpTo o.maxResults c c') :
    primaryLines o c.new c.fixed = primaryLines o c'.new c'.fixed := by
  rw [primaryLines, primaryLines, newHeading_congr o h.new, fixedHeading_congr o h.fixed,
    highestNote_congr h.highest, sectionLines_congr h.new, sectionLines_congr h.fixed]

theorem fullLines_congr (h : Comparison.AlikeUpTo o.maxResults c c') : fullLines o c = fullLines o c' := by
  rw [fullLines, fullLines, overviewLines_congr h, primaryLines_congr h, secondaryLines_congr _ h.vsPreviousCommit,
    secondaryLines_congr _ h.vsBranchPoint]

theorem fullLines_eq_plainLines (o : Options) (hprevious : c.vsPreviousCommit = none)
    (hbranch : c.vsBranchPoint = none) : fullLines o c = plainLines o c.new c.fixed := by
  rw [fullLines, overviewLines, hprevious, hbranch, plainLines]
  simp [countLines, secondaryLines]

end Congruence

/-- **A report shows the first alerts of each list**, how many there are, and the highest level of all new ones. Nothing
else of the alerts makes a difference, nothing of the refs but the first seven characters, and nothing of the alerts that
were there before. Without further refs the report is that on the new and the fixed alerts. -/
theorem report_shows_first_alerts (o : Options) :
    (∀ c c' : Comparison, Comparison.AlikeUpTo o.maxResults c c' → full o c = full o c') ∧
      ∀ c : Comparison, c.vsPreviousCommit = none → c.vsBranchPoint = none →
        full o c = plain o c.new c.fixed := by
  constructor
  · intro c c' h
    rw [full, full, fullLines_congr h]
  · intro c hprevious hbranch
    rw [full, plain, fullLines_eq_plainLines o hprevious hbranch]

/-- One item for each section. -/
def oneItem : Options := ⟨1, none, some "octo/widgets", "CodeQL"⟩

def alertAt (level : Level) (location : String) : Alert :=
  ⟨none, none, "R", level, "m", location, none, none, none, none, none⟩

def mixedComparison : Comparison where
  new := [alertAt .note "a.c:1", alertAt .error "a.c:2", alertAt .note "a.c:3"]
  fixed := [alertAt .note "b.c:1", alertAt .note "b.c:2"]
  matched := []
  vsPreviousCommit := some ⟨"0123456789abcdef", [alertAt .note "c.c:1", alertAt .note "c.c:2"], []⟩
  vsBranchPoint := none
  baseSha := some "fedcba9876543210"
  previousCommit := some "0123456789abcdef"

/-- The same behind other alerts, but for the highest level of the new ones, which another one of them has. -/
def otherwiseMixed : Comparison where
  new := [alertAt .note "a.c:1", alertAt .warning "d.c:2", alertAt .error "d.c:3"]
  fixed := [alertAt .note "b.c:1", alertAt .error "d.c:4"]
  matched := [alertAt .error "e.c:1"]
  vsPreviousCommit := some ⟨"0123456", [alertAt .note "c.c:1", alertAt .error "d.c:5"], []⟩
  vsBranchPoint := none
  baseSha := none
  previousCommit := none

theorem alikeUpTo_mixedComparison : Comparison.AlikeUpTo 1 mixedComparison otherwiseMixed := by
  have hfirst : ∀ as bs : List Alert, as.take 1 = bs.take 1 → ∀ i, i < 1 → as[i]? = bs[i]? := by
    intro as bs h i hi
    rw [← List.getElem?_take_of_lt hi, h, List.getElem?_take_of_lt hi]
  constructor
  case new => exact ⟨rfl, hfirst _ _ rfl⟩
  case highest =>
    intro l
    rw [isHighest_iff, isHighest_iff]
    rfl
  case fixed => exact ⟨rfl, hfirst _ _ rfl⟩
  case vsPreviousCommit => exact .some ⟨by decide, ⟨rfl, hfirst _ _ rfl⟩, ⟨rfl, hfirst _ _ rfl⟩⟩
  case vsBranchPoint => exact .none

theorem report_shows_first_alerts_mixedComparison :
    Comparison.AlikeUpTo oneItem.maxResults mixedComparison otherwiseMixed ∧ mixedComparison ≠ otherwiseMixed ∧
      full oneItem mixedComparison = full oneItem otherwiseMixed ∧
      full oneItem { mixedComparison with vsPreviousCommit := none } =
        plain oneItem mixedComparison.new mixedComparison.fixed :=
  ⟨alikeUpTo_mixedComparison, by decide,
    (report_shows_first_alerts oneItem).1 mixedComparison otherwiseMixed alikeUpTo_mixedComparison,
    (report_shows_first_alerts oneItem).2 { mixedComparison with vsPreviousCommit := none } rfl rfl⟩

end Report

end ScanDelta

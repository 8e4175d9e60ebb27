import ScanDelta.Proofs.Decimal.Digits
import ScanDelta.Proofs.Level
import ScanDelta.Proofs.Text.Trim
import ScanDelta.Report.Markdown

/-!
# The lines of reports

* `textOf` : lines as a text; `Begins lines` : they do not begin with a blank;
* `trim_join_concat` : nothing is trimmed away of lines that begin and end so;
* `numberIn?_line` : a number that is found in a line;
* `ItemsFor mark limit as items`, `itemsFor_bullets` : the items show some of the alerts and tell how many others there
  are;
* `part line items as` : a line and items, if there are alerts; `sectionLines_eq`, `summaryLines_eq` : reports are made
  of parts;
* `trim_plainLines`, `trim_fullLines`, `plain_eq`, `full_eq` : the text of a report consists of its lines, of which
  nothing is trimmed away;
* `IsHighest l as`, `isHighest_iff` : the highest level of some alerts, and how it is found;
* `exists_isHighest`, `highestNote_congr` : the note that tells it, and nothing else.
-/

set_option autoImplicit false

namespace ScanDelta.Report

open Text

/-! ## Texts -/

/-- Lines, each with a line break. -/
def textOf (lines : List String) : String := String.join (lines.map (· ++ "\n"))

theorem textOf_append (xs ys : List String) : textOf (xs ++ ys) = textOf xs ++ textOf ys := by
  rw [textOf, List.map_append, String.join_append]
  rfl

theorem join_concat (lines : List String) (last : String) :
    Text.join "\n" (lines ++ [last]) = textOf lines ++ last := by
  induction lines with
  | nil => simp [Text.join, textOf]
  | cons line lines ih =>
    have hcons : Text.join "\n" (line :: (lines ++ [last])) = line ++ "\n" ++ Text.join "\n" (lines ++ [last]) := by
      cases lines with
      | nil => simp [Text.join]
      | cons second more => exact String.intercalate_cons_cons
    rw [List.cons_append, hcons, ih, textOf, textOf, List.map_cons, String.join_cons]
    simp only [String.append_assoc]

theorem join_concat_lineBreak (lines : List String) (last : String) :
    Text.join "\n" (lines ++ [last]) ++ "\n" = textOf (lines ++ [last]) := by
  rw [join_concat, textOf_append, String.append_assoc]
  rfl

/-- The first of the lines, if there is one, does not begin with a blank. -/
def Begins (lines : List String) : Prop := ∀ line ∈ lines.head?, ∃ c cs, line.toList = c :: cs ∧ isBlank c = false

theorem begins_nil : Begins [] := nofun

theorem begins_cons {line : String} {c : Char} {cs : List Char} (h : line.toList = c :: cs) (hc : isBlank c = false)
    (lines : List String) : Begins (line :: lines) := by
  intro first hfirst
  obtain rfl := Option.some.inj hfirst
  exact ⟨c, cs, h, hc⟩

theorem Begins.append {xs ys : List String} (hx : Begins xs) (hy : Begins ys) : Begins (xs ++ ys) := by
  cases xs with
  | nil => exact hy
  | cons x xs => exact hx

theorem Begins.append_of_ne_nil {xs : List String} (hx : Begins xs) (hne : xs ≠ []) (ys : List String) :
    Begins (xs ++ ys) := by
  cases xs with
  | nil => exact absurd rfl hne
  | cons x xs => exact hx

/-- Nothing is trimmed away of lines that neither begin nor end with a blank. -/
theorem trim_join_concat {lines : List String} {last : String} (hfirst : Begins (lines ++ [last]))
    (hlast : ∃ c, last.toList.getLast? = some c ∧ isBlank c = false) :
    trim (Text.join "\n" (lines ++ [last])) = Text.join "\n" (lines ++ [last]) := by
  obtain ⟨end', hend, hblank⟩ := hlast
  rw [join_concat]
  apply trim_eq_self
  · intro c hc
    cases lines with
    | nil =>
      obtain ⟨d, ds, hd, hdblank⟩ := hfirst last rfl
      rw [textOf, List.map_nil, String.join_nil, String.empty_append, hd] at hc
      rw [← Option.some.inj hc]
      exact hdblank
    | cons line lines =>
      obtain ⟨d, ds, hd, hdblank⟩ := hfirst line rfl
      rw [textOf, List.map_cons, String.join_cons, String.toList_append, String.toList_append, String.toList_append,
        hd] at hc
      rw [← Option.some.inj hc]
      exact hdblank
  · intro c hc
    rw [String.toList_append, List.getLast?_append, hend] at hc
    rw [← Option.some.inj hc]
    exact hblank

/-! ## Counts -/

/-- A text without digits. -/
def Digitless (mark : String) : Prop := ∀ c ∈ mark.toList, c.isDigit = false

instance (mark : String) : Decidable (Digitless mark) :=
  decidable_of_iff ((mark.toList.all fun c => !c.isDigit) = true) (by simp [Digitless])

theorem Digitless.append {mark mark' : String} (h : Digitless mark) (h' : Digitless mark') : Digitless (mark ++ mark') := by
  intro c hc
  rw [String.toList_append, List.mem_append] at hc
  exact hc.elim (h c) (h' c)

/-- A number in a line is found if it is the first one there, and no digit follows it. -/
theorem numberIn?_line (before rest : String) (hbefore : Digitless before)
    (hrest : ∀ c ∈ rest.toList.head?, c.isDigit = false) (n : Nat) :
    numberIn? (before ++ natText n ++ rest) = some n := by
  have htext : (before ++ natText n ++ rest).toList = before.toList ++ (natChars n ++ rest.toList) := by
    simp [natText]
  exact numberIn?_of_toList htext hbefore hrest

theorem numberIn?_natText (n : Nat) : numberIn? (natText n) = some n := by
  have h := numberIn?_line "" "" nofun nofun n
  rwa [String.empty_append, String.append_empty] at h

/-! ## Items -/

/-- Items for some alerts: all of them, or so many as the limit allows and a line with the number of the others. -/
inductive ItemsFor (mark : String) (limit : Nat) (as : List Alert) : List String → Prop
  | all (h : as.length ≤ limit) : ItemsFor mark limit as (as.map (bullet mark))
  | first {line : String} {others : Nat} (hpos : 0 < others) (hline : numberIn? line = some others)
    (hcount : ((as.take limit).map (bullet mark)).length + others = as.length) :
    ItemsFor mark limit as ((as.take limit).map (bullet mark) ++ [line])

theorem digitless_newMark : Digitless newMark := by decide

theorem digitless_fixedMark : Digitless fixedMark := by decide

theorem numberIn?_trailer {mark : String} (h : Digitless mark) (n : Nat) : numberIn? (trailer mark n) = some n := by
  have hdash : Digitless "- " := by decide
  have hand : Digitless " …and " := by decide
  exact numberIn?_line _ _ ((hdash.append h).append hand) (by simp) n

theorem itemsFor_bullets {mark : String} (h : Digitless mark) (limit : Nat) (as : List Alert) :
    ItemsFor mark limit as (bullets mark limit as) := by
  rw [bullets]
  by_cases hmore : limit < as.length
  · rw [if_pos hmore]
    refine .first (by omega) (numberIn?_trailer h (as.length - limit)) ?_
    rw [List.length_map, List.length_take]
    omega
  · rw [if_neg hmore, List.append_nil, List.take_of_length_le (by omega)]
    exact .all (by omega)

/-! ## Parts -/

/-- A part of a report about some alerts: a line, items and an empty line; nothing if there are no alerts. -/
def part (line : String) (items : List String) (as : List Alert) : List String :=
  if as = [] then [] else line :: items ++ [""]

theorem sectionLines_eq (o : Options) (mark heading : String) (as : List Alert) :
    sectionLines o mark heading as = part heading (bullets mark o.maxResults as) as := by
  unfold sectionLines part
  simp only [List.isEmpty_iff]

theorem summaryLines_eq (o : Options) (mark count : String) (as : List Alert) :
    summaryLines o mark count as = part count (bullets mark o.maxResults as) as := by
  unfold summaryLines part
  simp only [List.isEmpty_iff]

theorem begins_part {line : String} {c : Char} {cs : List Char} (h : line.toList = c :: cs) (hc : isBlank c = false)
    (items : List String) (as : List Alert) : Begins (part line items as) := by
  unfold part
  split
  · exact begins_nil
  · exact begins_cons h hc _

/-! ## Whole reports -/

section Whole
variable (o : Options)

theorem begins_newSection (mark rest : String) (as : List Alert) :
    Begins (sectionLines o mark (newHeading o as ++ rest) as) := by
  have hhead : (newHeading o as ++ rest).toList = '#' :: ('#' :: ' ' :: '❌' :: ' ' :: (natText as.length ++
      " new " ++ o.toolLabel ++ " alert" ++ plural as.length ++ rest).toList) := by
    simp [newHeading]
  rw [sectionLines_eq]
  exact begins_part hhead (by decide) _ _

theorem begins_fixedSection (mark rest : String) (as : List Alert) :
    Begins (sectionLines o mark (fixedHeading o as ++ rest) as) := by
  have hhead : (fixedHeading o as ++ rest).toList = '#' :: ('#' :: ' ' :: '✅' :: ' ' :: (natText as.length ++
      " " ++ o.toolLabel ++ " alert" ++ plural as.length ++ " resolved" ++ rest).toList) := by
    simp [fixedHeading]
  rw [sectionLines_eq]
  exact begins_part hhead (by decide) _ _

theorem begins_primaryLines (new fixed : List Alert) : Begins (primaryLines o new fixed) := by
  rw [primaryLines, String.append_assoc]
  exact (begins_newSection _ _ _ _).append (begins_fixedSection _ _ _ _)

theorem begins_secondaryLines (since : String) (x : Option Remote.Secondary) : Begins (secondaryLines o since x) := by
  cases x with
  | none => exact begins_nil
  | some x =>
    rw [secondaryLines, String.append_assoc, String.append_assoc]
    exact (begins_newSection _ _ _ _).append (begins_fixedSection _ _ _ _)

theorem isBlank_of_isDigit {c : Char} (h : c.isDigit = true) : isBlank c = false := by
  simp only [Char.isDigit, ge_iff_le, UInt32.le_iff_toNat_le, Bool.and_eq_true, decide_eq_true_eq] at h
  change 48 ≤ c.toNat ∧ c.toNat ≤ 57 at h
  have hall : ∀ k, k < 10 → isBlank (Char.ofNat (48 + k)) = false := by decide
  have hc := hall (c.toNat - 48) (by omega)
  rwa [show 48 + (c.toNat - 48) = c.toNat by omega, Char.ofNat_toNat] at hc

theorem begins_countLines (what : String) (x : Option Remote.Secondary) : Begins (countLines what x) := by
  cases x with
  | none => exact begins_nil
  | some x =>
    obtain ⟨c, cs, hdigits, hc⟩ := exists_natChars_eq_cons x.fixed.length
    have hline : (natText x.fixed.length ++ " fixed, " ++ natText x.new.length ++ " new since " ++ what ++ " (" ++
        shortRef x.against ++ ")").toList = c :: (cs ++ (" fixed, " ++ natText x.new.length ++ " new since " ++
          what ++ " (" ++ shortRef x.against ++ ")").toList) := by
      simp [natText, hdigits]
    exact begins_cons hline (isBlank_of_isDigit hc) _

theorem begins_overviewLines (c : Remote.Comparison) : Begins (overviewLines c) := by
  rw [overviewLines]
  split
  · exact begins_nil
  · rename_i hne
    have hlines := (begins_countLines "branch point" c.vsBranchPoint).append
      (begins_countLines "previous report on PR" c.vsPreviousCommit)
    exact hlines.append_of_ne_nil (by simpa using hne) [""]

theorem begins_closingLine : Begins [closingLine o] := by
  obtain ⟨cs, hcs⟩ : ∃ cs, (closingLine o).toList = 'R' :: cs := by
    rw [closingLine]
    split <;> simp
  exact begins_cons hcs (by decide) []

theorem getLast?_closingLine : ∃ c, (closingLine o).toList.getLast? = some c ∧ isBlank c = false := by
  have hlinked : "/security/code-scanning) for details.".toList.getLast? = some '.' := by decide
  have hplain : " report in the Security tab for full details.".toList.getLast? = some '.' := by decide
  refine ⟨'.', ?_, by decide⟩
  rw [closingLine]
  split
  · rw [String.toList_append, List.getLast?_append, hlinked, Option.some_or]
  · rw [String.toList_append, List.getLast?_append, hplain, Option.some_or]

/-- Nothing of a report is trimmed away. -/
theorem trim_plainLines (new fixed : List Alert) :
    trim (Text.join "\n" (plainLines o new fixed)) = Text.join "\n" (plainLines o new fixed) :=
  trim_join_concat ((begins_primaryLines o new fixed).append (begins_closingLine o)) (getLast?_closingLine o)

theorem trim_fullLines (c : Remote.Comparison) :
    trim (Text.join "\n" (fullLines o c)) = Text.join "\n" (fullLines o c) :=
  trim_join_concat (((((begins_overviewLines c).append (begins_primaryLines o c.new c.fixed)).append
    (begins_secondaryLines o _ c.vsPreviousCommit)).append (begins_secondaryLines o _ c.vsBranchPoint)).append
    (begins_closingLine o)) (getLast?_closingLine o)

theorem plain_eq (new fixed : List Alert) : plain o new fixed = textOf (plainLines o new fixed) := by
  rw [plain, finish, trim_plainLines, plainLines, join_concat_lineBreak]

theorem full_eq (c : Remote.Comparison) : full o c = textOf (fullLines o c) := by
  rw [full, finish, trim_fullLines, fullLines, join_concat_lineBreak]

end Whole

/-! ## The highest level -/

/-- The level of one of the alerts, and none of them is above it. -/
structure IsHighest (l : Level) (as : List Alert) : Prop where
  mem : ∃ a ∈ as, a.level = l
  le : ∀ a ∈ as, a.level.rank ≤ l.rank

theorem isHighest_of_highestLevel {l : Level} {as : List Alert} (h : Alert.highestLevel as = some l) :
    IsHighest l as := by
  obtain ⟨hmem, hle⟩ := Level.highest_spec h
  obtain ⟨a, ha, hal⟩ := List.mem_map.1 hmem
  exact ⟨⟨a, ha, hal⟩, fun b hb => hle _ (List.mem_map_of_mem hb)⟩

theorem IsHighest.unique {l l' : Level} {as : List Alert} (h : IsHighest l as) (h' : IsHighest l' as) : l = l' := by
  obtain ⟨a, ha, rfl⟩ := h.mem
  obtain ⟨b, hb, rfl⟩ := h'.mem
  exact Level.rank_injective (Nat.le_antisymm (h'.le a ha) (h.le b hb))

theorem exists_highestLevel_eq {as : List Alert} (h : as ≠ []) : ∃ l, Alert.highestLevel as = some l := by
  obtain ⟨a, rest, rfl⟩ := List.exists_cons_of_ne_nil h
  exact ⟨_, rfl⟩

theorem isHighest_iff (l : Level) (as : List Alert) : IsHighest l as ↔ Alert.highestLevel as = some l := by
  constructor
  · intro h
    obtain ⟨a, ha, -⟩ := h.mem
    obtain ⟨l', hl'⟩ := exists_highestLevel_eq (List.ne_nil_of_mem ha)
    rw [hl', (isHighest_of_highestLevel hl').unique h]
  · exact isHighest_of_highestLevel

/-- The note on the highest level tells the highest level. -/
theorem exists_isHighest {as : List Alert} (h : as ≠ []) :
    ∃ l, IsHighest l as ∧ highestNote as = " — Highest severity: " ++ l.title := by
  obtain ⟨l, hl⟩ := exists_highestLevel_eq h
  refine ⟨l, isHighest_of_highestLevel hl, ?_⟩
  rw [highestNote, hl]

/-- The note tells nothing else. -/
theorem highestNote_congr {as bs : List Alert} (h : ∀ l, IsHighest l as ↔ IsHighest l bs) :
    highestNote as = highestNote bs := by
  have hlevel : Alert.highestLevel as = Alert.highestLevel bs := by
    apply Option.ext
    intro l
    rw [← isHighest_iff, ← isHighest_iff]
    exact h l
  rw [highestNote, highestNote, hlevel]

end ScanDelta.Report

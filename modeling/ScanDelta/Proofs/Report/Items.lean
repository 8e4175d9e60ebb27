import ScanDelta.Proofs.Alert.WellFormed
import ScanDelta.Proofs.Report.Reading

/-!
# The lines of items

* `itemTexts a` : the texts of an alert that its item shows beside the message;
* `breaksIn_bullet` : the line breaks of an item are those in its mark, these texts and the message;
* `Origin` : a result of a scan or a raw object of the remote listing; `breaksIn_message` : the message of its alert has no
  line break;
* `ReadAs mark limit as` : how many lines are read where items were written, and when these are the items;
  `readAs_of_wellFormed` : so it is for well-formed alerts;
* `line_breaks_of_items` : both, for the alerts of all origins.
-/

set_option autoImplicit false

namespace ScanDelta.Report

open Text

/-! ## Items -/

/-- The texts of an alert that its item shows beside the message, in order. -/
def itemTexts (a : Alert) : List String :=
  a.securitySeverity.toList ++ (if a.number.isSome then a.htmlUrl.toList else []) ++ a.ruleId :: a.helpUri.toList ++
    a.dismissedReason.toList ++ [a.location]

theorem breaksIn_severityText (a : Alert) : breaksIn (severityText a) = a.securitySeverity.toList.flatMap breaksIn := by
  have hopen : breaksIn " (" = [] := by decide
  have hclose : breaksIn ")" = [] := by decide
  unfold severityText
  cases a.securitySeverity with
  | none => rfl
  | some severity => simp [breaksIn_append, hopen, hclose]

theorem breaksIn_numberText (a : Alert) :
    breaksIn (numberText a) = (if a.number.isSome then a.htmlUrl.toList else []).flatMap breaksIn := by
  have hlink : breaksIn "[# " = [] := by decide
  have haddress : breaksIn "](" = [] := by decide
  have hclose : breaksIn ") " = [] := by decide
  have hsign : breaksIn "# " = [] := by decide
  have hspace : breaksIn " " = [] := by decide
  unfold numberText
  cases a.number with
  | none => rfl
  | some n =>
    cases a.htmlUrl with
    | none => simp [breaksIn_append, breaksIn_natText, hsign, hspace]
    | some url => simp [breaksIn_append, breaksIn_natText, hlink, haddress, hclose]

theorem breaksIn_ruleText (a : Alert) : breaksIn (ruleText a) = (a.ruleId :: a.helpUri.toList).flatMap breaksIn := by
  have hopen : breaksIn "[" = [] := by decide
  have haddress : breaksIn "](" = [] := by decide
  have hclose : breaksIn ")" = [] := by decide
  have htick : breaksIn "`" = [] := by decide
  unfold ruleText
  cases a.helpUri with
  | none => simp [breaksIn_append, htick]
  | some uri => simp [breaksIn_append, hopen, haddress, hclose]

theorem breaksIn_dismissedText (a : Alert) :
    breaksIn (dismissedText a) = a.dismissedReason.toList.flatMap breaksIn := by
  have hopen : breaksIn " (dismissed: " = [] := by decide
  have hclose : breaksIn ")" = [] := by decide
  unfold dismissedText
  cases a.dismissedReason with
  | none => rfl
  | some reason => simp [breaksIn_append, hopen, hclose]

/-- The line breaks of an item are those in the texts it is made of. -/
theorem breaksIn_bullet (mark : String) (a : Alert) :
    breaksIn (bullet mark a) = breaksIn mark ++ (itemTexts a).flatMap breaksIn ++ breaksIn a.message := by
  have hdash : breaksIn "- " = [] := by decide
  have hopen : breaksIn " **" = [] := by decide
  have hlevel : ∀ l : Level, breaksIn l.title = [] := fun l => by cases l <;> decide
  have hclose : breaksIn "**" = [] := by decide
  have hspace : breaksIn " " = [] := by decide
  have hat : breaksIn " at `" = [] := by decide
  have hthen : breaksIn "` — " = [] := by decide
  unfold bullet
  simp only [breaksIn_append, breaksIn_severityText, breaksIn_numberText, breaksIn_ruleText,
    breaksIn_dismissedText, hdash, hopen, hlevel, hclose, hspace, hat, hthen, itemTexts, List.flatMap_append,
    List.flatMap_cons, List.flatMap_nil, List.nil_append, List.append_nil, List.append_assoc]

/-! ## Alerts of all origins -/

/-- Where an alert comes from: a run and a result, or a raw object of the remote listing. -/
inductive Origin where
  | scan (run result : Json)
  | listing (raw : Json)

def Origin.alert : Origin → Alert
  | scan run result => (Sarif.alertOf (Sarif.rulesOf run) result).value
  | listing raw => (Remote.alertOf raw).value

theorem Origin.wellFormed (x : Origin) : x.alert.WellFormed := by
  cases x with
  | scan run result =>
    rw [alert, Sarif.value_alertOf]
    exact Sarif.wellFormed_plainAlertOf (Sarif.rulesOf run) result
  | listing raw =>
    rw [alert, Remote.value_alertOf]
    exact Remote.wellFormed_plainAlertOf raw

/-! ## Lines in which items are read -/

/-- What is read where the items for some alerts were written, whatever stands before and after them: one line for each that
is shown, one for all others, and one more for each line feed in the texts of those that are shown. -/
structure ReadAs (mark : String) (limit : Nat) (as : List Alert) : Prop where
  count : (readLines (textOf (bullets mark limit as))).length =
    min as.length limit + (if limit < as.length then 1 else 0) + feeds (String.join ((as.take limit).flatMap itemTexts))
  alone (before after : List String) :
    readLines (textOf (before ++ bullets mark limit as ++ after)) =
        readLines (textOf before) ++ bullets mark limit as ++ readLines (textOf after) ↔
      ∀ a ∈ as.take limit, ∀ t ∈ itemTexts a, '\n' ∉ t.toList

section WellFormed
variable {a : Alert} {mark : String}

theorem breaksIn_message (h : a.WellFormed) : breaksIn a.message = [] := by
  refine breaksIn_eq_nil_of_spaces fun c hc hblank => ?_
  obtain ⟨before, after, hcut⟩ := List.append_of_mem hc
  exact (h.oneLine.singleSpaced before c after hcut hblank).1

theorem breaksIn_bullet_of_wellFormed (h : a.WellFormed) (hmark : breaksIn mark = []) :
    breaksIn (bullet mark a) = (itemTexts a).flatMap breaksIn := by
  rw [breaksIn_bullet, breaksIn_message h, hmark, List.nil_append, List.append_nil]

/-- The message is what ends the item, and it has no carriage return. -/
theorem getLast?_bullet_ne (h : a.WellFormed) (mark : String) : (bullet mark a).toList.getLast? ≠ some '\r' := by
  have hne : a.message.toList ≠ [] := fun hnil => h.oneLine.ne_empty (String.toList_eq_nil_iff.1 hnil)
  intro hlast
  unfold bullet at hlast
  rw [String.toList_append, List.getLast?_append_of_ne_nil _ hne] at hlast
  have hbreak := (mem_breaksIn_iff rfl a.message).2 (List.mem_of_getLast? hlast)
  rw [breaksIn_message h] at hbreak
  cases hbreak

theorem unbroken_bullet_iff (h : a.WellFormed) (hmark : breaksIn mark = []) :
    Unbroken (bullet mark a) ↔ ∀ t ∈ itemTexts a, '\n' ∉ t.toList := by
  have hfeed : isLineBreak '\n' = true := rfl
  rw [unbroken_iff, and_iff_left (getLast?_bullet_ne h mark), ← mem_breaksIn_iff hfeed,
    breaksIn_bullet_of_wellFormed h hmark, List.mem_flatMap]
  simp only [mem_breaksIn_iff hfeed, not_exists, not_and]

end WellFormed

theorem breaksIn_trailer {mark : String} (hmark : breaksIn mark = []) (n : Nat) : breaksIn (trailer mark n) = [] := by
  have hdash : breaksIn "- " = [] := by decide
  have hmore : breaksIn " …and " = [] := by decide
  have hsee : breaksIn " more alerts (see Code Scanning for the full list)." = [] := by decide +kernel
  unfold trailer
  simp only [breaksIn_append, breaksIn_natText, hdash, hmark, hmore, hsee, List.append_nil]

/-- The line for the alerts that are not shown, if there is one, has no line breaks. -/
theorem breaksIn_eq_nil_of_mem_rest {mark : String} (hmark : breaksIn mark = []) (limit count : Nat) :
    ∀ l ∈ (if limit < count then [trailer mark (count - limit)] else []), breaksIn l = [] := by
  intro l hl
  split at hl
  · rw [List.mem_singleton.1 hl, breaksIn_trailer hmark]
  · cases hl

theorem breaksIn_bullets {mark : String} (hmark : breaksIn mark = []) (limit : Nat) {as : List Alert}
    (h : ∀ a ∈ as, a.WellFormed) :
    (bullets mark limit as).flatMap breaksIn = ((as.take limit).flatMap itemTexts).flatMap breaksIn := by
  rw [bullets, List.flatMap_append, List.flatMap_eq_nil_iff.2 (breaksIn_eq_nil_of_mem_rest hmark limit as.length),
    List.append_nil, List.flatMap_map, List.flatMap_assoc]
  exact List.flatMap_congr fun a ha => breaksIn_bullet_of_wellFormed (h a (List.mem_of_mem_take ha)) hmark

theorem readAs_of_wellFormed {mark : String} (hmark : breaksIn mark = []) (limit : Nat) {as : List Alert}
    (h : ∀ a ∈ as, a.WellFormed) : ReadAs mark limit as := by
  have hshown : ∀ a ∈ as.take limit, a.WellFormed := fun a ha => h a (List.mem_of_mem_take ha)
  constructor
  case count =>
    have hfeeds : feeds (String.join (bullets mark limit as)) =
        feeds (String.join ((as.take limit).flatMap itemTexts)) := by
      rw [← count_feed_breaksIn, ← count_feed_breaksIn, breaksIn_join, breaksIn_join, breaksIn_bullets hmark limit h]
    rw [length_readLines_textOf, hfeeds, bullets, List.length_append, List.length_map, List.length_take, Nat.min_comm]
    split <;> rfl
  case alone =>
    intro before after
    rw [readLines_textOf_append, readLines_textOf_append, List.append_left_inj, List.append_right_inj,
      readLines_textOf_eq_iff, bullets, List.forall_mem_append, List.forall_mem_map]
    -- the line for the others is never broken
    rw [and_iff_left fun l hl => unbroken_of_breaksIn (breaksIn_eq_nil_of_mem_rest hmark limit as.length l hl)]
    exact forall₂_congr fun a ha => unbroken_bullet_iff (hshown a ha) hmark

/-- **An item has the line breaks of the texts it shows beside the message**, and the message adds none, wherever the alert
comes from. So the items for some alerts are read as many lines as are written, one for each that is shown and one for all
others, and one more for each line feed in these texts; they are read as themselves, whatever stands before and after them,
exactly if the texts have none. -/
theorem line_breaks_of_items (mark : String) (x : Origin) (limit : Nat) (xs : List Origin) :
    breaksIn (bullet mark x.alert) = breaksIn mark ++ (itemTexts x.alert).flatMap breaksIn ∧
      ReadAs newMark limit (xs.map Origin.alert) ∧ ReadAs fixedMark limit (xs.map Origin.alert) := by
  have hwell : ∀ a ∈ xs.map Origin.alert, a.WellFormed := List.forall_mem_map.2 fun x _ => x.wellFormed
  have hnew : breaksIn newMark = [] := by decide
  have hfixed : breaksIn fixedMark = [] := by decide
  refine ⟨?_, readAs_of_wellFormed hnew limit hwell, readAs_of_wellFormed hfixed limit hwell⟩
  rw [breaksIn_bullet, breaksIn_message x.wellFormed, List.append_nil]

/-- A result whose rule id has two lines, the second of them a heading. -/
def twoLineResult : Json :=
  .obj [("message", .obj [("text", .str "m")]), ("ruleId", .str "R\n# All clear")]

/-- The second line of the rule id is read as a line of its own. -/
theorem readLines_bullets_twoLineResult :
    readLines (textOf (bullets newMark 20 [(Origin.scan (.obj []) twoLineResult).alert])) =
        ["- :x: **Warning** `R", "# All clear` at `(location unavailable)` — m"] ∧
      ¬∀ x : Origin, breaksIn (bullet newMark x.alert) = [] := by
  have hbreaks : breaksIn (bullet newMark (Origin.scan (.obj []) twoLineResult).alert) = ['\n'] := by decide +kernel
  refine ⟨by decide +kernel, fun h => ?_⟩
  rw [h] at hbreaks
  cases hbreaks

end ScanDelta.Report

import ScanDelta.Proofs.Json.Candidates
import ScanDelta.Sarif.Result

/-!
# The rule of a result

* `AgreeBut Ignored Same xs ys` : lists that are the same item by item, but for items that do not count;
* `LastRule id rules o` : `o` is the last one of the rules with this id, if there is one;
* `find?_rulesOf_eq_iff` : it is the one that is looked up; `LastRule.congr` : rules with other ids make no difference;
* `alertWith rule result`, `plainAlertOf_eq` : the alert of a result, with what its rule adds.
-/

set_option autoImplicit false

namespace ScanDelta

namespace Sarif

/-! ## Lists with items that do not count -/

/-- Lists of which the items that count are the same one by one. Those that do not count may stand anywhere. -/
inductive AgreeBut {α : Type} (Ignored : α → Prop) (Same : α → α → Prop) : List α → List α → Prop
  | nil : AgreeBut Ignored Same [] []
  | both {x y : α} {xs ys : List α} (h : Same x y) (hrest : AgreeBut Ignored Same xs ys) :
      AgreeBut Ignored Same (x :: xs) (y :: ys)
  | left {x : α} {xs ys : List α} (h : Ignored x) (hrest : AgreeBut Ignored Same xs ys) :
      AgreeBut Ignored Same (x :: xs) ys
  | right {y : α} {xs ys : List α} (h : Ignored y) (hrest : AgreeBut Ignored Same xs ys) :
      AgreeBut Ignored Same xs (y :: ys)

theorem AgreeBut.filter_eq {α : Type} {Ignored : α → Prop} {xs ys : List α} (h : AgreeBut Ignored (· = ·) xs ys)
    {p : α → Bool} (hp : ∀ x, Ignored x → p x = false) : xs.filter p = ys.filter p := by
  induction h with
  | nil => rfl
  | both h _ ih => rw [List.filter_cons, List.filter_cons, h, ih]
  | left h _ ih => rw [List.filter_cons_of_neg (by simp [hp _ h]), ih]
  | right h _ ih => rw [List.filter_cons_of_neg (by simp [hp _ h]), ih]

/-! ## The last rule with an id -/

/-- The rules that a run lists. -/
def listedRules (run : Json) : List Json := ((run.getOrNull "tool").getOrNull "driver").list "rules"

/-- The last one of the rules with this id, if there is one. An id is a text that is not empty or a number, which
stands for its digits. -/
inductive LastRule (id : String) (rules : List Json) : Option Json → Prop
  | found {before after : List Json} {rule : Json} (h : rules = before ++ rule :: after)
      (hid : rule.HasTextAt ["id"] id) (hafter : ∀ r ∈ after, ¬ r.HasTextAt ["id"] id) : LastRule id rules (some rule)
  | missing (h : ∀ r ∈ rules, ¬ r.HasTextAt ["id"] id) : LastRule id rules none

theorem rulesOf_eq (run : Json) :
    rulesOf run = (listedRules run).filterMap fun rule => (rule.textAt? "id").map fun id => (id, rule) := by
  have hdriver : ((run.member? "tool").bind (·.member? "driver")).getD .null =
      (run.getOrNull "tool").getOrNull "driver" := by
    rw [← Json.getD_member? "tool", ← Json.getD_member? "driver"]
    cases run.member? "tool" <;> rfl
  rw [rulesOf, listedRules, ← hdriver]
  cases (run.member? "tool").bind (·.member? "driver") <;> rfl

theorem find?_pairs (id : String) (rules : List Json) :
    ((rules.filterMap fun rule => (rule.textAt? "id").map fun i => (i, rule)).find? fun r => r.1 = id).map (·.2) =
      rules.find? fun rule => rule.textAt? "id" = some id := by
  induction rules with
  | nil => rfl
  | cons rule rules ih =>
    cases hid : rule.textAt? "id" with
    | none =>
      rw [List.filterMap_cons_none (by rw [hid]; rfl), List.find?_cons_of_neg (by simp [hid]), ih]
    | some i =>
      rw [List.filterMap_cons_some (b := (i, rule)) (by rw [hid]; rfl)]
      by_cases heq : i = id
      · rw [List.find?_cons_of_pos (by simp [heq]), List.find?_cons_of_pos (by simp [hid, heq])]
        rfl
      · rw [List.find?_cons_of_neg (by simp [heq]), List.find?_cons_of_neg (by simp [hid, heq]), ih]

theorem find?_rulesOf (run : Json) (id : String) :
    (rulesOf run).find? id = (listedRules run).reverse.find? fun rule => rule.textAt? "id" = some id := by
  rw [rulesOf_eq, Rules.find?, ← List.filterMap_reverse, find?_pairs]

theorem textAt?_id_iff (rule : Json) (id : String) : rule.textAt? "id" = some id ↔ rule.HasTextAt ["id"] id := by
  rw [← Json.textUnder?_singleton, Json.textUnder?_eq_some_iff]

/-- The rule that is looked up is the last one with the id. -/
theorem find?_rulesOf_eq_iff (run : Json) (id : String) (o : Option Json) :
    (rulesOf run).find? id = o ↔ LastRule id (listedRules run) o := by
  have hid := fun rule => textAt?_id_iff rule id
  rw [find?_rulesOf]
  constructor
  · rintro rfl
    cases hfirst : (listedRules run).reverse.find? fun rule => rule.textAt? "id" = some id with
    | none =>
      refine .missing fun r hr => ?_
      have hnone := List.find?_eq_none.1 hfirst r (List.mem_reverse.2 hr)
      rwa [decide_eq_true_eq, hid] at hnone
    | some rule =>
      obtain ⟨hrule, after, before, hrev, hafter⟩ := List.find?_eq_some_iff_append.1 hfirst
      have hrules : listedRules run = before.reverse ++ rule :: after.reverse := by
        rw [← List.reverse_reverse (listedRules run), hrev]
        simp
      refine .found hrules ((hid rule).1 (of_decide_eq_true hrule)) fun r hr => ?_
      have hnot := hafter r (List.mem_reverse.1 hr)
      rw [← hid]
      simpa using hnot
  · intro h
    cases h with
    | missing hnone =>
      refine List.find?_eq_none.2 fun r hr => ?_
      rw [decide_eq_true_eq, hid]
      exact hnone r (List.mem_reverse.1 hr)
    | @found before after rule hrules hrule hafter =>
      refine List.find?_eq_some_iff_append.2 ⟨decide_eq_true ((hid rule).2 hrule), after.reverse, before.reverse, ?_, ?_⟩
      · rw [hrules]
        simp
      · intro r hr
        have hnot := hafter r (List.mem_reverse.1 hr)
        rw [← hid] at hnot
        simpa using hnot

/-- Rules with other ids make no difference. -/
theorem LastRule.congr {id : String} {run run' : Json} (h : AgreeBut (fun rule => ¬ rule.HasTextAt ["id"] id) (· = ·)
    (listedRules run) (listedRules run')) (o : Option Json) :
    LastRule id (listedRules run) o ↔ LastRule id (listedRules run') o := by
  have hfilter := h.filter_eq (p := fun rule => rule.textAt? "id" = some id) fun rule hrule => by
    rw [decide_eq_false_iff_not, textAt?_id_iff]
    exact hrule
  rw [← find?_rulesOf_eq_iff, ← find?_rulesOf_eq_iff, find?_rulesOf, find?_rulesOf, ← List.getLast?_filter,
    ← List.getLast?_filter, hfilter]

/-! ## What a rule adds -/

/-- The alert of a result: what the result tells alone, with name, help and security severity from its rule. -/
def alertWith (rule : Option Json) (result : Json) : Alert :=
  { plainAlertOf [] result with
    ruleName := rule.bind (·.textAt? "name")
    helpUri := rule.bind (·.textAt? "helpUri")
    securitySeverity := severityIn? result <|> rule.bind severityIn? }

/-- The id under which the rule of a result is looked up. -/
def ruleIdOf (result : Json) : String := (result.textAt? "ruleId").getD Alert.noRuleId

theorem plainAlertOf_eq (rules : Rules) (result : Json) :
    plainAlertOf rules result = alertWith (rules.find? (ruleIdOf result)) result := rfl

/-- The log depends on the rules through the alert. -/
theorem alertOf_congr {rules rules' : Rules} {result : Json}
    (h : plainAlertOf rules result = plainAlertOf rules' result) : alertOf rules result = alertOf rules' result := by
  unfold alertOf
  rw [h]

end Sarif

end ScanDelta

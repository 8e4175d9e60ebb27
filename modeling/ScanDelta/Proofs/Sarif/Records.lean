import Mathlib.Data.List.Forall2
import ScanDelta.Proofs.Sarif.Rules
import ScanDelta.Proofs.Text.Lowercase
import ScanDelta.Sarif.Baseline

/-!
# Which results are taken

* `MarkedAs result state` : the baseline state of a result is this word, in any letter case;
* `Record` : a result in the run it stands in; `records document` : all of them, in document order;
* `Record.Shows state x a` : the record has this state, and `a` is its alert;
* `Record.Same x y` : the same result, in runs that have the same rule for it;
* `gather`, `collect_eq` : a document is collected record by record;
* `gather_congr` : unmarked records leave nothing, and the others leave what they leave anywhere;
* `collect_takes_marked_results` : what is collected, in which order, and what it depends on.
-/

set_option autoImplicit false

namespace ScanDelta

namespace Sarif

/-! ## Marks -/

/-- The same character, but for the case of an ASCII letter. -/
inductive SameLetter : Char → Char → Prop
  | same (c : Char) : SameLetter c c
  | lowered {c d : Char} (hc : 'A' ≤ c ∧ c ≤ 'Z') (hd : d.toNat = c.toNat + 32) : SameLetter c d
  | raised {c d : Char} (hd : 'A' ≤ d ∧ d ≤ 'Z') (hc : c.toNat = d.toNat + 32) : SameLetter c d

theorem toLower_eq_iff (c d : Char) : c.toLower = d.toLower ↔ SameLetter c d := by
  rw [← Char.toNat_inj, Text.toNat_toLower, Text.toNat_toLower]
  constructor
  · intro h
    split at h <;> split at h
    · rw [Char.toNat_inj.1 (Nat.add_right_cancel h)]
      exact .same d
    · rename_i hc hd
      exact .lowered ((Text.upper_iff c).2 hc) h.symm
    · rename_i hc hd
      exact .raised ((Text.upper_iff d).2 hd) h
    · rw [Char.toNat_inj.1 h]
      exact .same d
  · intro h
    cases h with
    | same => rfl
    | lowered hc hd =>
      have hup := (Text.upper_iff c).1 hc
      rw [if_pos hup, if_neg (by omega), hd]
    | raised hd hc =>
      have hup := (Text.upper_iff d).1 hd
      rw [if_pos hup, if_neg (by omega), hc]

theorem equalIgnoringCase_iff (a b : String) :
    equalIgnoringCase a b = true ↔ List.Forall₂ SameLetter a.toList b.toList := by
  rw [equalIgnoringCase, decide_eq_true_eq, ← List.forall₂_eq_eq_eq, List.forall₂_map_left_iff,
    List.forall₂_map_right_iff]
  simp only [toLower_eq_iff]

def BaselineState.word : BaselineState → String
  | .new => "new"
  | .absent => "absent"

/-- The result has a text for its baseline state, and that is the word for this state in any letter case. -/
def MarkedAs (result : Json) (state : BaselineState) : Prop :=
  ∃ s, result.get? "baselineState" = some (.str s) ∧ List.Forall₂ SameLetter s.toList state.word.toList

/-- The words differ in length, so no text is both. -/
theorem MarkedAs.unique {result : Json} {state state' : BaselineState} (h : MarkedAs result state)
    (h' : MarkedAs result state') : state = state' := by
  obtain ⟨s, hs, hword⟩ := h
  obtain ⟨s', hs', hword'⟩ := h'
  rw [hs] at hs'
  cases hs'
  have hlength := hword.length_eq.symm.trans hword'.length_eq
  cases state <;> cases state' <;> first | rfl | cases hlength

theorem baselineState?_eq_some_iff (result : Json) (state : BaselineState) :
    baselineState? result = some state ↔ MarkedAs result state := by
  have hread : baselineState? result = ((result.get? "baselineState").bind Json.str?).bind fun s =>
      if equalIgnoringCase s "new" then some .new else if equalIgnoringCase s "absent" then some .absent else none := rfl
  rw [hread]
  constructor
  · intro h
    obtain ⟨s, hs, h⟩ := Option.bind_eq_some_iff.1 h
    obtain ⟨v, hv, hstr⟩ := Option.bind_eq_some_iff.1 hs
    cases v <;> cases hstr
    split at h
    · cases h
      exact ⟨s, hv, (equalIgnoringCase_iff _ _).1 ‹_›⟩
    · split at h
      · cases h
        exact ⟨s, hv, (equalIgnoringCase_iff _ _).1 ‹_›⟩
      · cases h
  · rintro ⟨s, hs, hword⟩
    have heq := (equalIgnoringCase_iff _ _).2 hword
    rw [hs]
    show (if equalIgnoringCase s "new" then some BaselineState.new
      else if equalIgnoringCase s "absent" then some .absent else none) = some state
    cases state with
    | new => exact if_pos heq
    | absent =>
      have hnot : ¬ equalIgnoringCase s "new" = true := by
        intro hnew
        have hnew := (equalIgnoringCase_iff _ _).1 hnew
        cases hword.length_eq.symm.trans hnew.length_eq
      rw [if_neg hnot]
      exact if_pos heq

/-! ## Records -/

/-- A result in the run it stands in. -/
structure Record where
  run : Json
  result : Json

/-- The results of a run. -/
def recordsOf (run : Json) : List Record := (run.list "results").map (Record.mk run)

/-- The results of all runs, in document order. -/
def records (document : Json) : List Record := (runs document).flatMap recordsOf

namespace Record

/-- The record has this state, and its alert is that of the result with the last rule of the run that has its id. -/
def Shows (state : BaselineState) (x : Record) (a : Alert) : Prop :=
  MarkedAs x.result state ∧
    ∃ rule, LastRule (ruleIdOf x.result) (listedRules x.run) rule ∧ a = alertWith rule x.result

/-- The record has neither state. -/
def Unmarked (x : Record) : Prop := ∀ state, ¬ MarkedAs x.result state

/-- The same result, in runs that have the same rule for it. All else of the runs may differ. -/
structure Same (x y : Record) : Prop where
  result : x.result = y.result
  rule (o : Option Json) : LastRule (ruleIdOf x.result) (listedRules x.run) o ↔
    LastRule (ruleIdOf x.result) (listedRules y.run) o

/-- The alert of a record with this state. -/
def alert? (state : BaselineState) (x : Record) : Option Alert :=
  if baselineState? x.result = some state then some (plainAlertOf (rulesOf x.run) x.result) else none

theorem alert?_eq_some_iff (state : BaselineState) (x : Record) (a : Alert) :
    x.alert? state = some a ↔ x.Shows state a := by
  rw [alert?, Option.ite_none_right_eq_some, baselineState?_eq_some_iff, Option.some.injEq, plainAlertOf_eq]
  refine and_congr_right fun _ => ?_
  constructor
  · rintro rfl
    exact ⟨_, (find?_rulesOf_eq_iff _ _ _).1 rfl, rfl⟩
  · rintro ⟨rule, hrule, rfl⟩
    rw [(find?_rulesOf_eq_iff _ _ _).2 hrule]

/-- A record shows one alert, in one state. -/
theorem Shows.unique {x : Record} {state state' : BaselineState} {a a' : Alert} (h : x.Shows state a)
    (h' : x.Shows state' a') : state = state' ∧ a = a' := by
  obtain rfl := h.1.unique h'.1
  rw [← alert?_eq_some_iff] at h h'
  rw [h] at h'
  exact ⟨rfl, Option.some.inj h'⟩

theorem Same.shows_iff {x y : Record} (h : x.Same y) (state : BaselineState) (a : Alert) :
    x.Shows state a ↔ y.Shows state a := by
  rw [Shows, Shows, ← h.result]
  simp only [h.rule]

/-- What is collected of a record. -/
def taken (x : Record) : Traced Note Baseline :=
  match baselineState? x.result with
  | none => pure .empty
  | some state => Baseline.single state <$> alertOf (rulesOf x.run) x.result

theorem Unmarked.taken_eq {x : Record} (h : x.Unmarked) : x.taken = pure .empty := by
  cases hstate : baselineState? x.result with
  | none => rw [taken, hstate]
  | some state => exact absurd ((baselineState?_eq_some_iff _ _).1 hstate) (h state)

theorem Same.taken_eq {x y : Record} (h : x.Same y) : x.taken = y.taken := by
  have hfind : (rulesOf x.run).find? (ruleIdOf x.result) = (rulesOf y.run).find? (ruleIdOf x.result) :=
    (find?_rulesOf_eq_iff _ _ _).2 ((h.rule _).2 ((find?_rulesOf_eq_iff _ _ _).1 rfl))
  have halert : plainAlertOf (rulesOf x.run) x.result = plainAlertOf (rulesOf y.run) x.result := by
    rw [plainAlertOf_eq, plainAlertOf_eq, hfind]
  rw [taken, taken, ← h.result, alertOf_congr halert]

end Record

end Sarif

namespace Baseline

open Sarif (AgreeBut BaselineState LastRule Record listedRules records recordsOf ruleIdOf)

/-! ## Record by record -/

theorem empty_append (b : Baseline) : empty.append b = b := rfl

theorem append_assoc (a b c : Baseline) : (a.append b).append c = a.append (b.append c) := by
  unfold append
  rw [List.append_assoc, List.append_assoc]

/-- What is collected of some records. -/
def gather : List Record → Traced Note Baseline
  | [] => pure empty
  | x :: xs => do
    let b ← x.taken
    let rest ← gather xs
    return b.append rest

theorem gather_append (xs ys : List Record) :
    gather (xs ++ ys) = do
      let a ← gather xs
      let b ← gather ys
      return a.append b := by
  induction xs with
  | nil =>
    show gather ys = pure empty >>= fun a => gather ys >>= fun b => pure (a.append b)
    simp only [pure_bind, empty_append, bind_pure]
  | cons x xs ih =>
    rw [List.cons_append, gather, ih, gather]
    simp only [bind_assoc, pure_bind, append_assoc]

theorem ofResults_eq (run : Json) (results : List Json) :
    ofResults (Sarif.rulesOf run) results = gather (results.map (Record.mk run)) := by
  induction results with
  | nil => rfl
  | cons r rs ih =>
    rw [ofResults, List.map_cons, gather, ← ih, Record.taken]
    cases Sarif.baselineState? r with
    | none => simp only [pure_bind, empty_append, bind_pure]
    | some state => simp only [bind_map_left]

theorem ofRuns_eq (runs : List Json) : ofRuns runs = gather (runs.flatMap recordsOf) := by
  induction runs with
  | nil => rfl
  | cons run more ih => rw [ofRuns, ofResults_eq, ih, List.flatMap_cons, gather_append, recordsOf]

/-- A document is collected record by record. -/
theorem collect_eq (document : Json) : collect document = gather (records document) := ofRuns_eq _

/-- The alerts of one state. -/
def inState (b : Baseline) : BaselineState → List Alert
  | .new => b.new
  | .absent => b.absent

theorem inState_append (a b : Baseline) (state : BaselineState) :
    (a.append b).inState state = a.inState state ++ b.inState state := by
  cases state <;> rfl

theorem inState_taken (x : Record) (state : BaselineState) :
    x.taken.value.inState state = (x.alert? state).toList := by
  rw [Record.taken, Record.alert?]
  cases Sarif.baselineState? x.result with
  | none => cases state <;> rfl
  | some state' =>
    rw [Traced.map_value, Sarif.value_alertOf]
    cases state <;> cases state' <;> rfl

theorem inState_gather (xs : List Record) (state : BaselineState) :
    (gather xs).value.inState state = xs.filterMap (Record.alert? state) := by
  induction xs with
  | nil => cases state <;> rfl
  | cons x xs ih =>
    have hcons : (gather (x :: xs)).value = x.taken.value.append (gather xs).value := rfl
    rw [hcons, inState_append, inState_taken, ih]
    cases hx : x.alert? state with
    | none => rw [List.filterMap_cons_none hx, Option.toList_none, List.nil_append]
    | some a => rw [List.filterMap_cons_some hx, Option.toList_some, List.singleton_append]

/-- What is collected of records is what they show, in order. -/
theorem offered_gather (xs : List Record) (state : BaselineState) :
    Offered (Record.Shows state) xs ((gather xs).value.inState state) :=
  (offered_iff (Record.alert?_eq_some_iff state) _ _).2 (inState_gather xs state).symm

theorem gather_cons_of_unmarked {x : Record} (h : x.Unmarked) (xs : List Record) : gather (x :: xs) = gather xs := by
  rw [gather, h.taken_eq]
  simp only [pure_bind, empty_append, bind_pure]

/-- Unmarked records leave nothing, and the others leave what they leave anywhere. -/
theorem gather_congr {xs ys : List Record} (h : AgreeBut Record.Unmarked Record.Same xs ys) : gather xs = gather ys := by
  induction h with
  | nil => rfl
  | both h _ ih => rw [gather, gather, h.taken_eq, ih]
  | left h _ ih => rw [gather_cons_of_unmarked h, ih]
  | right h _ ih => rw [gather_cons_of_unmarked h, ih]

/-- **Marked results are taken, and nothing else.** The alerts of a state are those that the records with this state
show, each one once and in document order; what stands before and behind a record decides about the place of its alert
only. A record shows one alert, in one state, and shows it with any run that has the same rule for its result: rules
with other ids make no difference. Documents whose marked records are the same give the same, and leave the same in the
log, whatever unmarked results they hold. -/
theorem collect_takes_marked_results :
    (∀ document state, Offered (Record.Shows state) (records document) ((collect document).value.inState state)) ∧
      (∀ document before x after state a, records document = before ++ x :: after → x.Shows state a →
        ∃ as bs, Offered (Record.Shows state) before as ∧ Offered (Record.Shows state) after bs ∧
          (collect document).value.inState state = as ++ a :: bs) ∧
      (∀ (x : Record) state state' a a', x.Shows state a → x.Shows state' a' → state = state' ∧ a = a') ∧
      (∀ x y : Record, x.Same y → ∀ state a, x.Shows state a ↔ y.Shows state a) ∧
      (∀ run run' result, AgreeBut (fun rule => ¬ rule.HasTextAt ["id"] (ruleIdOf result)) (· = ·) (listedRules run)
        (listedRules run') → Record.Same ⟨run, result⟩ ⟨run', result⟩) ∧
      ∀ document document', AgreeBut Record.Unmarked Record.Same (records document) (records document') →
        collect document = collect document' := by
  refine ⟨?_, ?_, fun _ _ _ _ _ => Record.Shows.unique, fun _ _ => Record.Same.shows_iff,
    fun run run' result h => ⟨rfl, LastRule.congr h⟩, ?_⟩
  · intro document state
    rw [collect_eq]
    exact offered_gather _ state
  · intro document before x after state a hrecords ha
    refine ⟨(gather before).value.inState state, (gather after).value.inState state, offered_gather _ state,
      offered_gather _ state, ?_⟩
    rw [collect_eq, hrecords, inState_gather, inState_gather, inState_gather, List.filterMap_append,
      List.filterMap_cons_some ((Record.alert?_eq_some_iff state x a).2 ha)]
  · intro document document' h
    rw [collect_eq, collect_eq, gather_congr h]

/-! ## Two documents with the same marked results -/

/-- A rule with this id and name. -/
def ruleNamed (id : Json) (name : String) : Json := .obj [("id", id), ("name", .str name)]

/-- A result of this rule in this state. -/
def resultIn (state : String) (ruleId : Json) : Json := .obj [("baselineState", .str state), ("ruleId", ruleId)]

def runOf (rules results : List Json) : Json :=
  .obj [("results", .arr results), ("tool", .obj [("driver", .obj [("rules", .arr rules)])])]

/-- Two rules with one id, once as a number. -/
def firstRun (results : List Json) : Json := runOf [ruleNamed (.nat 7) "old", ruleNamed (.str "7") "seven"] results

/-- Of the two rules the later one, and one with another id. -/
def secondRun (results : List Json) : Json := runOf [ruleNamed (.str "7") "seven", ruleNamed (.nat 8) "eight"] results

/-- A new result, one in a state with blanks around the word, and an absent one in another run. -/
def twoRuns : Json :=
  .obj [("runs", .arr [firstRun [resultIn "NEW" (.nat 7), resultIn " new " (.nat 7)], runOf [] [resultIn "Absent" (.str "7")]])]

/-- The same without the one that has no state, and with another run between the two. -/
def threeRuns : Json :=
  .obj [("runs", .arr [secondRun [resultIn "NEW" (.nat 7)], runOf [] [], runOf [ruleNamed (.nat 8) "eight"]
    [resultIn "Absent" (.str "7")]])]

/-- The new result of the first document. -/
def newRecord : Record := ⟨firstRun [resultIn "NEW" (.nat 7), resultIn " new " (.nat 7)], resultIn "NEW" (.nat 7)⟩

theorem shows_newRecord :
    newRecord.Shows .new (Sarif.alertWith (some (ruleNamed (.str "7") "seven")) newRecord.result) :=
  (Record.alert?_eq_some_iff _ _ _).1 rfl

theorem same_newRecord : newRecord.Same ⟨secondRun [resultIn "NEW" (.nat 7)], resultIn "NEW" (.nat 7)⟩ where
  result := rfl
  rule o := by
    have hfirst : (Sarif.rulesOf newRecord.run).find? "7" = some (ruleNamed (.str "7") "seven") := rfl
    have hsecond : (Sarif.rulesOf (secondRun [resultIn "NEW" (.nat 7)])).find? "7" =
        some (ruleNamed (.str "7") "seven") := rfl
    rw [show ruleIdOf newRecord.result = "7" from rfl, ← Sarif.find?_rulesOf_eq_iff, ← Sarif.find?_rulesOf_eq_iff,
      hfirst, hsecond]

theorem agreeBut_otherIds : AgreeBut (fun rule => ¬ rule.HasTextAt ["id"] "7") (· = ·)
    (listedRules (runOf [] [])) (listedRules (runOf [ruleNamed (.nat 8) "eight"] [])) := by
  refine .right ?_ .nil
  rw [← Sarif.textAt?_id_iff]
  decide

theorem agreeBut_threeRuns : AgreeBut Record.Unmarked Record.Same (records twoRuns) (records threeRuns) := by
  refine .both same_newRecord (.left ?_ (.both ⟨rfl, LastRule.congr agreeBut_otherIds⟩ .nil))
  intro state
  rw [← Sarif.baselineState?_eq_some_iff]
  exact nofun

theorem collect_takes_marked_results_threeRuns :
    (AgreeBut Record.Unmarked Record.Same (records twoRuns) (records threeRuns) ∧
      collect twoRuns = collect threeRuns) ∧
    (∃ after, records twoRuns = [] ++ newRecord :: after ∧ ∃ as bs, Offered (Record.Shows .new) [] as ∧
      Offered (Record.Shows .new) after bs ∧ (collect twoRuns).value.inState .new =
        as ++ Sarif.alertWith (some (ruleNamed (.str "7") "seven")) newRecord.result :: bs) := by
  refine ⟨⟨agreeBut_threeRuns, collect_takes_marked_results.2.2.2.2.2 _ _ agreeBut_threeRuns⟩, _, rfl, ?_⟩
  exact collect_takes_marked_results.2.1 twoRuns [] newRecord _ .new _ rfl shows_newRecord

end Baseline

end ScanDelta

import ScanDelta.Proofs.Alert.Diff
import ScanDelta.Proofs.Json.Members
import ScanDelta.Proofs.Outcome
import ScanDelta.Proofs.Remote.Sections
import ScanDelta.Report.Record

/-!
# What the JSON report tells

* `Alert.ofJson?`, `Baseline.ofJson?`, `Remote.Comparison.ofJson?`, `Outcome.ofJson?` : an outcome out of a JSON value;
* `Alert.Numbered`, `Outcome.Numbered` : numbers of alerts have 64 bits;
* `Outcome.ofJson?_toJson` : an outcome is read out of its value, with members in any order;
* `Outcome.plain_toJson` : the value of an outcome can be read back from its text;
* `json_tells_all` : the report tells the whole outcome.
-/

set_option autoImplicit false

namespace ScanDelta

open Json

/-! ## Reading an outcome -/

def Level.ofName? (s : String) : Option Level := Level.all.find? fun l => l.name = s

def Level.ofJson? (j : Json) : Option Level := j.str?.bind Level.ofName?

def Alert.ofJson? (j : Json) : Option Alert := do
  let number ← j.field? "number" (optOf? nat?)
  let htmlUrl ← j.field? "html_url" (optOf? str?)
  let ruleId ← j.field? "rule_id" str?
  let level ← j.field? "level" Level.ofJson?
  let message ← j.field? "message" str?
  let location ← j.field? "location" str?
  let ruleName ← j.field? "rule_name" (optOf? str?)
  let helpUri ← j.field? "help_uri" (optOf? str?)
  let securitySeverity ← j.field? "security_severity" (optOf? str?)
  let dismissedReason ← j.field? "dismissed_reason" (optOf? str?)
  let analysisKey ← j.field? "analysis_key" (optOf? str?)
  return ⟨number, htmlUrl, ruleId, level, message, location, ruleName, helpUri, securitySeverity, dismissedReason,
    analysisKey⟩

def Baseline.ofJson? (j : Json) : Option Baseline := do
  let new ← j.field? "new" (listOf? Alert.ofJson?)
  let absent ← j.field? "absent" (listOf? Alert.ofJson?)
  return ⟨new, absent⟩

def Remote.Secondary.ofJson? (j : Json) : Option Remote.Secondary := do
  let against ← j.field? "against" str?
  let new ← j.field? "new" (listOf? Alert.ofJson?)
  let fixed ← j.field? "fixed" (listOf? Alert.ofJson?)
  return ⟨against, new, fixed⟩

def Remote.Comparison.ofJson? (j : Json) : Option Remote.Comparison := do
  let new ← j.field? "new" (listOf? Alert.ofJson?)
  let fixed ← j.field? "fixed" (listOf? Alert.ofJson?)
  let matched ← j.field? "matched" (listOf? Alert.ofJson?)
  let vsPreviousCommit ← j.field? "vs_previous_commit" (optOf? Secondary.ofJson?)
  let vsBranchPoint ← j.field? "vs_branch_point" (optOf? Secondary.ofJson?)
  let baseSha ← j.field? "base_sha" (optOf? str?)
  let previousCommit ← j.field? "previous_commit_ref" (optOf? str?)
  return ⟨new, fixed, matched, vsPreviousCommit, vsBranchPoint, baseSha, previousCommit⟩

def Findings.ofJson? (j : Json) : Option Findings := do
  let mode ← j.field? "mode" str?
  if mode = "baseline" then
    let filtered ← j.field? "filtered" Baseline.ofJson?
    let unfiltered ← j.field? "unfiltered" Baseline.ofJson?
    return .baseline filtered unfiltered
  else if mode = "remote" then
    let c ← Remote.Comparison.ofJson? j
    return .remote c
  else none

def Outcome.ofJson? (j : Json) : Option Outcome := do
  let threshold ← j.field? "threshold" Level.ofJson?
  let findings ← j.field? "comparison" Findings.ofJson?
  return ⟨threshold, findings⟩

/-! ## Numbers -/

/-- The number of the alert has 64 bits. -/
def Alert.Numbered (a : Alert) : Prop := ∀ n ∈ a.number, n ≤ greatestNat

def Baseline.alerts (b : Baseline) : List Alert := b.new ++ b.absent

def Remote.Secondary.alerts (s : Remote.Secondary) : List Alert := s.new ++ s.fixed

def Remote.Comparison.alerts (c : Remote.Comparison) : List Alert :=
  c.new ++ c.fixed ++ c.matched ++ (c.vsPreviousCommit.toList ++ c.vsBranchPoint.toList).flatMap Remote.Secondary.alerts

/-- The alerts in all lists of an outcome. -/
def Outcome.alerts (o : Outcome) : List Alert :=
  match o.findings with
  | .baseline filtered unfiltered => filtered.alerts ++ unfiltered.alerts
  | .remote c => c.alerts

def Outcome.Numbered (o : Outcome) : Prop := ∀ a ∈ o.alerts, a.Numbered

/-! ## Parts -/

theorem Level.ofJson?_name (l : Level) : Level.ofJson? (Json.str l.name).normal = some l := by
  cases l <;> decide

theorem str?_normal (s : String) : (Json.str s).normal.str? = some s := rfl

theorem optStr?_normal (s : Option String) : optOf? str? (Json.optStr s).normal = some s :=
  optOf?_normal Json.str fun _ _ => ⟨rfl, nofun⟩

theorem optNat?_normal {n : Option Nat} (h : ∀ k ∈ n, k ≤ greatestNat) : optOf? nat? (optNat n).normal = some n := by
  refine optOf?_normal Json.nat fun k hk => ⟨?_, nofun⟩
  have hbounds : (0 : Int) ≤ k ∧ (k : Int) ≤ greatestNat := ⟨by omega, by exact_mod_cast h k hk⟩
  show (if _ then some (k : Int).toNat else none) = some k
  rw [if_pos hbounds, Int.toNat_natCast]

/-! ## Reading what was written -/

theorem Alert.ofJson?_toJson {a : Alert} (h : a.Numbered) : Alert.ofJson? a.toJson.normal = some a := by
  have hfield : ∀ {α : Type} (name : String) (read : Json → Option α),
      a.toJson.normal.field? name read = (a.toJson.get? name).bind fun v => read v.normal :=
    fun name read => field?_normal (by simp) name read
  unfold Alert.ofJson?
  simp only [hfield]
  simp [Alert.toJson, get?, optNat?_normal h, optStr?_normal, str?_normal, Level.ofJson?_name]

theorem Alert.listOf?_listToJson {as : List Alert} (h : ∀ a ∈ as, a.Numbered) :
    listOf? Alert.ofJson? (Alert.listToJson as).normal = some as :=
  listOf?_normal fun a ha => Alert.ofJson?_toJson (h a ha)

theorem Baseline.ofJson?_toJson {b : Baseline} (h : ∀ a ∈ b.alerts, a.Numbered) :
    Baseline.ofJson? b.toJson.normal = some b := by
  have hfield : ∀ {α : Type} (name : String) (read : Json → Option α),
      b.toJson.normal.field? name read = (b.toJson.get? name).bind fun v => read v.normal :=
    fun name read => field?_normal (by simp) name read
  have hnew := Alert.listOf?_listToJson fun a ha => h a (List.mem_append_left b.absent ha)
  have habsent := Alert.listOf?_listToJson fun a ha => h a (List.mem_append_right b.new ha)
  unfold Baseline.ofJson?
  simp only [hfield]
  simp [Baseline.toJson, get?, hnew, habsent]

namespace Remote

theorem Secondary.ofJson?_toJson {x : Secondary} (h : ∀ a ∈ x.alerts, a.Numbered) :
    Secondary.ofJson? x.toJson.normal = some x := by
  have hfield : ∀ {α : Type} (name : String) (read : Json → Option α),
      x.toJson.normal.field? name read = (x.toJson.get? name).bind fun v => read v.normal :=
    fun name read => field?_normal (by simp) name read
  have hnew := Alert.listOf?_listToJson fun a ha => h a (List.mem_append_left x.fixed ha)
  have hfixed := Alert.listOf?_listToJson fun a ha => h a (List.mem_append_right x.new ha)
  unfold Secondary.ofJson?
  simp only [hfield]
  simp [Secondary.toJson, get?, hnew, hfixed, str?_normal]

theorem Secondary.optOf?_optToJson {x : Option Secondary} (h : ∀ y ∈ x, ∀ a ∈ y.alerts, a.Numbered) :
    optOf? Secondary.ofJson? (Secondary.optToJson x).normal = some x :=
  optOf?_normal Secondary.toJson fun y hy => ⟨Secondary.ofJson?_toJson (h y hy), nofun⟩

/-- What is true of all alerts of a comparison is true of those of each list. -/
theorem Comparison.forall_mem_alerts_iff (c : Comparison) (P : Alert → Prop) :
    (∀ a ∈ c.alerts, P a) ↔ (∀ a ∈ c.new, P a) ∧ (∀ a ∈ c.fixed, P a) ∧ (∀ a ∈ c.matched, P a) ∧
      (∀ x ∈ c.vsPreviousCommit, ∀ a ∈ x.alerts, P a) ∧ ∀ x ∈ c.vsBranchPoint, ∀ a ∈ x.alerts, P a := by
  simp only [Comparison.alerts, List.forall_mem_append, List.forall_mem_flatMap, Option.mem_toList,
    Option.mem_def, and_assoc]

/-- The members of a comparison beside others with other names. -/
theorem Comparison.ofJson?_members {c : Comparison} (h : ∀ a ∈ c.alerts, a.Numbered) {m : String × Json}
    (hm : m.1 ∉ c.members.map (·.1)) : Comparison.ofJson? (Json.obj (m :: c.members)).normal = some c := by
  have hnames : ((m :: c.members).map (·.1)).Nodup := by
    rw [List.map_cons, List.nodup_cons]
    exact ⟨hm, by simp [Comparison.members]⟩
  have hfield : ∀ {α : Type} (name : String) (read : Json → Option α), m.1 ≠ name →
      (Json.obj (m :: c.members)).normal.field? name read =
        ((Json.obj c.members).get? name).bind fun v => read v.normal := by
    intro α name read hne
    rw [field?_normal hnames, get?, List.find?_cons_of_neg (by simpa using hne)]
    rfl
  have hother : ∀ name ∈ c.members.map (·.1), m.1 ≠ name := by
    rintro name hname rfl
    exact hm hname
  obtain ⟨hnew, hfixed, hmatched, hprevious, hbranch⟩ := (c.forall_mem_alerts_iff _).1 h
  unfold Comparison.ofJson?
  simp only [Comparison.members, List.map_cons, List.forall_mem_cons] at hother
  simp only [hfield, hother, ne_eq, not_false_eq_true]
  simp [Comparison.members, get?, Alert.listOf?_listToJson hnew, Alert.listOf?_listToJson hfixed,
    Alert.listOf?_listToJson hmatched, Secondary.optOf?_optToJson hprevious, Secondary.optOf?_optToJson hbranch,
    optStr?_normal]

end Remote

theorem Findings.ofJson?_toJson {f : Findings} (h : ∀ a ∈ (Outcome.mk .none f).alerts, a.Numbered) :
    Findings.ofJson? f.toJson.normal = some f := by
  cases f with
  | baseline filtered unfiltered =>
    have hfield : ∀ {α : Type} (name : String) (read : Json → Option α),
        (Findings.baseline filtered unfiltered).toJson.normal.field? name read =
          ((Findings.baseline filtered unfiltered).toJson.get? name).bind fun v => read v.normal :=
      fun name read => field?_normal (by simp) name read
    have hfiltered := Baseline.ofJson?_toJson fun a ha => h a (List.mem_append_left unfiltered.alerts ha)
    have hunfiltered := Baseline.ofJson?_toJson fun a ha => h a (List.mem_append_right filtered.alerts ha)
    unfold Findings.ofJson?
    simp only [hfield]
    simp [Findings.toJson, get?, hfiltered, hunfiltered, str?_normal]
  | remote c =>
    have hnames : ((("mode", Json.str "remote") :: c.members).map (·.1)).Nodup := by simp [Remote.Comparison.members]
    have hmode : (Findings.remote c).toJson.normal.field? "mode" str? = some "remote" := by
      rw [Findings.toJson, field?_normal hnames]
      rfl
    have hc : Remote.Comparison.ofJson? (Findings.remote c).toJson.normal = some c :=
      Remote.Comparison.ofJson?_members h (by simp [Remote.Comparison.members])
    unfold Findings.ofJson?
    simp [hmode, hc]

/-- An outcome is read out of its value. -/
theorem Outcome.ofJson?_toJson {o : Outcome} (h : o.Numbered) : Outcome.ofJson? o.toJson.normal = some o := by
  have hfield : ∀ {α : Type} (name : String) (read : Json → Option α),
      o.toJson.normal.field? name read = (o.toJson.get? name).bind fun v => read v.normal :=
    fun name read => field?_normal (by simp) name read
  have hfindings : Findings.ofJson? o.findings.toJson.normal = some o.findings := Findings.ofJson?_toJson h
  unfold Outcome.ofJson?
  simp only [hfield]
  simp [Outcome.toJson, get?, hfindings, Level.ofJson?_name]

/-! ## Values that can be read back -/

section Plain
variable (depth : Nat)

theorem plain_optStr (s : Option String) : Plain depth (.optStr s) := by
  cases s with
  | none => cases depth <;> trivial
  | some s => cases depth <;> trivial

theorem plain_optNat {n : Option Nat} (h : ∀ k ∈ n, k ≤ greatestNat) : Plain depth (optNat n) := by
  cases n with
  | none => cases depth <;> trivial
  | some k =>
    have hk : k ≤ greatestNat := h k rfl
    have hfits : Fits (.int k) := ⟨by omega, by omega⟩
    cases depth <;> exact hfits

theorem Alert.plain_toJson {a : Alert} (h : a.Numbered) : Plain (depth + 1) a.toJson := by
  simp only [Alert.toJson, Plain, List.forall_mem_cons]
  simp [plain_optStr, plain_optNat depth h]

theorem Alert.plain_listToJson {as : List Alert} (h : ∀ a ∈ as, a.Numbered) :
    Plain (depth + 2) (Alert.listToJson as) := by
  intro j hj
  obtain ⟨a, ha, rfl⟩ := List.mem_map.1 hj
  exact Alert.plain_toJson depth (h a ha)

theorem Baseline.plain_toJson {b : Baseline} (h : ∀ a ∈ b.alerts, a.Numbered) : Plain (depth + 3) b.toJson := by
  have hnew := Alert.plain_listToJson depth fun a ha => h a (List.mem_append_left b.absent ha)
  have habsent := Alert.plain_listToJson depth fun a ha => h a (List.mem_append_right b.new ha)
  simp only [Baseline.toJson, Plain, List.forall_mem_cons]
  exact ⟨hnew, habsent, nofun⟩

theorem Remote.Secondary.plain_optToJson {x : Option Remote.Secondary} (h : ∀ y ∈ x, ∀ a ∈ y.alerts, a.Numbered) :
    Plain (depth + 3) (Remote.Secondary.optToJson x) := by
  cases x with
  | none => trivial
  | some y =>
    have hnew := Alert.plain_listToJson depth fun a ha => h y rfl a (List.mem_append_left y.fixed ha)
    have hfixed := Alert.plain_listToJson depth fun a ha => h y rfl a (List.mem_append_right y.new ha)
    simp only [optToJson, Option.elim_some, toJson, Plain, List.forall_mem_cons]
    exact ⟨trivial, hnew, hfixed, nofun⟩

theorem Findings.plain_toJson {f : Findings} (h : ∀ a ∈ (Outcome.mk .none f).alerts, a.Numbered) :
    Plain (depth + 4) f.toJson := by
  cases f with
  | baseline filtered unfiltered =>
    have hfiltered := Baseline.plain_toJson depth fun a ha => h a (List.mem_append_left unfiltered.alerts ha)
    have hunfiltered := Baseline.plain_toJson depth fun a ha => h a (List.mem_append_right filtered.alerts ha)
    simp only [Findings.toJson, Plain, List.forall_mem_cons]
    exact ⟨trivial, hfiltered, hunfiltered, nofun⟩
  | remote c =>
    obtain ⟨hnew, hfixed, hmatched, hprevious, hbranch⟩ := (c.forall_mem_alerts_iff _).1 h
    simp only [Findings.toJson, Remote.Comparison.members, Plain, List.forall_mem_cons]
    exact ⟨trivial, Alert.plain_listToJson _ hnew, Alert.plain_listToJson _ hfixed,
      Alert.plain_listToJson _ hmatched, Remote.Secondary.plain_optToJson _ hprevious,
      Remote.Secondary.plain_optToJson _ hbranch, plain_optStr _ _, plain_optStr _ _, nofun⟩

theorem Outcome.plain_toJson {o : Outcome} (h : o.Numbered) : Plain (depth + 5) o.toJson := by
  have hfindings : Plain (depth + 4) o.findings.toJson := Findings.plain_toJson depth h
  simp only [Outcome.toJson, Plain, List.forall_mem_cons]
  exact ⟨trivial, hfindings, nofun⟩

end Plain

/-- The report is JSON, and its value is that of the outcome. -/
theorem Report.parse_json {o : Outcome} (h : o.Numbered) : Json.parse (Report.json o) = .ok o.toJson.normal :=
  parse_pretty (Outcome.plain_toJson 122 h)

/-! ## The outcomes of runs -/

theorem Remote.numbered_plainAlertOf (raw : Json) : (Remote.plainAlertOf raw).Numbered := by
  intro n hn
  obtain ⟨j, -, hj⟩ := Option.bind_eq_some_iff.1 (show (raw.get? "number").bind Json.nat? = some n from hn)
  unfold Json.nat? at hj
  split at hj
  · split at hj
    · rename_i k hbounds
      obtain rfl := Option.some.inj hj
      omega
    · cases hj
  · cases hj

theorem Remote.numbered_setOf {items : List Json} {a : Alert} (h : a ∈ (Remote.setOf items).alerts) : a.Numbered := by
  obtain ⟨before, later, heq, -⟩ := AlertSet.lastIn_of_mem_ofList h
  have hmem : a ∈ items.map Remote.plainAlertOf := by
    rw [heq]
    exact List.mem_append_right _ List.mem_cons_self
  obtain ⟨raw, -, rfl⟩ := List.mem_map.1 hmem
  exact Remote.numbered_plainAlertOf raw

theorem Remote.numbered_compare {service : Service} {ref : String} {c : Remote.Comparison}
    (h : result (Remote.compare service ref) = .ok c) : ∀ a ∈ c.alerts, a.Numbered := by
  obtain ⟨xs, ys, -, -, rfl⟩ := (Remote.compare_eq_ok_iff service ref c).1 h
  have hfurther : ∀ target, ∀ x ∈ Remote.furtherOf service (Remote.setOf xs) target, ∀ a ∈ x.alerts, a.Numbered := by
    intro target x hx a ha
    obtain ⟨t, items, rfl⟩ := Remote.eq_versus_of_furtherOf hx
    rcases List.mem_append.1 ha with hnew | hfixed
    · exact Remote.numbered_setOf (List.mem_filter.1 hnew).1
    · exact Remote.numbered_setOf (List.mem_filter.1 hfixed).1
  refine (Remote.Comparison.forall_mem_alerts_iff _ _).2 ⟨?_, ?_, ?_, hfurther _, hfurther _⟩
  · exact fun a ha => Remote.numbered_setOf (List.mem_filter.1 ha).1
  · exact fun a ha => Remote.numbered_setOf (List.mem_filter.1 ha).1
  · exact fun a ha => Remote.numbered_setOf (List.mem_filter.1 ha).1

namespace Baseline

theorem alerts_append (b c : Baseline) (a : Alert) : a ∈ (b.append c).alerts ↔ a ∈ b.alerts ∨ a ∈ c.alerts := by
  simp only [alerts, append, List.mem_append]
  exact or_or_or_comm

theorem numbered_ofResults (rules : Sarif.Rules) (results : List Json) :
    ∀ a ∈ (ofResults rules results).value.alerts, a.Numbered := by
  induction results with
  | nil => exact fun a ha => absurd ha List.not_mem_nil
  | cons r rs ih =>
    rw [ofResults]
    split
    · exact ih
    · rename_i state _
      have halert : ∀ a ∈ (single state (Sarif.alertOf rules r).value).alerts, a.number = none := by
        rw [Sarif.value_alertOf]
        cases state <;> simp [single, alerts, Sarif.plainAlertOf]
      intro a ha
      rcases (alerts_append _ _ a).1 ha with hsingle | hrest
      · intro n hn
        rw [halert a hsingle] at hn
        cases hn
      · exact ih a hrest

theorem numbered_ofRuns (runs : List Json) : ∀ a ∈ (ofRuns runs).value.alerts, a.Numbered := by
  induction runs with
  | nil => exact fun a ha => absurd ha List.not_mem_nil
  | cons run more ih =>
    intro a ha
    rw [ofRuns] at ha
    rcases (alerts_append _ _ a).1 ha with hrun | hmore
    · exact numbered_ofResults _ _ a hrun
    · exact ih a hmore

theorem mem_alerts_of_atThreshold {b : Baseline} {threshold : Level} {a : Alert}
    (h : a ∈ (b.atThreshold threshold).alerts) : a ∈ b.alerts := by
  rcases List.mem_append.1 h with hnew | habsent
  · exact List.mem_append_left _ (List.mem_filter.1 hnew).1
  · exact List.mem_append_right _ habsent

end Baseline

/-- Numbers of alerts have 64 bits in the outcome of every run. -/
theorem Reconcile.numbered_of_run {connect : Connector} {d : Disk} {s : Settings} {o : Outcome}
    (h : result (run connect d s) = .ok o) : o.Numbered := by
  obtain ⟨-, ⟨b, ⟨document, -, rfl⟩, hfindings⟩ | ⟨service, ref, c, hc, hfindings⟩⟩ := outcome_of_run h
  · have hb : ∀ a ∈ (Baseline.collect document).value.alerts, a.Numbered := Baseline.numbered_ofRuns _
    intro a ha
    rw [Outcome.alerts, hfindings] at ha
    rcases List.mem_append.1 ha with hfiltered | hunfiltered
    · exact hb a (Baseline.mem_alerts_of_atThreshold hfiltered)
    · exact hb a hunfiltered
  · intro a ha
    rw [Outcome.alerts, hfindings] at ha
    exact Remote.numbered_compare hc a ha

/-! ## The report -/

/-- **The JSON report tells all.** It is JSON, and the whole outcome can be read out of its value: mode and threshold,
and every field of every alert in every list. So two outcomes with the same report are the same. Numbers of alerts have
64 bits; those in the outcome of a run always do. -/
theorem json_tells_all :
    (∀ o : Outcome, o.Numbered →
      (∃ j, Json.parse (Report.json o) = .ok j ∧ Outcome.ofJson? j = some o) ∧
      ∀ o' : Outcome, o'.Numbered → Report.json o' = Report.json o → o' = o) ∧
    ∀ (connect : Reconcile.Connector) (d : Disk) (s : Settings) (o : Outcome),
      result (Reconcile.run connect d s) = .ok o → o.Numbered := by
  refine ⟨fun o h => ⟨⟨_, Report.parse_json h, Outcome.ofJson?_toJson h⟩, ?_⟩, ?_⟩
  · intro o' h' heq
    have hparse := Report.parse_json h'
    rw [heq, Report.parse_json h] at hparse
    have hread := Outcome.ofJson?_toJson h'
    rw [← Except.ok.inj hparse, Outcome.ofJson?_toJson h] at hread
    exact (Option.some.inj hread).symm
  · exact fun connect d s o h => Reconcile.numbered_of_run h

/-- A comparison with an alert of the greatest number, one without any, and an empty further comparison. -/
def rareOutcome : Outcome where
  threshold := .error
  findings := .remote
    { new := [⟨some greatestNat, some "", "r\u0000", .note, "\"é\n", "a:1", none, none, none, none, some "k"⟩]
      fixed := [⟨none, none, "", .none, "", "", none, none, none, none, none⟩]
      matched := []
      vsPreviousCommit := some ⟨"sha", [], []⟩
      vsBranchPoint := none
      baseSha := some ""
      previousCommit := none }

theorem json_tells_all_rare :
    rareOutcome.Numbered ∧
      ∃ j, Json.parse (Report.json rareOutcome) = .ok j ∧ Outcome.ofJson? j = some rareOutcome := by
  have hnumbered : rareOutcome.Numbered := by
    simp [Outcome.Numbered, rareOutcome, Outcome.alerts, Remote.Comparison.alerts, Remote.Secondary.alerts,
      Alert.Numbered]
  exact ⟨hnumbered, (json_tells_all.1 rareOutcome hnumbered).1⟩

end ScanDelta

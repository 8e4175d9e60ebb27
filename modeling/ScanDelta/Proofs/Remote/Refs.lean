import ScanDelta.Proofs.Reconcile
import ScanDelta.Proofs.Remote.Questions

/-!
# The refs that are asked for

* `PreviousCommit s ref t` : `t` is the hash before the last one of a pull request;
* `Asked s ref r` : a comparison comes to ask for the alerts of `r`; `asked_iff` : these are all it asks for;
* `base_ne_some_empty`, `baseTarget?_ne_some_empty` : a base is kept, and asked for, only by a text that is not empty;
* `Reconcile.Compares connect d s ref service` : a run compares a ref through a service;
* `Reconcile.run_asks_for_empty_ref_iff` : an empty ref is asked for exactly as the hash of a previous commit.
-/

set_option autoImplicit false

namespace ScanDelta

namespace Remote

/-! ## Pages and their refs -/

/-- The first page is always read. -/
theorem one_mem_pagesRead {α : Type} (answers : Nat → Except Failure (List α)) : 1 ∈ pagesRead answers := by
  obtain ⟨budget, hbudget⟩ : ∃ budget, Pages.lastPage = budget + 1 := ⟨Pages.lastPage - 1, by decide⟩
  rw [pagesRead, hbudget, pagesFrom]
  exact List.mem_cons_self

theorem exists_mem_alertCalls_iff (s : Service) (ref r : Option String) :
    (∃ page, .alerts r page ∈ alertCalls s ref) ↔ r = ref := by
  constructor
  · rintro ⟨page, h⟩
    obtain ⟨page', -, heq⟩ := List.mem_map.1 h
    exact (Call.alerts.inj heq).1.symm
  · rintro rfl
    exact ⟨1, List.mem_map_of_mem (one_mem_pagesRead _)⟩

theorem exists_mem_furtherCalls_iff (s : Service) (target r : Option String) :
    (∃ page, .alerts r page ∈ furtherCalls s target) ↔ ∃ t, target = some t ∧ r = some t := by
  cases target with
  | none => simp [furtherCalls]
  | some t =>
    simp only [Option.some.injEq, exists_eq_left']
    exact exists_mem_alertCalls_iff s (some t) r

theorem alerts_not_mem_metadataCalls (s : Service) (ref : String) (r : Option String) (page : Nat) :
    .alerts r page ∉ metadataCalls s ref := by
  rw [metadataCalls]
  cases RefKind.of ref <;> simp

theorem exists_mem_laterCalls_iff (s : Service) (ref : String) (r : Option String) :
    (∃ page, .alerts r page ∈ laterCalls s ref) ↔
      ∃ t, ((pullRefs s ref).value.previousCommit = some t ∨ baseTarget? s ref = some t) ∧ r = some t := by
  simp only [laterCalls, List.mem_append, alerts_not_mem_metadataCalls, false_or, exists_or,
    exists_mem_furtherCalls_iff, or_and_right]

/-! ## The refs of a pull request -/

/-- The ref is that of a pull request whose commits end with this one and one more. -/
def PreviousCommit (s : Service) (ref t : String) : Prop :=
  ∃ number older last, RefKind.of ref = .pull number ∧ EndsWith (s.commitAnswers number) (older ++ [t, last])

theorem previousCommit_eq_some_iff (s : Service) (ref t : String) :
    (pullRefs s ref).value.previousCommit = some t ↔ PreviousCommit s ref t := by
  by_cases hpull : ∀ number, RefKind.of ref ≠ .pull number
  · rw [value_pullRefs_of_ne_pull hpull]
    constructor
    · intro h
      cases h
    · rintro ⟨number, older, last, href, -⟩
      exact absurd href (hpull number)
  · obtain ⟨number, href⟩ := Classical.not_forall_not.1 hpull
    have hvalue : (pullRefs s ref).value.previousCommit =
        (listed? (s.commitAnswers number)).bind penultimate? := by
      rw [value_pullRefs href]
      cases s.pullAnswer number <;> rfl
    rw [hvalue, Option.bind_eq_some_iff]
    simp only [listed?_eq_some_iff, penultimate?_eq_some_iff]
    constructor
    · rintro ⟨shas, hshas, older, last, rfl⟩
      exact ⟨number, older, last, href, hshas⟩
    · rintro ⟨number', older, last, h, hshas⟩
      rw [href] at h
      cases h
      exact ⟨_, hshas, older, last, rfl⟩

/-- Of a base only texts that are not empty are kept. -/
theorem base_ne_some_empty (s : Service) (ref : String) :
    (pullRefs s ref).value.baseSha ≠ some "" ∧ (pullRefs s ref).value.baseRef ≠ some "" := by
  by_cases hpull : ∀ number, RefKind.of ref ≠ .pull number
  · rw [value_pullRefs_of_ne_pull hpull]
    exact ⟨(Option.some_ne_none "").symm, (Option.some_ne_none "").symm⟩
  · obtain ⟨number, href⟩ := Classical.not_forall_not.1 hpull
    rw [value_pullRefs href]
    cases s.pullAnswer number with
    | error e => exact ⟨(Option.some_ne_none "").symm, (Option.some_ne_none "").symm⟩
    | ok b => exact ⟨nonempty?_ne_some_empty b.sha, nonempty?_ne_some_empty b.ref⟩

theorem baseTarget?_ne_some_empty (s : Service) (ref : String) : baseTarget? s ref ≠ some "" := by
  obtain ⟨hsha, href⟩ := base_ne_some_empty s ref
  rw [baseTarget?, PullRefs.baseTarget]
  cases hs : (pullRefs s ref).value.baseSha with
  | none => exact href
  | some sha =>
    rw [hs] at hsha
    exact hsha

/-! ## The listings of a comparison -/

/-- The refs that a comparison comes to ask for; none stands for the default branch. -/
inductive Asked (s : Service) (ref : String) : Option String → Prop
  | subject : Asked s ref (some ref)
  | default {xs : List Json} (hsubject : EndsWith (s.alertAnswers (some ref)) xs) : Asked s ref none
  | previous {xs ys : List Json} {t : String} (hsubject : EndsWith (s.alertAnswers (some ref)) xs)
    (hdefault : EndsWith (s.alertAnswers none) ys) (h : PreviousCommit s ref t) : Asked s ref (some t)
  | base {xs ys : List Json} {t : String} (hsubject : EndsWith (s.alertAnswers (some ref)) xs)
    (hdefault : EndsWith (s.alertAnswers none) ys) (h : baseTarget? s ref = some t) : Asked s ref (some t)

theorem asked_iff (s : Service) (ref : String) (r : Option String) :
    (∃ page, .alerts r page ∈ calls (trace (compare s ref))) ↔ Asked s ref r := by
  rw [calls_compare]
  simp only [List.mem_append, exists_or, exists_mem_alertCalls_iff]
  constructor
  · rintro (rfl | ⟨page, hpage⟩)
    · exact .subject
    cases hx : readAll (s.alertAnswers (some ref)) with
    | error e =>
      rw [hx] at hpage
      cases hpage
    | ok xs =>
      have hsubject := (readAll_eq_ok_iff _ xs).1 hx
      rw [hx] at hpage
      rcases List.mem_append.1 hpage with hpage | hpage
      · rw [(exists_mem_alertCalls_iff s none r).1 ⟨page, hpage⟩]
        exact .default hsubject
      cases hy : readAll (s.alertAnswers none) with
      | error e =>
        rw [hy] at hpage
        cases hpage
      | ok ys =>
        have hdefault := (readAll_eq_ok_iff _ ys).1 hy
        rw [hy] at hpage
        obtain ⟨t, ht | ht, rfl⟩ := (exists_mem_laterCalls_iff s ref r).1 ⟨page, hpage⟩
        · exact .previous hsubject hdefault ((previousCommit_eq_some_iff s ref t).1 ht)
        · exact .base hsubject hdefault ht
  · intro h
    -- behind the two primary listings come the questions for the further refs
    have hlater : ∀ {xs ys t}, EndsWith (s.alertAnswers (some ref)) xs → EndsWith (s.alertAnswers none) ys →
        ((pullRefs s ref).value.previousCommit = some t ∨ baseTarget? s ref = some t) →
        ∃ page, .alerts (some t) page ∈ alertCalls s none ++ laterCalls s ref := by
      intro xs ys t _ _ ht
      obtain ⟨page, hpage⟩ := (exists_mem_laterCalls_iff s ref (some t)).2 ⟨t, ht, rfl⟩
      exact ⟨page, List.mem_append_right _ hpage⟩
    cases h with
    | subject => exact .inl rfl
    | default hsubject =>
      obtain ⟨page, hpage⟩ := (exists_mem_alertCalls_iff s none none).2 rfl
      rw [readAll_of_endsWith hsubject]
      exact .inr ⟨page, List.mem_append_left _ hpage⟩
    | previous hsubject hdefault ht =>
      have hrefs := (previousCommit_eq_some_iff s ref _).2 ht
      rw [readAll_of_endsWith hsubject, readAll_of_endsWith hdefault]
      exact .inr (hlater hsubject hdefault (.inl hrefs))
    | base hsubject hdefault ht =>
      rw [readAll_of_endsWith hsubject, readAll_of_endsWith hdefault]
      exact .inr (hlater hsubject hdefault (.inr ht))

/-- An empty ref can only be that of the previous commit. -/
theorem asked_empty_iff {s : Service} {ref : String} (hne : ref ≠ "") : Asked s ref (some "") ↔
    ∃ xs ys, EndsWith (s.alertAnswers (some ref)) xs ∧ EndsWith (s.alertAnswers none) ys ∧ PreviousCommit s ref "" := by
  constructor
  · intro h
    generalize hr : some "" = r at h
    cases h with
    | subject => exact absurd (Option.some.inj hr).symm hne
    | default hsubject => cases hr
    | previous hsubject hdefault h =>
      cases hr
      exact ⟨_, _, hsubject, hdefault, h⟩
    | base hsubject hdefault h =>
      cases hr
      exact absurd h (baseTarget?_ne_some_empty s ref)
  · rintro ⟨xs, ys, hsubject, hdefault, h⟩
    exact .previous hsubject hdefault h

theorem target_of_furtherOf {s : Service} {subject : AlertSet} {target : Option String} {x : Secondary}
    (h : furtherOf s subject target = some x) : target = some x.against := by
  obtain ⟨t, items, ht, -, -, rfl⟩ := (comparedWith_iff s subject target x).2 h
  exact ht

end Remote

/-! ## Runs that compare -/

namespace Reconcile

open Remote Disk

/-- The run compares this ref through this service. -/
def Compares (connect : Connector) (d : Disk) (s : Settings) (ref : String) (service : Service) : Prop :=
  TurnsToService d s ref ∧ ∃ repo token, s.repository = some repo ∧ s.token = some token ∧ token ≠ "" ∧
    connect repo token = .ok service

variable {connect : Connector} {d : Disk} {s : Settings}

theorem TurnsToService.ref_unique {ref ref' : String} (h : TurnsToService d s ref) (h' : TurnsToService d s ref') :
    ref = ref' := by
  obtain ⟨-, -, -, -, href, -⟩ := h
  obtain ⟨-, -, -, -, href', -⟩ := h'
  exact Option.some.inj (href.symm.trans href')

theorem TurnsToService.ne_empty {ref : String} (h : TurnsToService d s ref) : ref ≠ "" := by
  obtain ⟨-, -, -, -, -, hne⟩ := h
  exact hne

theorem Compares.unique {ref ref' : String} {service service' : Service} (h : Compares connect d s ref service)
    (h' : Compares connect d s ref' service') : ref = ref' ∧ service = service' := by
  obtain ⟨hturns, repo, token, hrepo, htoken, -, hc⟩ := h
  obtain ⟨hturns', repo', token', hrepo', htoken', -, hc'⟩ := h'
  cases hrepo.symm.trans hrepo'
  cases htoken.symm.trans htoken'
  exact ⟨hturns.ref_unique hturns', Except.ok.inj (hc.symm.trans hc')⟩

theorem Compares.result_run {ref : String} {service : Service} (h : Compares connect d s ref service) :
    result (run connect d s) = (fun c => ⟨s.minLevel, .remote c⟩) <$> result (compare service ref) := by
  obtain ⟨hturns, repo, token, hrepo, htoken, hne, hc⟩ := h
  rw [result_run_of_turns hturns, result_remotely hrepo htoken hne, hc, ok_bind]

/-- A run asks what its comparison asks, if there is one. -/
theorem mem_calls_run_iff (connect : Connector) (d : Disk) (s : Settings) (c : Call) :
    c ∈ calls (trace (run connect d s)) ↔
      ∃ ref service, Compares connect d s ref service ∧ c ∈ calls (trace (compare service ref)) := by
  have hcourse := course_run connect d s
  generalize result (run connect d s) = r at hcourse
  generalize trace (run connect d s) = events at hcourse
  cases hcourse with
  | unread ns hload =>
    rw [calls_notes]
    refine ⟨nofun, ?_⟩
    rintro ⟨ref, service, ⟨hturns, -⟩, -⟩
    exact absurd hload (hturns.ne_error _)
  | classified ns hb =>
    rw [calls_notes]
    refine ⟨nofun, ?_⟩
    rintro ⟨ref, service, ⟨hturns, -⟩, -⟩
    exact absurd hb (hturns.not_classified _)
  | noRepository ns h hr =>
    rw [calls_notes]
    refine ⟨nofun, ?_⟩
    rintro ⟨ref, service, ⟨-, repo, token, hrepo, -⟩, -⟩
    rw [hr] at hrepo
    cases hrepo
  | noToken ns h hr ht =>
    rw [calls_notes]
    refine ⟨nofun, ?_⟩
    rintro ⟨ref, service, ⟨-, repo, token, -, htoken, hne, -⟩, -⟩
    rw [htoken] at ht
    rcases ht with ht | ht
    · cases ht
    · exact absurd (Option.some.inj ht) hne
  | refused ns h hr ht hne hc =>
    rw [calls_append, calls_notes]
    refine ⟨nofun, ?_⟩
    rintro ⟨ref, service, ⟨-, repo, token, hrepo, htoken, -, hc'⟩, -⟩
    cases hr.symm.trans hrepo
    cases ht.symm.trans htoken
    rw [hc] at hc'
    cases hc'
  | @compared ns ns' ref token repo service h hr ht hne hc =>
    have hcompares : Compares connect d s ref service := ⟨h, repo, token, hr, ht, hne, hc⟩
    have hcalls : calls (ns.map .note ++ .connect token :: (ns'.map .note ++ trace (compare service ref))) =
        calls (trace (compare service ref)) := by
      rw [calls_append, calls_notes, List.nil_append]
      show calls (ns'.map .note ++ trace (compare service ref)) = _
      rw [calls_append, calls_notes, List.nil_append]
    rw [hcalls]
    constructor
    · intro hmem
      exact ⟨ref, service, hcompares, hmem⟩
    · rintro ⟨ref', service', h', hmem⟩
      obtain ⟨rfl, rfl⟩ := hcompares.unique h'
      exact hmem

theorem asked_run_iff (connect : Connector) (d : Disk) (s : Settings) (r : Option String) :
    (∃ page, .alerts r page ∈ calls (trace (run connect d s))) ↔
      ∃ ref service, Compares connect d s ref service ∧ Asked service ref r := by
  simp only [mem_calls_run_iff, ← asked_iff]
  constructor
  · rintro ⟨page, ref, service, hcompares, hpage⟩
    exact ⟨ref, service, hcompares, page, hpage⟩
  · rintro ⟨ref, service, hcompares, page, hpage⟩
    exact ⟨page, ref, service, hcompares, hpage⟩

theorem exists_compares_of_run {level : Level} {c : Comparison}
    (h : result (run connect d s) = .ok ⟨level, .remote c⟩) :
    ∃ ref service, Compares connect d s ref service ∧ result (compare service ref) = .ok c := by
  have hcourse := course_run connect d s
  rw [h] at hcourse
  generalize hr : Except.ok (⟨level, .remote c⟩ : Outcome) = r at hcourse
  generalize trace (run connect d s) = events at hcourse
  cases hcourse with
  | unread | noRepository | noToken | refused => cases hr
  | classified ns hb => cases hr
  | @compared ns ns' ref token repo service hturns hrepo htoken hne hc =>
    refine ⟨ref, service, ⟨hturns, repo, token, hrepo, htoken, hne, hc⟩, ?_⟩
    cases hcompare : result (compare service ref) with
    | error e =>
      rw [hcompare] at hr
      cases hr
    | ok c' =>
      rw [hcompare] at hr
      cases hr
      rfl

/-- **An empty ref is asked for only as the hash of a commit.** A run asks for the ref that is set, the default branch,
the previous commit and the base, each when those before it have been read. The ref and the base are not empty, but the
previous commit is what the list of commits says, so that an empty hash there asks for the alerts of an empty ref. -/
theorem run_asks_for_empty_ref_iff (connect : Connector) (d : Disk) (s : Settings) :
    (∀ r, (∃ page, .alerts r page ∈ calls (trace (run connect d s))) ↔
      ∃ ref service, Compares connect d s ref service ∧ Asked service ref r) ∧
    ((∃ page, .alerts (some "") page ∈ calls (trace (run connect d s))) ↔
      ∃ ref service xs ys, Compares connect d s ref service ∧ EndsWith (service.alertAnswers (some ref)) xs ∧
        EndsWith (service.alertAnswers none) ys ∧ PreviousCommit service ref "") ∧
    ∀ level c, result (run connect d s) = .ok ⟨level, .remote c⟩ →
      c.baseSha ≠ some "" ∧ (∀ x, c.vsBranchPoint = some x → x.against ≠ "") ∧
      (∀ x, c.vsPreviousCommit = some x → c.previousCommit = some x.against) ∧
      (c.previousCommit = some "" ↔
        ∃ ref service, Compares connect d s ref service ∧ PreviousCommit service ref "") := by
  refine ⟨asked_run_iff connect d s, ?_, ?_⟩
  · rw [asked_run_iff]
    constructor
    · rintro ⟨ref, service, hcompares, hasked⟩
      obtain ⟨xs, ys, hsubject, hdefault, hprevious⟩ := (asked_empty_iff hcompares.1.ne_empty).1 hasked
      exact ⟨ref, service, xs, ys, hcompares, hsubject, hdefault, hprevious⟩
    · rintro ⟨ref, service, xs, ys, hcompares, hsubject, hdefault, hprevious⟩
      exact ⟨ref, service, hcompares, .previous hsubject hdefault hprevious⟩
  · intro level c hc
    obtain ⟨ref, service, hcompares, hresult⟩ := exists_compares_of_run hc
    obtain ⟨xs, ys, -, -, rfl⟩ := (compare_eq_ok_iff service ref c).1 hresult
    rw [baseSha_comparisonOf, vsBranchPoint_comparisonOf, vsPreviousCommit_comparisonOf, previousCommit_comparisonOf]
    refine ⟨(base_ne_some_empty service ref).1, ?_, fun x => target_of_furtherOf, ?_⟩
    · intro x hx hagainst
      have htarget : baseTarget? service ref = some x.against := target_of_furtherOf hx
      rw [hagainst] at htarget
      exact baseTarget?_ne_some_empty service ref htarget
    · rw [previousCommit_eq_some_iff]
      constructor
      · intro h
        exact ⟨ref, service, hcompares, h⟩
      · rintro ⟨ref', service', h', h⟩
        obtain ⟨rfl, rfl⟩ := hcompares.unique h'
        exact h

/-- A service without alerts, with a pull request of two commits, the first of which has an empty hash. -/
def emptyHash : Service := .ofPages (fun _ => []) .null [[rawCommit "", rawCommit "head"]]

def emptyScan : Disk := ⟨.dir [("scan", .file "\x7b\x7d".toUTF8)], []⟩

def pullSettings : Settings := ⟨"/scan", some "refs/pull/7/merge", .warning, some ⟨"octo", "widgets"⟩, some "t", ""⟩

theorem compares_emptyHash :
    Compares (fun _ _ => .ok emptyHash) emptyScan pullSettings "refs/pull/7/merge" emptyHash := by
  have hnames : names "/scan" = ["scan"] := by decide
  have hscan : emptyScan.fileAt (names "/scan") = some "\x7b\x7d".toUTF8 := by
    rw [hnames]
    rfl
  have hload : result (Sarif.load emptyScan "/scan") = .ok (.obj []) :=
    Sarif.load_of_fileAt (by decide) hscan rfl rfl
  have hnew : (Baseline.collect (.obj [])).value.new = [] := rfl
  refine ⟨⟨.obj [], hload, ?_, rfl, rfl, by decide⟩, _, _, rfl, rfl, by decide, rfl⟩
  rw [hnew]
  exact fun a ha => absurd ha List.not_mem_nil

theorem run_asks_for_empty_ref :
    (∃ page, .alerts (some "") page ∈ calls (trace (run (fun _ _ => .ok emptyHash) emptyScan pullSettings))) ∧
    ∃ c, result (run (fun _ _ => .ok emptyHash) emptyScan pullSettings) = .ok ⟨.warning, .remote c⟩ ∧
      c.previousCommit = some "" := by
  have hsubject : EndsWith (emptyHash.alertAnswers (some "refs/pull/7/merge")) [] :=
    Service.endsWith_ofPages (fun _ => []) _ _ _ nofun (by decide)
  have hdefault : EndsWith (emptyHash.alertAnswers none) [] :=
    Service.endsWith_ofPages (fun _ => []) _ _ _ nofun (by decide)
  have hprevious : PreviousCommit emptyHash "refs/pull/7/merge" "" :=
    ⟨7, [], "head", by decide, [["", "head"]], ⟨rfl, List.cons_ne_nil _ _, trivial⟩, by decide, rfl, rfl⟩
  refine ⟨?_, comparisonOf emptyHash "refs/pull/7/merge" (setOf []) (setOf []), ?_, ?_⟩
  · rw [asked_run_iff]
    exact ⟨_, _, compares_emptyHash, .previous hsubject hdefault hprevious⟩
  · rw [compares_emptyHash.result_run, (compare_eq_ok_iff _ _ _).2 ⟨[], [], hsubject, hdefault, rfl⟩]
    rfl
  · rw [previousCommit_comparisonOf, previousCommit_eq_some_iff]
    exact hprevious

end Reconcile

end ScanDelta

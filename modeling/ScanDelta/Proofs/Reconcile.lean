import ScanDelta.Proofs.Remote.Steps
import ScanDelta.Proofs.Sarif.Document
import ScanDelta.Reconcile

/-!
# When a run turns to the service

* `TurnsToService d s ref` : the scan classifies nothing, and there is a ref to ask for;
* `classify`, `conclude`, `run_eq` : a run is what the scan shows, and what follows from it;
* `Course`, `course_run` : all that can happen in a run, with what it comes to and what it leaves;
* `Cause connect d s e` : the first obstacle of a run, in the order in which they are met;
* `OfService e` : a call to the service failed, as opposed to something local;
* `run_connects_only_when_needed` : when the connector is called, what a run fails with, and what it depends on.
-/

set_option autoImplicit false

namespace ScanDelta

/-! ## The choice of a comparison -/

theorem Strategy.select_eq_remote_iff (b : Baseline) (threshold : Level) (r : Option String) (ref : String) :
    Strategy.select (b.atThreshold threshold) r = .remote ref ↔
      (∀ a ∈ b.new, a.level.meets threshold = false) ∧ b.absent = [] ∧ r = some ref ∧ ref ≠ "" := by
  have hempty : (b.atThreshold threshold).isEmpty = true ↔
      (∀ a ∈ b.new, a.level.meets threshold = false) ∧ b.absent = [] := by
    simp [Baseline.isEmpty, Baseline.atThreshold]
  cases r with
  | none => simp [Strategy.select]
  | some r =>
    rw [← and_assoc, ← hempty, Strategy.select, Option.some.injEq]
    constructor
    · intro h
      split at h
      · rename_i hc
        cases h
        obtain ⟨hb, hr⟩ := Bool.and_eq_true_iff.1 hc
        exact ⟨hb, rfl, by simpa using hr⟩
      · cases h
    · rintro ⟨hb, rfl, hr⟩
      rw [hb, if_pos (by simpa using hr)]

namespace Reconcile

open Remote (Run Event calls tokens)

/-! ## What the scan shows -/

/-- The scan can be loaded, no new result reaches the threshold, none is absent, and there is a ref. -/
def TurnsToService (d : Disk) (s : Settings) (ref : String) : Prop :=
  ∃ document, result (Sarif.load d s.sarifPath) = .ok document ∧
    (∀ a ∈ (Baseline.collect document).value.new, a.level.meets s.minLevel = false) ∧
    (Baseline.collect document).value.absent = [] ∧ s.ref = some ref ∧ ref ≠ ""

/-- The results of a scan and the choice that follows from them. -/
def classify (d : Disk) (s : Settings) : Run (Baseline × Strategy) := do
  let document ← Sarif.load d s.sarifPath
  let unfiltered ← Baseline.collect document
  let filtered := unfiltered.atThreshold s.minLevel
  record ("SARIF baseline results: new=" ++ natText filtered.new.length ++ ", fixed=" ++
    natText filtered.absent.length)
  return (unfiltered, Strategy.select filtered s.ref)

/-- What a run comes to after the choice. -/
def conclude (connect : Connector) (s : Settings) : Baseline × Strategy → Run Outcome
  | (b, .baseline) => return ⟨s.minLevel, .baseline (b.atThreshold s.minLevel) b⟩
  | (_, .remote ref) => return ⟨s.minLevel, .remote (← remotely connect s ref)⟩

theorem run_eq (connect : Connector) (d : Disk) (s : Settings) :
    run connect d s = classify d s >>= conclude connect s := by
  unfold run classify
  simp only [bind_assoc, pure_bind]
  refine bind_congr fun document => bind_congr fun unfiltered => bind_congr fun _ => ?_
  cases Strategy.select (unfiltered.atThreshold s.minLevel) s.ref <;> rfl

theorem result_classify (d : Disk) (s : Settings) :
    result (classify d s) = (fun document =>
      ((Baseline.collect document).value,
        Strategy.select ((Baseline.collect document).value.atThreshold s.minLevel) s.ref)) <$>
          result (Sarif.load d s.sarifPath) := by
  rw [classify, result_bind]
  show result (Sarif.load d s.sarifPath) >>= _ = _
  cases result (Sarif.load d s.sarifPath) <;> rfl

theorem trace_classify (d : Disk) (s : Settings) : ∃ ns : List Note, trace (classify d s) = ns.map .note := by
  rw [classify, trace_bind, Remote.trace_notedTry, Remote.result_notedTry]
  cases result (Sarif.load d s.sarifPath) with
  | error e => exact ⟨trace (Sarif.load d s.sarifPath), List.append_nil _⟩
  | ok document =>
    simp only [Remote.trace_bind_noted, trace_pure, List.append_nil, ← List.map_append]
    exact ⟨_, rfl⟩

/-- The choice falls on the service exactly for a scan that classifies nothing. -/
theorem classify_remote_iff (d : Disk) (s : Settings) (ref : String) :
    (∃ b, result (classify d s) = .ok (b, .remote ref)) ↔ TurnsToService d s ref := by
  rw [result_classify]
  cases h : result (Sarif.load d s.sarifPath) with
  | error e =>
    constructor
    · rintro ⟨b, hb⟩
      cases hb
    · rintro ⟨document, hd, -⟩
      rw [h] at hd
      cases hd
  | ok document =>
    constructor
    · rintro ⟨b, hb⟩
      have hsel := (Prod.mk.inj (Except.ok.inj hb)).2
      exact ⟨document, h, (Strategy.select_eq_remote_iff _ _ _ _).1 hsel⟩
    · rintro ⟨document', hd, hcond⟩
      rw [h] at hd
      cases hd
      exact ⟨_, congrArg Except.ok (Prod.ext rfl ((Strategy.select_eq_remote_iff _ _ _ _).2 hcond))⟩

/-! ## The course of a run -/

/-- All that can happen in a run: what it comes to, and what it leaves. -/
inductive Course (connect : Connector) (d : Disk) (s : Settings) : Except Failure Outcome → List Event → Prop
  | unread (ns : List Note) {e : Failure} (hload : result (Sarif.load d s.sarifPath) = .error e) :
    Course connect d s (.error e) (ns.map .note)
  | classified (ns : List Note) {b : Baseline} (hb : result (classify d s) = .ok (b, .baseline)) :
    Course connect d s (.ok ⟨s.minLevel, .baseline (b.atThreshold s.minLevel) b⟩) (ns.map .note)
  | noRepository (ns : List Note) {ref : String} (h : TurnsToService d s ref) (hr : s.repository = none) :
    Course connect d s (.error noRepository) (ns.map .note)
  | noToken (ns : List Note) {ref : String} {repo : Repository} (h : TurnsToService d s ref)
    (hr : s.repository = some repo) (ht : s.token = none ∨ s.token = some "") :
    Course connect d s (.error noToken) (ns.map .note)
  | refused (ns : List Note) {ref token : String} {repo : Repository} {e : Failure} (h : TurnsToService d s ref)
    (hr : s.repository = some repo) (ht : s.token = some token) (hne : token ≠ "")
    (hc : connect repo token = .error e) :
    Course connect d s (.error e) (ns.map .note ++ [.connect token])
  | compared (ns ns' : List Note) {ref token : String} {repo : Repository} {service : Service}
    (h : TurnsToService d s ref) (hr : s.repository = some repo) (ht : s.token = some token) (hne : token ≠ "")
    (hc : connect repo token = .ok service) :
    Course connect d s ((fun c => ⟨s.minLevel, .remote c⟩) <$> result (Remote.compare service ref))
      (ns.map .note ++ .connect token :: (ns'.map .note ++ trace (Remote.compare service ref)))

variable {connect : Connector} {d : Disk} {s : Settings}

theorem Course.noted {r : Except Failure Outcome} {es : List Event} (h : Course connect d s r es) (ms : List Note) :
    Course connect d s r (ms.map .note ++ es) := by
  cases h with
  | unread ns hload => rw [← List.map_append]; exact .unread _ hload
  | classified ns hb => rw [← List.map_append]; exact .classified _ hb
  | noRepository ns h hr => rw [← List.map_append]; exact .noRepository _ h hr
  | noToken ns h hr ht => rw [← List.map_append]; exact .noToken _ h hr ht
  | refused ns h hr ht hne hc => rw [← List.append_assoc, ← List.map_append]; exact .refused _ h hr ht hne hc
  | compared ns ns' h hr ht hne hc => rw [← List.append_assoc, ← List.map_append]; exact .compared _ _ h hr ht hne hc

theorem filter_nonempty_eq_none_iff (t : Option String) :
    (t.filter fun r => !r.isEmpty) = none ↔ t = none ∨ t = some "" := by
  cases t <;> simp [Option.filter]

theorem filter_nonempty_eq_some_iff (t : Option String) (r : String) :
    (t.filter fun r => !r.isEmpty) = some r ↔ t = some r ∧ r ≠ "" := by
  rw [Option.filter_eq_some_iff]
  simp

theorem course_conclude {ref : String} (h : TurnsToService d s ref) (b : Baseline) :
    Course connect d s (result (conclude connect s (b, .remote ref)))
      (trace (conclude connect s (b, .remote ref))) := by
  rw [conclude, bind_pure_comp, result_map, trace_map, remotely, Remote.trace_bind_noted, result_bind,
    Remote.result_noted, ok_bind]
  refine Course.noted ?_ _
  cases hr : s.repository with
  | none => exact .noRepository [] h hr
  | some repo =>
    dsimp only
    cases ht : s.token.filter (fun t => !t.isEmpty) with
    | none => exact .noToken [] h hr ((filter_nonempty_eq_none_iff _).1 ht)
    | some token =>
      obtain ⟨ht, hne⟩ := (filter_nonempty_eq_some_iff _ _).1 ht
      dsimp only
      rw [trace_bind_traced, result_bind, result_traced, ok_bind]
      cases hc : connect repo token with
      | error e => exact .refused [] h hr ht hne hc
      | ok service =>
        dsimp only
        rw [Remote.trace_bind_noted, result_bind, Remote.result_noted, ok_bind]
        exact .compared [] _ h hr ht hne hc

/-- **A run takes one of these courses.** -/
theorem course_run (connect : Connector) (d : Disk) (s : Settings) :
    Course connect d s (result (run connect d s)) (trace (run connect d s)) := by
  obtain ⟨ns, hns⟩ := trace_classify d s
  rw [run_eq, result_bind, trace_bind, hns]
  cases hc : result (classify d s) with
  | error e =>
    rw [result_classify] at hc
    cases hl : result (Sarif.load d s.sarifPath) with
    | ok document =>
      rw [hl] at hc
      cases hc
    | error e' =>
      rw [hl] at hc
      cases hc
      rw [List.append_nil]
      exact .unread ns hl
  | ok c =>
    obtain ⟨b, _ | ref⟩ := c
    · show Course connect d s (.ok _) (ns.map .note ++ [])
      rw [List.append_nil]
      exact .classified ns hc
    · exact (course_conclude ((classify_remote_iff d s ref).1 ⟨b, hc⟩) b).noted ns

/-! ## What a run fails with -/

/-- The obstacles to a run in the order in which they are met, each where there is none before it. -/
inductive Cause (connect : Connector) (d : Disk) (s : Settings) : Failure → Prop
  | load {e : Failure} (hload : result (Sarif.load d s.sarifPath) = .error e) : Cause connect d s e
  | repository {ref : String} (h : TurnsToService d s ref) (hr : s.repository = none) :
    Cause connect d s noRepository
  | token {ref : String} {repo : Repository} (h : TurnsToService d s ref) (hr : s.repository = some repo)
    (ht : s.token = none ∨ s.token = some "") : Cause connect d s noToken
  | connector {ref token : String} {repo : Repository} {e : Failure} (h : TurnsToService d s ref)
    (hr : s.repository = some repo) (ht : s.token = some token) (hne : token ≠ "")
    (hc : connect repo token = .error e) : Cause connect d s e
  | comparison {ref token : String} {repo : Repository} {service : Service} {e : Failure}
    (h : TurnsToService d s ref) (hr : s.repository = some repo) (ht : s.token = some token) (hne : token ≠ "")
    (hc : connect repo token = .ok service) (he : result (Remote.compare service ref) = .error e) :
    Cause connect d s e

theorem TurnsToService.ne_error {ref : String} (h : TurnsToService d s ref) (e : Failure) :
    result (Sarif.load d s.sarifPath) ≠ .error e := by
  obtain ⟨document, hd, -⟩ := h
  rw [hd]
  exact nofun

theorem TurnsToService.not_classified {ref : String} (h : TurnsToService d s ref) (b : Baseline) :
    result (classify d s) ≠ .ok (b, .baseline) := by
  obtain ⟨b', hb'⟩ := (classify_remote_iff d s ref).2 h
  rw [hb']
  intro he
  cases he

theorem cause_of_error {r : Except Failure Outcome} {es : List Event} (h : Course connect d s r es) {e : Failure}
    (he : r = .error e) : Cause connect d s e := by
  cases h with
  | unread ns hload => cases he; exact .load hload
  | classified ns hb => cases he
  | noRepository ns h hr => cases he; exact .repository h hr
  | noToken ns h hr ht => cases he; exact .token h hr ht
  | refused ns h hr ht hne hc => cases he; exact .connector h hr ht hne hc
  | compared ns ns' h hr ht hne hc =>
    rename_i ref token repo service
    cases hres : result (Remote.compare service ref) with
    | ok c => rw [hres] at he; cases he
    | error e' => rw [hres] at he; cases he; exact .comparison h hr ht hne hc hres

theorem result_run_of_turns {ref : String} (h : TurnsToService d s ref) :
    result (run connect d s) = (fun c => ⟨s.minLevel, .remote c⟩) <$> result (remotely connect s ref) := by
  obtain ⟨b, hb⟩ := (classify_remote_iff d s ref).2 h
  rw [run_eq, result_bind, hb, ok_bind, conclude, bind_pure_comp, result_map]

/-- With a repository and a token, a comparison is up to the connector and the service. -/
theorem result_remotely {ref token : String} {repo : Repository} (hr : s.repository = some repo)
    (ht : s.token = some token) (hne : token ≠ "") :
    result (remotely connect s ref) =
      connect repo token >>= fun service => result (Remote.compare service ref) := by
  have hfilter := (filter_nonempty_eq_some_iff s.token token).2 ⟨ht, hne⟩
  unfold remotely
  rw [result_bind, Remote.result_noted, ok_bind, hr]
  dsimp only
  rw [hfilter]
  dsimp only
  rw [result_bind, result_traced, ok_bind]
  cases connect repo token with
  | error e => rfl
  | ok service =>
    dsimp only
    rw [result_bind, Remote.result_noted, ok_bind, ok_bind]

theorem error_of_cause {e : Failure} (h : Cause connect d s e) : result (run connect d s) = .error e := by
  cases h with
  | load hload =>
    rw [run_eq, result_bind, result_classify, hload]
    rfl
  | repository h hr =>
    rw [result_run_of_turns h, remotely, hr]
    rfl
  | token h hr ht =>
    have hfilter := (filter_nonempty_eq_none_iff s.token).2 ht
    rw [result_run_of_turns h, remotely, hr, hfilter]
    rfl
  | connector h hr ht hne hc =>
    rw [result_run_of_turns h, result_remotely hr ht hne, hc]
    rfl
  | comparison h hr ht hne hc he =>
    rw [result_run_of_turns h, result_remotely hr ht hne, hc, ok_bind, he]
    rfl

/-! ## What a run leaves -/

/-- The run turns to the service, and has a repository and this token for it. -/
def Connects (d : Disk) (s : Settings) (token : String) : Prop :=
  (∃ ref, TurnsToService d s ref) ∧ s.repository ≠ none ∧ s.token = some token ∧ token ≠ ""

theorem TurnsToService.connects {ref token : String} {repo : Repository} (h : TurnsToService d s ref)
    (hr : s.repository = some repo) (ht : s.token = some token) (hne : token ≠ "") : Connects d s token := by
  have hrepository : s.repository ≠ none := by
    rw [hr]
    exact Option.some_ne_none repo
  exact ⟨⟨ref, h⟩, hrepository, ht, hne⟩

/-- The connector is called once, with the token, or neither it nor the service is called. -/
theorem tokens_of_course {r : Except Failure Outcome} {es : List Event} (h : Course connect d s r es) :
    (tokens es = [] ∧ calls es = [] ∧ ∀ token, ¬ Connects d s token) ∨
      ∃ token, tokens es = [token] ∧ Connects d s token := by
  cases h with
  | unread ns hload =>
    refine .inl ⟨Remote.tokens_notes _, Remote.calls_notes _, ?_⟩
    rintro token ⟨⟨ref, h⟩, -⟩
    exact h.ne_error _ hload
  | classified ns hb =>
    refine .inl ⟨Remote.tokens_notes _, Remote.calls_notes _, ?_⟩
    rintro token ⟨⟨ref, h⟩, -⟩
    exact h.not_classified _ hb
  | noRepository ns h hr =>
    refine .inl ⟨Remote.tokens_notes _, Remote.calls_notes _, ?_⟩
    rintro token ⟨-, hr', -⟩
    exact hr' hr
  | noToken ns h hr ht =>
    refine .inl ⟨Remote.tokens_notes _, Remote.calls_notes _, ?_⟩
    rintro token ⟨-, -, ht', hne⟩
    rw [ht'] at ht
    rcases ht with ht | ht
    · cases ht
    · exact hne (Option.some.inj ht)
  | refused ns h hr ht hne hc =>
    refine .inr ⟨_, ?_, h.connects hr ht hne⟩
    rw [Remote.tokens_append, Remote.tokens_notes]
    rfl
  | compared ns ns' h hr ht hne hc =>
    rename_i ref token repo service
    refine .inr ⟨token, ?_, h.connects hr ht hne⟩
    have hrest : tokens (ns'.map .note ++ trace (Remote.compare service ref)) = [] := by
      rw [Remote.tokens_append, Remote.tokens_notes, Remote.tokens_compare, List.append_nil]
    rw [Remote.tokens_append, Remote.tokens_notes]
    exact congrArg (token :: ·) hrest

theorem mem_tokens_run_iff (connect : Connector) (d : Disk) (s : Settings) (token : String) :
    token ∈ tokens (trace (run connect d s)) ↔ Connects d s token := by
  rcases tokens_of_course (course_run connect d s) with ⟨hnone, -, h⟩ | ⟨token', hone, h⟩
  · rw [hnone]
    exact ⟨fun hm => absurd hm List.not_mem_nil, fun hc => absurd hc (h token)⟩
  · rw [hone, List.mem_singleton]
    constructor
    · rintro rfl
      exact h
    · rintro ⟨-, -, ht, -⟩
      exact Option.some.inj (ht.symm.trans h.2.2.1)

/-- A call to the service failed: it told of a failure, or answered in another form, or not at all. -/
inductive OfService : Failure → Prop
  | refused (method url : String) (status : Nat) (body : String) : OfService (.remote method url status body)
  | unexpected (text : String) : OfService (.unexpectedResponse text)
  | unanswered (cause : Http.Error) : OfService (.http cause)

theorem isRemote_iff (e : Failure) : e.isRemote = true ↔ OfService e := by
  cases e with
  | remote method url status body => exact iff_of_true rfl (.refused method url status body)
  | unexpectedResponse text => exact iff_of_true rfl (.unexpected text)
  | http cause => exact iff_of_true rfl (.unanswered cause)
  | config | notJson | notFound | file => exact iff_of_false nofun nofun

/-- A failure of the service needs a call of the connector. -/
theorem tokens_ne_nil_of_isRemote {r : Except Failure Outcome} {es : List Event} (h : Course connect d s r es)
    {e : Failure} (he : r = .error e) (hremote : e.isRemote = true) : tokens es ≠ [] := by
  rcases tokens_of_course h with ⟨hnone, -, hnot⟩ | ⟨token, hone, -⟩
  · cases h with
    | unread ns hload =>
      cases he
      rw [Sarif.not_isRemote_of_load hload] at hremote
      cases hremote
    | classified ns hb => cases he
    | noRepository ns h hr => cases he; cases hremote
    | noToken ns h hr ht => cases he; cases hremote
    | refused ns h hr ht hne hc => exact absurd (h.connects hr ht hne) (hnot _)
    | compared ns ns' h hr ht hne hc => exact absurd (h.connects hr ht hne) (hnot _)
  · rw [hone]
    exact List.cons_ne_nil _ _

/-! ## What a run depends on -/

theorem remotely_congr {connect' : Connector} (ref : String)
    (h : ∀ repo token, s.repository = some repo → s.token = some token → token ≠ "" →
      connect' repo token = connect repo token) :
    remotely connect' s ref = remotely connect s ref := by
  rw [remotely, remotely]
  cases hr : s.repository with
  | none => rfl
  | some repo =>
    dsimp only
    cases ht : s.token.filter (fun t => !t.isEmpty) with
    | none => rfl
    | some token =>
      obtain ⟨ht, hne⟩ := (filter_nonempty_eq_some_iff _ _).1 ht
      dsimp only
      rw [h repo token hr ht hne]

/-- A run depends on its connector through the call that it makes. -/
theorem run_congr {connect' : Connector}
    (h : ∀ repo token, s.repository = some repo → token ∈ tokens (trace (run connect d s)) →
      connect' repo token = connect repo token) :
    run connect' d s = run connect d s := by
  rw [run_eq, run_eq]
  refine bind_congr_result fun c hc => ?_
  obtain ⟨b, _ | ref⟩ := c
  · rfl
  · have hturns := (classify_remote_iff d s ref).1 ⟨b, hc⟩
    rw [conclude, conclude, remotely_congr ref]
    intro repo token hr ht hne
    have hconnects := hturns.connects hr ht hne
    exact h repo token hr ((mem_tokens_run_iff connect d s token).2 hconnects)

/-- A run that the scan decides is the same for all repositories, tokens and connectors. -/
theorem run_eq_of_classified {b : Baseline} (hb : result (classify d s) = .ok (b, .baseline)) (connect' : Connector)
    (repository : Option Repository) (token : Option String) (apiUrl : String) :
    run connect' d { s with repository := repository, token := token, apiUrl := apiUrl } = run connect d s := by
  rw [run_eq, run_eq]
  show classify d s >>= _ = _
  refine bind_congr_result fun c hc => ?_
  rw [hb] at hc
  cases hc
  rfl

/-- **A run connects only when it has to.** The connector is called if the scan can be loaded and classifies nothing
at the threshold, a ref and a repository are given, and the token is not empty: once, and with that token. The run
fails with the first obstacle it meets, and with a failure of the service only if it has connected. Where the scan
decides, the run succeeds whatever the service is. -/
theorem run_connects_only_when_needed (connect : Connector) (d : Disk) (s : Settings) :
    (∀ token, token ∈ tokens (trace (run connect d s)) ↔
      (∃ ref, TurnsToService d s ref) ∧ s.repository ≠ none ∧ s.token = some token ∧ token ≠ "") ∧
    (tokens (trace (run connect d s))).length ≤ 1 ∧
    (tokens (trace (run connect d s)) = [] → calls (trace (run connect d s)) = []) ∧
    (∀ connect' : Connector, (∀ repo token, s.repository = some repo → token ∈ tokens (trace (run connect d s)) →
      connect' repo token = connect repo token) → run connect' d s = run connect d s) ∧
    (∀ e, result (run connect d s) = .error e ↔ Cause connect d s e) ∧
    (∀ e ∈ [noRepository, noToken], ∃ text, e = .config text) ∧
    (∀ document, result (Sarif.load d s.sarifPath) = .ok document → (∀ ref, ¬ TurnsToService d s ref) →
      result (run connect d s) = .ok ⟨s.minLevel, .baseline
        ((Baseline.collect document).value.atThreshold s.minLevel) (Baseline.collect document).value⟩ ∧
      ∀ (connect' : Connector) (repository : Option Repository) (token : Option String) (apiUrl : String),
        run connect' d { s with repository := repository, token := token, apiUrl := apiUrl } = run connect d s) ∧
    (∀ e, result (run connect d s) = .error e → e.isRemote = true → tokens (trace (run connect d s)) ≠ []) ∧
    ∀ e : Failure, e.isRemote = true ↔ OfService e := by
  have hcourse := course_run connect d s
  refine ⟨mem_tokens_run_iff connect d s, ?_, ?_, fun connect' h => run_congr h,
    fun e => ⟨cause_of_error hcourse, error_of_cause⟩, ?_, ?_, fun e => tokens_ne_nil_of_isRemote hcourse,
    isRemote_iff⟩
  · rcases tokens_of_course hcourse with ⟨hnone, -⟩ | ⟨token, hone, -⟩
    · rw [hnone]
      exact Nat.zero_le 1
    · rw [hone]
      exact Nat.le_refl 1
  · intro h
    rcases tokens_of_course hcourse with ⟨-, hcalls, -⟩ | ⟨token, hone, -⟩
    · exact hcalls
    · rw [h] at hone
      cases hone
  · intro e he
    simp only [List.mem_cons, List.not_mem_nil, or_false] at he
    rcases he with rfl | rfl
    · exact ⟨_, rfl⟩
    · exact ⟨_, rfl⟩
  · intro document hd hnot
    have hb : result (classify d s) = .ok ((Baseline.collect document).value, .baseline) := by
      have hc : result (classify d s) = .ok ((Baseline.collect document).value,
          Strategy.select ((Baseline.collect document).value.atThreshold s.minLevel) s.ref) := by
        rw [result_classify, hd]
        rfl
      cases hsel : Strategy.select ((Baseline.collect document).value.atThreshold s.minLevel) s.ref with
      | baseline => rw [hc, hsel]
      | remote ref => exact absurd ((classify_remote_iff d s ref).1 ⟨_, by rw [hc, hsel]⟩) (hnot ref)
    refine ⟨?_, run_eq_of_classified hb⟩
    rw [run_eq, result_bind, hb]
    rfl

end Reconcile

end ScanDelta

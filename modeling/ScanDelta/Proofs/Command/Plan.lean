import Mathlib.Logic.Basic
import ScanDelta.Command.Invocation
import ScanDelta.Command.Plan
import ScanDelta.Proofs.Config
import ScanDelta.Proofs.Reconcile
import ScanDelta.Proofs.Remote.Repository

/-!
# Where the values of a plan come from

* `Ranked otherwise sources v` : `v` is the value of the first source that is set, or else the default;
* `checkArguments_eq_ok_iff`, `Holds`, `holds_of_checkArguments` : what the arguments of a check hold;
* `consulted? r d` : the settings of the configuration file, unless it is left out;
* `BadLevel r c`, `FromSources env r c p` : the one reason for there being no plan, and what a plan consists of;
* `DefaultReport env path`, `DefaultLog env path` : where the report and the log go if nothing sets it;
* `planWith`, `resolve_eq`, `fromSources_planWith` : a plan is made from its sources, once it has a level;
* `AgreeWhereUnset env r c c'`, `resolve_eq_of_agree` : what is set above a configuration makes no difference;
* `plan_ranks_its_sources` : the plan of a check, for every command line, environment and disk.
-/

set_option autoImplicit false

namespace ScanDelta.Command

/-! ## Ranked sources -/

section Ranked
variable {α β : Type}

/-- The value of the first source that is set, or else the default. -/
inductive Ranked (otherwise : α) : List (Option α) → α → Prop
  | set (v : α) (lower : List (Option α)) : Ranked otherwise (some v :: lower) v
  | unset {lower : List (Option α)} {v : α} (h : Ranked otherwise lower v) : Ranked otherwise (none :: lower) v
  | default : Ranked otherwise [] otherwise

theorem ranked_orElse (otherwise : α) (first second : Option α) :
    Ranked otherwise [first, second] ((first <|> second).getD otherwise) := by
  cases first with
  | some v => exact .set v _
  | none =>
    cases second with
    | some v => exact .unset (.set v _)
    | none => exact .unset (.unset .default)

/-- A source that is two, the first before the second. -/
theorem Ranked.split {otherwise v : α} {first second : Option α} {lower : List (Option α)}
    (h : Ranked otherwise ((first <|> second) :: lower) v) : Ranked otherwise (first :: second :: lower) v := by
  cases first with
  | none => exact .unset h
  | some w =>
    cases h
    exact .set _ _

/-- What stands below a source that is set does not matter. -/
theorem Ranked.eq_of_set {otherwise v w : α} {lower : List (Option α)} (h : Ranked otherwise (some v :: lower) w) :
    w = v := by
  cases h
  rfl

theorem Ranked.of_unset {otherwise v : α} {lower : List (Option α)} (h : Ranked otherwise (none :: lower) v) :
    Ranked otherwise lower v := by
  cases h
  assumption

theorem Ranked.map (f : α → β) {otherwise v : α} {sources : List (Option α)} (h : Ranked otherwise sources v) :
    Ranked (f otherwise) (sources.map (Option.map f)) (f v) := by
  induction h with
  | set v lower => exact .set (f v) _
  | unset _ ih => exact .unset ih
  | default => exact .default

/-- A reader that understands what is there. -/
theorem map_eq_bind_map {o : Option α} {f : α → Option β} (h : ∀ a, o = some a → (f a).isSome) :
    o.map f = (o.bind f).map some := by
  cases o with
  | none => rfl
  | some a =>
    obtain ⟨b, hb⟩ := Option.isSome_iff_exists.1 (h a rfl)
    rw [Option.map_some, Option.bind_some, hb, Option.map_some]

theorem eq_none_iff_of_map_eq {γ : Type} {o : Option α} {o' : Option β} {f : α → γ} {g : β → γ}
    (h : o.map f = o'.map g) : o = none ↔ o' = none := by
  rw [← Option.map_eq_none_iff (f := f), h, Option.map_eq_none_iff]

theorem orElse_eq_none_iff (first second : Option α) : (first <|> second) = none ↔ first = none ∧ second = none := by
  cases first <;> simp

theorem orElse_congr {first second second' : Option α} (h : first = none → second = second') :
    (first <|> second) = (first <|> second') := by
  cases first with
  | some v => rfl
  | none => exact h rfl

end Ranked

/-! ## The arguments of a check -/

theorem forM_eq_ok_iff {ε α : Type} (f : α → Except ε Unit) (xs : List α) :
    xs.forM f = .ok () ↔ ∀ x ∈ xs, f x = .ok () := by
  induction xs with
  | nil => exact iff_of_true rfl nofun
  | cons x xs ih =>
    show (f x >>= fun _ => xs.forM f) = .ok () ↔ _
    rw [bind_eq_ok_iff, List.forall_mem_cons, ← ih]
    exact ⟨fun ⟨_, h⟩ => h, fun h => ⟨(), h⟩⟩

theorem Parameter.mem_all (p : Parameter) : p ∈ Parameter.all := by cases p <;> decide

/-- The arguments come from the values of the parameters, each of which is of its kind. -/
theorem checkArguments_eq_ok_iff (env : Environment) (r : Reading) (a : CheckArguments) :
    checkArguments env r = .ok a ↔ (∀ p v, valueOf env r p = some v → p.kind.check v = .ok ()) ∧
      CheckArguments.ofValues (valueOf env r) (r.switches.contains .noConfig) = .ok a := by
  have hchecks : (Parameter.all.forM fun p => (valueOf env r p).elim (.ok ()) p.kind.check) = .ok () ↔
      ∀ p v, valueOf env r p = some v → p.kind.check v = .ok () := by
    rw [forM_eq_ok_iff]
    refine ⟨fun h p v hv => ?_, fun h p _ => ?_⟩
    · have hp := h p p.mem_all
      rwa [hv] at hp
    · cases hv : valueOf env r p with
      | none => rfl
      | some v => exact h p v hv
  rw [checkArguments, bind_eq_ok_iff, ← hchecks]
  exact ⟨fun ⟨_, h⟩ => h, fun h => ⟨(), h⟩⟩

/-- A check that a reader understands a value. -/
theorem isSome_of_check {α : Type} {o : Option α} {e : Refusal}
    (h : (if o.isSome then .ok () else .error e : Except Refusal Unit) = .ok ()) : o.isSome := by
  by_cases hsome : o.isSome
  · exact hsome
  · rw [if_neg hsome] at h
    cases h

/-! ## Sources of a plan -/

/-- The settings of the configuration file that a check consults; none if it is told not to, or there is none. -/
def consulted? (r : Reading) (d : Disk) : Option Config :=
  if .noConfig ∈ r.switches then none else (Config.load d d.cwdPath).value

/-- There is no level on the command line, and that of the configuration is none. -/
def BadLevel (r : Reading) (c : Option Config) : Prop :=
  r.value? .minLevel = none ∧ ∃ raw, c.bind (·.minLevel) = some raw ∧ Level.parse? raw = none

/-- The repository of an owner and a name that are both given and not empty, or else that of the combined name. -/
inductive Names (owner name combined : Option String) : Option Repository → Prop
  | both {o n : String} (ho : owner = some o) (hn : name = some n) (hne : o ≠ "" ∧ n ≠ "") :
    Names owner name combined (some ⟨o, n⟩)
  | combined {s : String} {repo : Repository} (hnot : ∀ o n, owner = some o → name = some n → o = "" ∨ n = "")
    (hs : combined = some s) (hrepo : Repository.Splits s repo) : Names owner name combined (some repo)
  | absent (hnot : ∀ o n, owner = some o → name = some n → o = "" ∨ n = "")
    (hrepo : ∀ s, combined = some s → ∀ repo, ¬ Repository.Splits s repo) : Names owner name combined none

/-- The token that is given, if it is not empty, or else the spare one. -/
inductive Token (given spare : Option String) : Option String → Prop
  | given {t : String} (h : given = some t) (hne : t ≠ "") : Token given spare (some t)
  | spare (h : ∀ t, given = some t → t = "") : Token given spare spare

/-- The directory for the files of a run, if it is named, or else another one. -/
inductive Directory (env : Environment) (other : String) : String → Prop
  | run {dir : String} (h : env.get? "RUNNER_TEMP" = some dir) (hne : dir ≠ "") : Directory env other dir
  | other (h : ∀ dir, env.get? "RUNNER_TEMP" = some dir → dir = "") : Directory env other other

/-- The file for the report if none is set. -/
def DefaultReport (env : Environment) (path : String) : Prop :=
  ∃ dir, Directory env "." dir ∧ path = Path.join dir "codeql-alerts.md"

/-- The file for the log if none is set. -/
def DefaultLog (env : Environment) (path : String) : Prop :=
  ∃ temp dir, Ranked "/tmp" [env.get? "TMPDIR"] temp ∧ Directory env temp dir ∧
    path = Path.join dir "codeql-alerts.log"

/-- A plan of what the command line, the variables and the consulted configuration set. -/
structure FromSources (env : Environment) (r : Reading) (c : Option Config) (p : Plan) : Prop where
  minLevel : Ranked (some .warning)
    [(r.value? .minLevel).map Level.parse?, (c.bind (·.minLevel)).map Level.parse?] (some p.settings.minLevel)
  maxResults : Ranked (some 20)
    [(r.value? .maxResults).map Unsigned.parse?, (c.bind (·.maxResults)).map some] (some p.maxResults)
  reportPath : ∃ path, DefaultReport env path ∧ Ranked path [r.value? .reportPath, c.bind (·.reportPath)] p.reportPath
  logPath : ∃ path, DefaultLog env path ∧
    Ranked path [r.value? .logPath, env.get? "ALERTDIFF_LOG_PATH", c.bind (·.logPath)] p.logPath
  repository : Names (r.value? .owner) (r.value? .repo) (r.value? .repository <|> env.get? "GITHUB_REPOSITORY")
    p.settings.repository
  token : Token (r.value? .token <|> env.get? "GITHUB_TOKEN") (env.get? "GH_TOKEN") p.settings.token
  ref (s : String) : p.settings.ref = some s ↔ r.value? .ref = some s ∧ s ≠ ""

/-- Two configurations with the same tool label that agree on what neither the command line nor a variable sets. -/
structure AgreeWhereUnset (env : Environment) (r : Reading) (c c' : Option Config) : Prop where
  minLevel (h : r.value? .minLevel = none) : c.bind (·.minLevel) = c'.bind (·.minLevel)
  maxResults (h : r.value? .maxResults = none) : c.bind (·.maxResults) = c'.bind (·.maxResults)
  reportPath (h : r.value? .reportPath = none) : c.bind (·.reportPath) = c'.bind (·.reportPath)
  logPath (h : r.value? .logPath = none) (henv : env.get? "ALERTDIFF_LOG_PATH" = none) :
    c.bind (·.logPath) = c'.bind (·.logPath)
  toolLabel : c.bind (·.toolLabel) = c'.bind (·.toolLabel)

/-! ## Plans -/

section Resolve
variable {env : Environment} {r : Reading} {a : CheckArguments}

/-- What is not set by any configuration. -/
theorem field_getD_empty {α : Type} (field : Config → Option α) (h : field .empty = none) (c : Option Config) :
    field (c.getD .empty) = c.bind field := by
  cases c with
  | none => exact h
  | some c => rfl

theorem value_configuration (h : a.noConfig = r.switches.contains .noConfig) (d : Disk) :
    (Plan.configuration a d).value = (consulted? r d).getD .empty := by
  rw [Plan.configuration, consulted?, h]
  by_cases hno : Switch.noConfig ∈ r.switches
  · rw [if_pos hno, if_pos (List.contains_iff_mem.2 hno)]
    rfl
  · rw [if_neg hno, if_neg (fun hmem => hno (List.contains_iff_mem.1 hmem))]
    rfl

theorem configLevel_of_some {raw : String} {l : Level} (h : Level.parse? raw = some l) :
    Plan.configLevel raw = .ok l := by
  rw [Plan.configLevel, h]

theorem configLevel_of_none {raw : String} (h : Level.parse? raw = none) :
    Plan.configLevel raw = .error (.config (Level.unknown raw ++ " in " ++ Config.fileName)) := by
  rw [Plan.configLevel, h]

/-- The level of a plan is that of the highest source. -/
theorem ranked_of_minLevel {c : Config} {l : Level} (h : Plan.minLevel a c = .ok l) :
    Ranked (some .warning) [a.minLevel.map some, c.minLevel.map Level.parse?] (some l) := by
  rw [Plan.minLevel] at h
  split at h
  case h_1 flag _ hflag =>
    cases h
    rw [hflag]
    exact .set (some _) _
  case h_2 raw hflag hraw =>
    rw [hflag, hraw]
    refine .unset ?_
    cases hl : Level.parse? raw with
    | none =>
      rw [configLevel_of_none hl] at h
      cases h
    | some l' =>
      rw [configLevel_of_some hl] at h
      cases h
      rw [Option.map_some, hl]
      exact .set (some _) _
  case h_3 hflag hraw =>
    cases h
    rw [hflag, hraw]
    exact .unset (.unset .default)

theorem minLevel_eq_error_iff (c : Config) (f : Failure) : Plan.minLevel a c = .error f ↔
    a.minLevel = none ∧ ∃ raw, c.minLevel = some raw ∧ Level.parse? raw = none ∧
      f = .config (Level.unknown raw ++ " in " ++ Config.fileName) := by
  rw [Plan.minLevel]
  cases hflag : a.minLevel with
  | some l => exact iff_of_false nofun (fun h => by cases h.1)
  | none =>
    cases hraw : c.minLevel with
    | none =>
      refine iff_of_false nofun ?_
      rintro ⟨-, raw, hraw', -⟩
      cases hraw'
    | some raw =>
      show Plan.configLevel raw = .error f ↔ _
      cases hl : Level.parse? raw with
      | some l =>
        rw [configLevel_of_some hl]
        refine iff_of_false nofun ?_
        rintro ⟨-, raw', hraw', hnone, -⟩
        cases hraw'
        rw [hl] at hnone
        cases hnone
      | none =>
        rw [configLevel_of_none hl]
        constructor
        · intro h
          cases h
          exact ⟨rfl, raw, rfl, hl, rfl⟩
        · rintro ⟨-, raw', hraw', -, rfl⟩
          cases hraw'
          rfl

theorem nonempty_eq_some_iff (o : Option String) (s : String) : Plan.nonempty o = some s ↔ o = some s ∧ s ≠ "" :=
  Reconcile.filter_nonempty_eq_some_iff o s

theorem nonempty_eq_none_iff (o : Option String) : Plan.nonempty o = none ↔ ∀ s, o = some s → s = "" := by
  simp only [Option.eq_none_iff_forall_ne_some, ne_eq, nonempty_eq_some_iff, not_and, not_not]

theorem names_repository (a : CheckArguments) : Names a.owner a.repo a.repository (Plan.repository a) := by
  have hcombined : (∀ o n, a.owner = some o → a.repo = some n → o = "" ∨ n = "") →
      Names a.owner a.repo a.repository (a.repository.bind Repository.parse?) := by
    intro hnot
    cases hrepo : a.repository.bind Repository.parse? with
    | some repo =>
      obtain ⟨s, hs, hparse⟩ := Option.bind_eq_some_iff.1 hrepo
      exact .combined hnot hs ((Repository.parse?_eq_some_iff s repo).1 hparse)
    | none =>
      refine .absent hnot fun s hs repo hsplits => ?_
      rw [hs, Option.bind_some, (Repository.parse?_eq_some_iff s repo).2 hsplits] at hrepo
      cases hrepo
  rw [Plan.repository]
  split
  case h_1 o n howner hname =>
    obtain ⟨ho, hone⟩ := (nonempty_eq_some_iff _ _).1 howner
    obtain ⟨hn, hnne⟩ := (nonempty_eq_some_iff _ _).1 hname
    exact .both ho hn ⟨hone, hnne⟩
  case h_2 hnot =>
    refine hcombined fun o n ho hn => ?_
    by_cases hone : o = ""
    · exact .inl hone
    by_cases hnne : n = ""
    · exact .inr hnne
    exact (hnot o n ((nonempty_eq_some_iff _ _).2 ⟨ho, hone⟩) ((nonempty_eq_some_iff _ _).2 ⟨hn, hnne⟩)).elim

theorem token_of_plan (a : CheckArguments) (env : Environment) :
    Token a.token (env.get? "GH_TOKEN") (Plan.token a env) := by
  rw [Plan.token]
  cases hgiven : Plan.nonempty a.token with
  | some t =>
    obtain ⟨ht, hne⟩ := (nonempty_eq_some_iff _ _).1 hgiven
    exact .given ht hne
  | none => exact .spare ((nonempty_eq_none_iff _).1 hgiven)

theorem directory_getD (env : Environment) (other : String) :
    Directory env other ((Plan.runDirectory? env).getD other) := by
  cases hdir : Plan.runDirectory? env with
  | some dir =>
    obtain ⟨h, hne⟩ := (nonempty_eq_some_iff _ _).1 hdir
    exact .run h hne
  | none => exact .other ((nonempty_eq_none_iff _).1 hdir)

theorem defaultReport_defaultReportPath (env : Environment) : DefaultReport env (Plan.defaultReportPath env) :=
  ⟨_, directory_getD env ".", rfl⟩

theorem defaultLog_defaultLogPath (env : Environment) : DefaultLog env (Plan.defaultLogPath env) := by
  refine ⟨Plan.temporaryDirectory env, _, ?_, directory_getD env _, rfl⟩
  rw [Plan.temporaryDirectory]
  cases env.get? "TMPDIR" with
  | some dir => exact .set dir []
  | none => exact .unset .default

/-- What the arguments of a check hold. -/
structure Holds (env : Environment) (r : Reading) (a : CheckArguments) : Prop where
  minLevel : (r.value? .minLevel).map Level.parse? = a.minLevel.map some
  maxResults : (r.value? .maxResults).map Unsigned.parse? = a.maxResults.map some
  reportPath : a.reportPath = r.value? .reportPath
  logPath : a.logPath = (r.value? .logPath <|> env.get? "ALERTDIFF_LOG_PATH")
  owner : a.owner = r.value? .owner
  repo : a.repo = r.value? .repo
  repository : a.repository = (r.value? .repository <|> env.get? "GITHUB_REPOSITORY")
  token : a.token = (r.value? .token <|> env.get? "GITHUB_TOKEN")
  ref : a.ref = r.value? .ref
  noConfig : a.noConfig = r.switches.contains .noConfig

theorem valueOf_of_no_variable {p : Parameter} (h : p.envName? = none) : valueOf env r p = r.value? p := by
  rw [valueOf, h]
  cases r.value? p <;> rfl

theorem holds_of_checkArguments (h : checkArguments env r = .ok a) : Holds env r a := by
  obtain ⟨hkind, hvalues⟩ := (checkArguments_eq_ok_iff env r a).1 h
  rw [CheckArguments.ofValues] at hvalues
  split at hvalues
  case h_1 => cases hvalues
  case h_2 sarif hsarif =>
    cases hvalues
    have hplain : ∀ p : Parameter, p.envName? = none → valueOf env r p = r.value? p :=
      fun p => valueOf_of_no_variable
    have hlevel : ∀ raw, r.value? .minLevel = some raw → (Level.parse? raw).isSome := by
      intro raw hraw
      have hcheck := hkind .minLevel raw ((hplain _ rfl).trans hraw)
      rw [Parameter.kind, ValueKind.check] at hcheck
      exact isSome_of_check hcheck
    have hcount : ∀ raw, r.value? .maxResults = some raw → (Unsigned.parse? raw).isSome := by
      intro raw hraw
      have hcheck := hkind .maxResults raw ((hplain _ rfl).trans hraw)
      rw [Parameter.kind, ValueKind.check] at hcheck
      exact isSome_of_check hcheck
    constructor
    case minLevel =>
      show _ = ((valueOf env r .minLevel).bind Level.parse?).map some
      rw [hplain .minLevel rfl]
      exact map_eq_bind_map hlevel
    case maxResults =>
      show _ = ((valueOf env r .maxResults).bind Unsigned.parse?).map some
      rw [hplain .maxResults rfl]
      exact map_eq_bind_map hcount
    case reportPath | owner | repo | ref => exact hplain _ rfl
    case logPath | repository | token | noConfig => rfl

/-- The plan with a level, the rest being taken from its sources. -/
def planWith (a : CheckArguments) (env : Environment) (c : Config) (level : Level) : Plan where
  settings := ⟨a.sarif, Plan.nonempty a.ref, level, Plan.repository a, Plan.token a env, a.apiUrl⟩
  maxResults := (a.maxResults <|> c.maxResults).getD Plan.defaultMaxResults
  toolLabel := c.toolLabel.getD Plan.defaultToolLabel
  reportPath := (a.reportPath <|> c.reportPath).getD (Plan.defaultReportPath env)
  logPath := (a.logPath <|> c.logPath).getD (Plan.defaultLogPath env)

theorem resolve_eq (a : CheckArguments) (env : Environment) (c : Config) :
    Plan.resolve a env c = planWith a env c <$> Plan.minLevel a c := by
  rw [Plan.resolve]
  cases Plan.minLevel a c <;> rfl

theorem fromSources_planWith {c : Option Config} {l : Level} (hold : Holds env r a)
    (h : Plan.minLevel a (c.getD .empty) = .ok l) : FromSources env r c (planWith a env (c.getD .empty) l) := by
  have hlevel := ranked_of_minLevel h
  have hcount : Ranked _ _ (some (planWith a env (c.getD .empty) l).maxResults) :=
    (ranked_orElse Plan.defaultMaxResults a.maxResults (c.getD .empty).maxResults).map some
  have hreport : Ranked _ _ (planWith a env (c.getD .empty) l).reportPath :=
    ranked_orElse (Plan.defaultReportPath env) a.reportPath (c.getD .empty).reportPath
  have hlog : Ranked _ _ (planWith a env (c.getD .empty) l).logPath :=
    ranked_orElse (Plan.defaultLogPath env) a.logPath (c.getD .empty).logPath
  have hnames := names_repository a
  have htoken := token_of_plan a env
  -- what the arguments hold is what the command line and the variables say
  rw [field_getD_empty (·.minLevel) rfl, ← hold.minLevel] at hlevel
  rw [field_getD_empty (·.maxResults) rfl, List.map_cons, List.map_cons, ← hold.maxResults] at hcount
  rw [field_getD_empty (·.reportPath) rfl, hold.reportPath] at hreport
  rw [field_getD_empty (·.logPath) rfl, hold.logPath] at hlog
  rw [hold.owner, hold.repo, hold.repository] at hnames
  rw [hold.token] at htoken
  refine ⟨hlevel, hcount, ⟨_, defaultReport_defaultReportPath env, hreport⟩,
    ⟨_, defaultLog_defaultLogPath env, hlog.split⟩, hnames, htoken, fun s => ?_⟩
  rw [← hold.ref]
  exact nonempty_eq_some_iff a.ref s

theorem minLevel_congr {c c' : Config} (h : a.minLevel = none → c.minLevel = c'.minLevel) :
    Plan.minLevel a c = Plan.minLevel a c' := by
  rw [Plan.minLevel, Plan.minLevel]
  cases hflag : a.minLevel with
  | some l => rfl
  | none => rw [h hflag]

/-- What is set above a configuration makes no difference to the plan. -/
theorem resolve_eq_of_agree {c c' : Option Config} (hold : Holds env r a) (h : AgreeWhereUnset env r c c') :
    Plan.resolve a env (c.getD .empty) = Plan.resolve a env (c'.getD .empty) := by
  have hlevel : a.minLevel = none → c.bind (·.minLevel) = c'.bind (·.minLevel) := by
    rw [← eq_none_iff_of_map_eq hold.minLevel]
    exact h.minLevel
  have hcount : a.maxResults = none → c.bind (·.maxResults) = c'.bind (·.maxResults) := by
    rw [← eq_none_iff_of_map_eq hold.maxResults]
    exact h.maxResults
  have hlog : a.logPath = none → c.bind (·.logPath) = c'.bind (·.logPath) := by
    rw [hold.logPath, orElse_eq_none_iff]
    exact fun hnone => h.logPath hnone.1 hnone.2
  have hreport : a.reportPath = none → c.bind (·.reportPath) = c'.bind (·.reportPath) := by
    rw [hold.reportPath]
    exact h.reportPath
  have hplan : planWith a env (c.getD .empty) = planWith a env (c'.getD .empty) := by
    funext l
    simp only [planWith, field_getD_empty (·.maxResults) rfl, field_getD_empty (·.reportPath) rfl,
      field_getD_empty (·.logPath) rfl, field_getD_empty (·.toolLabel) rfl, orElse_congr hcount, orElse_congr hreport,
      orElse_congr hlog, h.toolLabel]
  have hsame : Plan.minLevel a (c.getD .empty) = Plan.minLevel a (c'.getD .empty) := by
    refine minLevel_congr fun hnone => ?_
    rw [field_getD_empty (·.minLevel) rfl, field_getD_empty (·.minLevel) rfl]
    exact hlevel hnone
  rw [resolve_eq, resolve_eq, hplan, hsame]

end Resolve

/-- **A plan takes each value from the highest source that sets it.** There is no plan just if the command line has no
level and the consulted configuration has one that is none, which is a failure of configuration. Otherwise the level,
the count and the two paths are those of the highest sources, and so are the repository, the token and the ref. What a
configuration holds beneath a value of the command line or of a variable makes no difference, and nothing in it does
where it is left out. -/
theorem plan_ranks_its_sources {env : Environment} {r : Reading} {a : CheckArguments}
    (h : checkArguments env r = .ok a) (d : Disk) :
    ((∃ f, planned a env d = .error f) ↔ BadLevel r (consulted? r d)) ∧
    (∀ f, planned a env d = .error f → ∃ text, f = .config text) ∧
    (¬ BadLevel r (consulted? r d) → ∃ p, planned a env d = .ok p ∧ FromSources env r (consulted? r d) p) ∧
    (∀ d', AgreeWhereUnset env r (consulted? r d) (consulted? r d') → planned a env d = planned a env d') ∧
    (.noConfig ∈ r.switches → ∀ d', consulted? r d = none ∧ planned a env d = planned a env d') := by
  have hold := holds_of_checkArguments h
  have hplanned : ∀ d, planned a env d = Plan.resolve a env ((consulted? r d).getD .empty) := fun d =>
    congrArg (Plan.resolve a env) (value_configuration hold.noConfig d)
  have herror : ∀ f, planned a env d = .error f ↔
      a.minLevel = none ∧ ∃ raw, (consulted? r d).bind (·.minLevel) = some raw ∧ Level.parse? raw = none ∧
        f = .config (Level.unknown raw ++ " in " ++ Config.fileName) := by
    intro f
    rw [hplanned, resolve_eq, map_eq_error_iff, minLevel_eq_error_iff, field_getD_empty (·.minLevel) rfl]
  have hbad : (∃ f, planned a env d = .error f) ↔ BadLevel r (consulted? r d) := by
    rw [BadLevel, eq_none_iff_of_map_eq hold.minLevel]
    constructor
    · rintro ⟨f, hf⟩
      obtain ⟨hflag, raw, hraw, hnone, -⟩ := (herror f).1 hf
      exact ⟨hflag, raw, hraw, hnone⟩
    · rintro ⟨hflag, raw, hraw, hnone⟩
      exact ⟨_, (herror _).2 ⟨hflag, raw, hraw, hnone, rfl⟩⟩
  refine ⟨hbad, ?_, ?_, ?_, ?_⟩
  · intro f hf
    obtain ⟨-, raw, -, -, htext⟩ := (herror f).1 hf
    exact ⟨_, htext⟩
  · intro hgood
    cases hp : planned a env d with
    | error f => exact absurd (hbad.1 ⟨f, hp⟩) hgood
    | ok p =>
      rw [hplanned, resolve_eq, map_eq_ok_iff] at hp
      obtain ⟨l, hl, rfl⟩ := hp
      exact ⟨_, rfl, fromSources_planWith hold hl⟩
  · intro d' hagree
    rw [hplanned, hplanned]
    exact resolve_eq_of_agree hold hagree
  · intro hno d'
    have hnone : ∀ d, consulted? r d = none := fun d => if_pos hno
    rw [hplanned, hplanned, hnone, hnone]
    exact ⟨rfl, rfl⟩

/-- A disk whose configuration file has a count, and a level that is none. -/
def badLevelDisk : Disk :=
  ⟨.dir [(".alertdiff.toml", .file "[compare]\nmin_level = \"high\"\nmax_results = 7".toUTF8)], []⟩

theorem load_badLevelDisk : (Config.load badLevelDisk "/").value = some ⟨some "high", some 7, none, none, none⟩ := by
  have hstraight : badLevelDisk.Straight "/" := Disk.straight_of_dir (by decide) (by decide) rfl
  obtain ⟨o, hchosen, hload⟩ := Config.load_nearest hstraight
  have hin : Config.IsIn badLevelDisk "/" (.file "[compare]\nmin_level = \"high\"\nmax_results = 7".toUTF8) :=
    Disk.hasEntry_of_file (by decide) ⟨by decide, by decide, by decide⟩ (by decide) rfl
  have hancestors : Path.ancestors "/" = [] ++ "/" :: [] := by decide
  have hfit : (Config.ofText "[compare]\nmin_level = \"high\"\nmax_results = 7").toOption =
      some ⟨some "high", some 7, none, none, none⟩ := by decide +kernel
  rw [hload, hchosen.first _ _ _ _ hancestors (List.forall_mem_nil _) hin, Option.bind_some, Config.settingsIn,
    Node.text?, Disk.fromUTF8?_toUTF8, Option.bind_some, hfit]

/-- Such a level does no harm beneath one of the command line, and the count is used. -/
theorem plan_ranks_its_sources_badLevelDisk :
    (∃ a p, checkArguments ⟨[]⟩ ⟨[(.sarif, "scan"), (.minLevel, "error")], [], none⟩ = .ok a ∧
      planned a ⟨[]⟩ badLevelDisk = .ok p ∧ p.settings.minLevel = .error ∧ p.maxResults = 7) ∧
    ∃ a text, checkArguments ⟨[]⟩ ⟨[(.sarif, "scan")], [], none⟩ = .ok a ∧
      planned a ⟨[]⟩ badLevelDisk = .error (.config text) := by
  have hcwd : badLevelDisk.cwdPath = "/" := by decide
  have hconsulted : ∀ values, consulted? ⟨values, [], none⟩ badLevelDisk =
      some ⟨some "high", some 7, none, none, none⟩ := by
    intro values
    rw [consulted?, if_neg List.not_mem_nil, hcwd, load_badLevelDisk]
  constructor
  · obtain ⟨a, ha⟩ : ∃ a, checkArguments ⟨[]⟩ ⟨[(.sarif, "scan"), (.minLevel, "error")], [], none⟩ = .ok a := ⟨_, rfl⟩
    have hranks := plan_ranks_its_sources ha badLevelDisk
    rw [hconsulted] at hranks
    obtain ⟨p, hp, hfrom⟩ := hranks.2.2.1 fun hbad => nomatch hbad.1
    have hflag : Level.parse? "error" = some .error := by decide
    have hlevel : some p.settings.minLevel = Level.parse? "error" := hfrom.minLevel.eq_of_set
    have hcount : some p.maxResults = some 7 := hfrom.maxResults.of_unset.eq_of_set
    exact ⟨a, p, ha, hp, Option.some.inj (hlevel.trans hflag), Option.some.inj hcount⟩
  · obtain ⟨a, ha⟩ : ∃ a, checkArguments ⟨[]⟩ ⟨[(.sarif, "scan")], [], none⟩ = .ok a := ⟨_, rfl⟩
    have hranks := plan_ranks_its_sources ha badLevelDisk
    rw [hconsulted] at hranks
    have hlevel : Level.parse? "high" = none := by decide
    obtain ⟨f, hf⟩ := hranks.1.2 ⟨rfl, "high", rfl, hlevel⟩
    obtain ⟨text, rfl⟩ := hranks.2.1 f hf
    exact ⟨a, text, ha, hf⟩

end ScanDelta.Command

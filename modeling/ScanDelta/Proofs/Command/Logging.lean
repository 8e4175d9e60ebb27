import ScanDelta.Proofs.Command.Secrecy
import ScanDelta.Proofs.Journal.History

/-!
# A run and its log

* `Sink` : takes lines one by one, and may refuse them;
* `Sink.logged k r` : the run `r` when each of its lines goes to the sink `k` (`logged_bind`);
* `Sink.engine`, `run_engine` : a run of the engine with a sink, on the disk as it is when the run begins;
* `Sink.file`, `run_engine_file` : the sink of a log;
* `readText_loggedDisk` : what is told to the log of a check is in its file;
* `log_loses_nothing` : no run sees its log, and the file of a log has all that was recorded.
-/

set_option autoImplicit false

namespace ScanDelta.Command

open Disk Journal
open Remote (Run)

/-! ## Sinks -/

/-- Takes a line, or refuses it. -/
structure Sink (σ : Type) where
  put (line : String) (held : σ) : Except FileError Unit × σ

namespace Sink

variable {σ α β : Type} (k : Sink σ)

/-- Hands lines over; whether they were refused is not told. -/
def noteAll (lines : List String) (held : σ) : σ := lines.foldl (fun held line => (k.put line held).2) held

/-- A run whose lines are handed over. -/
def logged (r : Run α) : ExceptT Failure (StateM σ) α :=
  ExceptT.mk fun held => (result r, k.noteAll (linesOf (notesOf (trace r))) held)

theorem run_logged (r : Run α) (held : σ) :
    (k.logged r).run.run held = (result r, k.noteAll (linesOf (notesOf (trace r))) held) := rfl

theorem noteAll_append (lines lines' : List String) (held : σ) :
    k.noteAll (lines ++ lines') held = k.noteAll lines' (k.noteAll lines held) := List.foldl_append

/-- Lines are handed over as they come, up to a failure. -/
theorem logged_bind (r : Run α) (f : α → Run β) : k.logged (r >>= f) = k.logged r >>= fun a => k.logged (f a) := by
  refine congrArg ExceptT.mk (funext fun held => ?_)
  have hbind : ∀ x : Except Failure α, result r = x →
      (result (r >>= f), k.noteAll (linesOf (notesOf (trace (r >>= f)))) held) =
        (ExceptT.bindCont (fun a => k.logged (f a)) x).run (k.noteAll (linesOf (notesOf (trace r))) held) := by
    intro x hx
    rw [result_bind, trace_bind, hx]
    cases x with
    | error e =>
      dsimp only
      rw [List.append_nil]
      rfl
    | ok a =>
      dsimp only
      rw [notesOf, List.filterMap_append, linesOf, List.filterMap_append, noteAll_append]
      rfl
  exact hbind (result r) rfl

end Sink

/-! ## The engine with a sink -/

/-- A run of the engine from when the scan is loaded. -/
def afterLoad (connect : Reconcile.Connector) (s : Settings) (document : Json) : Run Outcome := do
  let unfiltered ← Baseline.collect document
  let filtered := unfiltered.atThreshold s.minLevel
  record ("SARIF baseline results: new=" ++ natText filtered.new.length ++ ", fixed=" ++
    natText filtered.absent.length)
  Reconcile.conclude connect s (unfiltered, Strategy.select filtered s.ref)

theorem run_eq_load (connect : Reconcile.Connector) (d : Disk) (s : Settings) :
    Reconcile.run connect d s = (liftM (Sarif.load d s.sarifPath) : Run Json) >>= afterLoad connect s := by
  rw [Reconcile.run_eq, Reconcile.classify]
  simp only [bind_assoc, pure_bind]
  rfl

namespace Sink

variable {σ : Type} (k : Sink σ) (disk : σ → Disk) (connect : Reconcile.Connector) (s : Settings)

/-- A run of the engine with a sink; the scan is read from the disk as it is then. -/
def engine : ExceptT Failure (StateM σ) Outcome := do
  let held ← get
  let document ← k.logged (liftM (Sarif.load (disk held) s.sarifPath))
  k.logged (afterLoad connect s document)

/-- The engine comes to the same with any sink. -/
theorem run_engine (held : σ) : (k.engine disk connect s).run.run held =
    (result (Reconcile.run connect (disk held) s),
      k.noteAll (linesOf (notesOf (trace (Reconcile.run connect (disk held) s)))) held) := by
  rw [← run_logged, run_eq_load, logged_bind]
  rfl

/-- The sink of a log. -/
def file (j : Journal) (stamp : String) : Sink Disk where
  put line d :=
    match j.path with
    | none => (.ok (), d)
    | some p =>
      match d.append p (stamped stamp line) with
      | .ok d' => (.ok (), d')
      | .error e => (.error e, d)

theorem put_file (j : Journal) (stamp line : String) (d : Disk) :
    ((file j stamp).put line d).2 = j.append stamp d line := by
  unfold file Journal.append
  dsimp only
  cases j.path with
  | none => rfl
  | some p =>
    dsimp only
    cases d.append p (stamped stamp line) <;> rfl

theorem noteAll_file (j : Journal) (stamp : String) (ns : List Note) (d : Disk) :
    (file j stamp).noteAll (linesOf ns) d = j.appendAll stamp d ns := by
  unfold noteAll Journal.appendAll linesOf
  simp only [put_file]

end Sink

section Check
variable (place : Surroundings) (d : Disk) (p : Plan)

/-- In a check the engine runs with the log as its sink. -/
theorem run_engine_file :
    ((Sink.file (Journal.openAt place.stamp d p.logPath).2.value place.stamp).engine id
      (Reconcile.overHttp place.transport p.settings.apiUrl) p.settings).run.run
        (Journal.openAt place.stamp d p.logPath).1 = (reconciled place d p, afterLog place d p) := by
  rw [Sink.run_engine, Sink.noteAll_file]
  rfl

/-- Lines that are added are steps of the log. -/
theorem steps_lines (stamp : String) (texts : List String) (st : Stage) :
    steps st (texts.map (Step.append stamp)) = ⟨texts.foldl (st.log.append stamp) st.disk, st.log⟩ := by
  induction texts generalizing st with
  | nil => rfl
  | cons text texts ih => exact ih _

theorem lines_map_append (stamp : String) (texts : List String) :
    lines (texts.map (Step.append stamp)) = texts.map (stamped stamp) := by
  rw [lines, List.filterMap_map, ← List.filterMap_eq_map]
  rfl

/-- What is told to the log of a check is in its file. -/
theorem readText_loggedDisk {stamp q : String} (h : (Journal.openAt stamp d p.logPath).2.value.path = some q)
    (ns : List Note) :
    (loggedDisk d p stamp ns).readText q =
      .ok (stamped stamp header ++ String.join ((linesOf ns).map (stamped stamp))) := by
  obtain rfl : q = p.logPath := Journal.path_openAt stamp d p.logPath q h
  have hopen : (Journal.openAt stamp d p.logPath).2.value.path ≠ none := by
    rw [h]
    exact nofun
  have hcontinues : ∀ x ∈ (linesOf ns).map (Step.append stamp), x.Continues p.logPath ∧ x.removes = false := by
    intro x hx
    obtain ⟨text, -, rfl⟩ := List.mem_map.1 hx
    exact ⟨trivial, rfl⟩
  have hsteps : (steps ⟨d, .disabled⟩ (.openAt stamp p.logPath :: (linesOf ns).map (Step.append stamp))).disk =
      loggedDisk d p stamp ns := congrArg Stage.disk (steps_lines stamp (linesOf ns) _)
  have htext := (faithful_of_kept (s := ⟨d, .disabled⟩) hopen hcontinues).text
  rw [hsteps, lines_map_append] at htext
  exact htext

end Check

/-! ## Logging -/

/-- **No run sees its log, and a log loses nothing.**

A run of the engine comes to the same with any two sinks, which may refuse any of the lines; in a check one of them is
the log.

Whatever has happened to a log on any disk, and whatever is recorded and removed then: a log that was never opened, was
disabled or could not be opened has no path, and what is recorded changes nothing. One that could be opened has its
header and all lines since then in its file, in order, or, if somebody has removed the file, all lines since the last
removal; other files are as they were when it was opened. In particular all lines of a check are in its log. -/
theorem log_loses_nothing :
    (∀ {σ τ : Type} (k : Sink σ) (k' : Sink τ) (disk : σ → Disk) (disk' : τ → Disk) (connect : Reconcile.Connector)
      (s : Settings) (held : σ) (held' : τ), disk held = disk' held' →
      ((k.engine disk connect s).run.run held).1 = ((k'.engine disk' connect s).run.run held').1) ∧
    (∀ (d : Disk) (xs ys : List Step),
      ((∀ x ∈ ys, x.replaces = false) →
        Silent d ys (steps ⟨d, .disabled⟩ ys) ∧
        Silent (steps ⟨d, .disabled⟩ xs).disk ys (steps ⟨d, .disabled⟩ (xs ++ .disable :: ys)) ∧
        ∀ stamp p, (Journal.openAt stamp (steps ⟨d, .disabled⟩ xs).disk p).2.value.path = none →
          KeepsFiles (steps ⟨d, .disabled⟩ xs).disk (Journal.openAt stamp (steps ⟨d, .disabled⟩ xs).disk p).1 ∧
          Silent (Journal.openAt stamp (steps ⟨d, .disabled⟩ xs).disk p).1 ys
            (steps ⟨d, .disabled⟩ (xs ++ .openAt stamp p :: ys))) ∧
      ∀ stamp p, (Journal.openAt stamp (steps ⟨d, .disabled⟩ xs).disk p).2.value.path ≠ none →
        ((∀ x ∈ ys, x.Continues p ∧ x.removes = false) →
          Faithful (steps ⟨d, .disabled⟩ xs).disk (Journal.openAt stamp (steps ⟨d, .disabled⟩ xs).disk p).1 p
            (some (stamped stamp header ++ String.join (lines ys)))
            (steps ⟨d, .disabled⟩ (xs ++ .openAt stamp p :: ys))) ∧
        ∀ zs, (∀ x ∈ ys, x.Continues p) → (∀ x ∈ zs, x.Continues p ∧ x.removes = false) →
          Faithful (steps ⟨d, .disabled⟩ xs).disk (Journal.openAt stamp (steps ⟨d, .disabled⟩ xs).disk p).1 p
            (if lines zs = [] then none else some (String.join (lines zs)))
            (steps ⟨d, .disabled⟩ (xs ++ .openAt stamp p :: (ys ++ .remove p :: zs)))) ∧
    (∀ (place : Surroundings) (d : Disk) (p : Plan),
      ((Sink.file (Journal.openAt place.stamp d p.logPath).2.value place.stamp).engine id
        (Reconcile.overHttp place.transport p.settings.apiUrl) p.settings).run.run
          (Journal.openAt place.stamp d p.logPath).1 = (reconciled place d p, afterLog place d p) ∧
      ∀ q, logPath place d p = some q → (afterLog place d p).readText q = .ok (stamped place.stamp header ++
        String.join ((linesOf (notesOf (trace (engineRun place d p)))).map (stamped place.stamp)))) := by
  refine ⟨?_, ?_, ?_⟩
  · intro σ τ k k' disk disk' connect s held held' hdisk
    rw [Sink.run_engine, Sink.run_engine, hdisk]
  · intro d xs ys
    refine ⟨fun hys => ⟨silent_steps d hys, ?_, ?_⟩, ?_⟩
    · rw [steps_append]
      exact silent_steps _ hys
    · intro stamp p hfailed
      obtain ⟨hstep, hkeep⟩ := step_of_failed hfailed
      refine ⟨hkeep, ?_⟩
      rw [steps_append]
      show Silent _ ys (steps (step _ (.openAt stamp p)) ys)
      rw [hstep]
      exact silent_steps _ hys
    · intro stamp p hopened
      refine ⟨fun hys => ?_, fun zs hys hzs => ?_⟩
      · rw [steps_append]
        exact faithful_of_kept hopened hys
      · rw [steps_append]
        exact faithful_of_removal hopened hys hzs
  · intro place d p
    exact ⟨run_engine_file place d p, fun q hq => readText_loggedDisk d p hq _⟩

/-- A disk on which nothing is. -/
def bareDisk : Disk := ⟨.dir [], []⟩

theorem points_bareDisk : bareDisk.Points .file "log" ["log"] := by
  have hnames : names "log" = ["log"] := by decide
  refine ⟨⟨by decide, by decide, by decide⟩, rfl, ?_⟩
  rw [hnames]
  exact .vacant rfl (by decide) (fits_nil _) rfl rfl

theorem openAt_bareDisk : (Journal.openAt "t" bareDisk "log").2.value.path = some "log" := by
  have hparent : bareDisk.makeParent "log" = (bareDisk, .ok ()) := rfl
  have hvacant := (resolveFor_eq_vacant_iff _ _ _ _).2 ⟨points_bareDisk, rfl⟩
  rw [Journal.openAt, writeWithParent, hparent]
  simp only [write, update, hvacant]
  rfl

theorem openAt_bareDisk_empty : (Journal.openAt "t" bareDisk "").2.value.path = none := rfl

/-- A log that is opened, removed and written again, one that cannot be opened, and a run with no log and with a sink that
takes nothing. -/
theorem log_loses_nothing_bareDisk :
    (steps ⟨bareDisk, .disabled⟩ [.openAt "t" "log", .record "t" "one", .remove "log",
      .append "t" "two"]).disk.readText "log" = .ok "t two\n" ∧
    (steps ⟨bareDisk, .disabled⟩ [.openAt "t" "", .record "t" "one"]).log.path = none ∧
    ∀ (connect : Reconcile.Connector) (s : Settings),
      (((Sink.file .disabled "t").engine id connect s).run.run bareDisk).1 =
        (((⟨fun _ d => (.error .noEntry, d)⟩ : Sink Disk).engine id connect s).run.run bareDisk).1 := by
  have hpath : (Journal.openAt "t" bareDisk "log").2.value.path ≠ none := by
    rw [openAt_bareDisk]
    exact nofun
  have hopened := ((log_loses_nothing.2.1 bareDisk [] [.record "t" "one"]).2 "t" "log" hpath).2 [.append "t" "two"]
    (by simp [Step.Continues]) (by simp [Step.Continues, Step.removes])
  have hfailed := ((log_loses_nothing.2.1 bareDisk [] [.record "t" "one"]).1 (by simp [Step.replaces])).2.2 "t" ""
    openAt_bareDisk_empty
  have hline : lines [.append "t" "two"] = ["t two\n"] := by decide
  refine ⟨?_, hfailed.2.path, fun connect s => log_loses_nothing.1 _ _ id id connect s bareDisk bareDisk rfl⟩
  have htext := hopened.text
  rw [hline] at htext
  exact htext

end ScanDelta.Command

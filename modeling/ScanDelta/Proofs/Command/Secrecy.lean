import ScanDelta.Proofs.Command.Check
import ScanDelta.Proofs.Remote.Secrecy

/-!
# The token is not told

* `runWith T t d s`, `checkWith T t place d a` : a run of the engine and a whole check with a token and a transport;
* `AnsweredAlike T T' ns ns'` : the transports answer requests alike that differ in their tokens at most;
* `matches_run` : runs with two tokens match; `alike_closing` : so do the ends of checks after such runs;
* `token_shows_in_headers_only` : whatever a run or a check tells is the same for two tokens, but for the header of the
  requests that holds the token.
-/

set_option autoImplicit false

namespace ScanDelta.Command

open Remote (Run Event)

/-! ## What is told -/

def requestOf? : Note → Option Http.Request
  | .request r => some r
  | _ => none

/-- The lines for the diagnostic log among some notes. -/
def linesOf (ns : List Note) : List String := ns.filterMap Note.line?

/-- The requests that were sent. -/
def requestsOf (ns : List Note) : List Http.Request := ns.filterMap requestOf?

theorem notesOf_unsigned (es : List Event) : (notesOf es).map Note.unsigned = notesOf (es.map Event.unsigned) := by
  rw [notesOf, notesOf, List.map_filterMap, List.filterMap_map]
  congr 1
  funext e
  cases e <;> rfl

theorem linesOf_unsigned (ns : List Note) : linesOf (ns.map Note.unsigned) = linesOf ns := by
  rw [linesOf, linesOf, List.filterMap_map]
  congr 1
  funext n
  cases n <;> rfl

theorem requestsOf_unsigned (ns : List Note) :
    requestsOf (ns.map Note.unsigned) = (requestsOf ns).map Http.Request.unsigned := by
  rw [requestsOf, requestsOf, List.map_filterMap, List.filterMap_map]
  congr 1
  funext n
  cases n <;> rfl

theorem consoleText_unsigned (shows : Severity → Bool) (ns : List Note) :
    consoleText shows (ns.map Note.unsigned) = consoleText shows ns := by
  rw [consoleText, consoleText, List.filterMap_map]
  congr 2
  funext n
  cases n <;> rfl

/-- The transports answer requests alike that differ in their tokens at most. -/
def AnsweredAlike (T T' : Http.Transport) (ns ns' : List Note) : Prop :=
  ∀ r r', .request r ∈ ns → .request r' ∈ ns' → r.unsigned = r'.unsigned → T' r' = T r

/-! ## Runs -/

/-- A run of the engine with a token. -/
def runWith (T : Http.Transport) (t : String) (d : Disk) (s : Settings) : Run Outcome :=
  Reconcile.run (Reconcile.overHttp T s.apiUrl) d { s with token := some t }

/-- A check with a token. -/
def checkWith (T : Http.Transport) (t : String) (place : Surroundings) (d : Disk) (a : CheckArguments) : Ending :=
  runCheck { place with transport := T } d { a with token := some t }

section
variable {T T' : Http.Transport} {t t' : String} (ht : t ≠ "") (ht' : t' ≠ "")

include ht ht'

theorem matches_remotely {s : Settings} {c c' : Remote.Client} (hc : Remote.Client.create T t s.apiUrl = .ok c)
    (hc' : Remote.Client.create T' t' s.apiUrl = .ok c') (ref : String) :
    Matches (Event.Fair T T') Event.unsigned
      (Reconcile.remotely (Reconcile.overHttp T s.apiUrl) { s with token := some t } ref).run
      (Reconcile.remotely (Reconcile.overHttp T' s.apiUrl) { s with token := some t' } ref).run := by
  have hfilter : ∀ {x : String}, x ≠ "" → (some x).filter (fun t => !t.isEmpty) = some x := by
    intro x hx
    simp [Option.filter, hx]
  have hconnect : ∀ repo, Reconcile.overHttp T s.apiUrl repo t = .ok (c.service repo) := by
    intro repo
    rw [Reconcile.overHttp, hc]
    rfl
  have hconnect' : ∀ repo, Reconcile.overHttp T' s.apiUrl repo t' = .ok (c'.service repo) := by
    intro repo
    rw [Reconcile.overHttp, hc']
    rfl
  unfold Reconcile.remotely
  refine Matches.runBind (.refl _) fun _ => ?_
  dsimp only
  cases s.repository with
  | none => exact .refl _
  | some repo =>
    dsimp only
    rw [hfilter ht, hfilter ht']
    dsimp only
    rw [hconnect, hconnect']
    dsimp only
    have htell : Matches (Event.Fair T T') Event.unsigned (Traced.tell (Event.connect t))
        (Traced.tell (Event.connect t')) := fun _ => ⟨rfl, rfl⟩
    refine Matches.runBind htell.runTraced fun _ => ?_
    refine Matches.runBind (.refl _) fun _ => ?_
    exact Remote.matches_compare (Remote.matches_service (Remote.Client.twins_of_create hc hc') repo) ref

theorem matches_run {s : Settings} {c c' : Remote.Client} (hc : Remote.Client.create T t s.apiUrl = .ok c)
    (hc' : Remote.Client.create T' t' s.apiUrl = .ok c') (d : Disk) :
    Matches (Event.Fair T T') Event.unsigned (runWith T t d s).run (runWith T' t' d s).run := by
  unfold runWith Reconcile.run
  refine Matches.runBind (.refl _) fun document => ?_
  refine Matches.runBind (.refl _) fun unfiltered => ?_
  refine Matches.runBind (.refl _) fun _ => ?_
  dsimp only
  split
  · exact .refl _
  · exact Matches.runBind (matches_remotely ht ht' hc hc' _) fun _ => .refl _

end

/-- Fair answers to the events of a run are answers to the requests among its notes. -/
theorem AnsweredAlike.fair {T T' : Http.Transport} {es es' : List Event}
    (h : AnsweredAlike T T' (notesOf es) (notesOf es')) :
    ∀ e ∈ es, ∀ e' ∈ es', e.unsigned = e'.unsigned → e.Fair T T' e' := by
  rintro e he e' he' hview n n' rfl rfl r r' rfl rfl
  have hr : Note.request r ∈ notesOf es := List.mem_filterMap.2 ⟨_, he, rfl⟩
  have hr' : Note.request r' ∈ notesOf es' := List.mem_filterMap.2 ⟨_, he', rfl⟩
  exact h r r' hr hr' (Note.request.inj (Event.note.inj hview))

/-! ## Checks -/

/-- The endings look alike. -/
structure Ending.Alike (e e' : Ending) : Prop where
  disk : e'.disk = e.disk
  printed : e'.printed = e.printed
  trouble : e'.trouble = e.trouble
  notes : e'.notes.map Note.unsigned = e.notes.map Note.unsigned

theorem Ending.Alike.console {e e' : Ending} (h : e.Alike e') (i : Invocation) : i.console e' = i.console e := by
  unfold Invocation.console Ending.lastLine
  rw [← consoleText_unsigned i.shows e'.notes, h.notes, consoleText_unsigned, h.trouble]

theorem loggedDisk_congr (d : Disk) (p : Plan) (stamp : String) {ns ns' : List Note}
    (h : ns'.map Note.unsigned = ns.map Note.unsigned) : loggedDisk d p stamp ns' = loggedDisk d p stamp ns := by
  have hlines : linesOf ns' = linesOf ns := by
    rw [← linesOf_unsigned ns', h, linesOf_unsigned]
  unfold linesOf at hlines
  rw [loggedDisk, loggedDisk, Journal.appendAll, Journal.appendAll, hlines]

section
variable (d : Disk) (a : CheckArguments) (p : Plan) (notes : List Note) (stamp : String)

/-- What a run notes is among the notes of the check. -/
theorem mem_notes_closing {run : Traced Event (Except Failure Outcome)} {n : Note} (h : n ∈ notesOf run.events) :
    n ∈ (closing d p a notes stamp run).notes := by
  rw [closing]
  cases run.value with
  | error f => exact List.mem_append_right _ (List.mem_append_left _ h)
  | ok o => exact List.mem_append_left _ (List.mem_append_right _ h)

/-- Runs that come to the same and look alike end alike. -/
theorem alike_closing {run run' : Traced Event (Except Failure Outcome)} (hvalue : run'.value = run.value)
    (hevents : run'.events.map Event.unsigned = run.events.map Event.unsigned) :
    (closing d p a notes stamp run).Alike (closing d p a notes stamp run') := by
  have hnotes : (notesOf run'.events).map Note.unsigned = (notesOf run.events).map Note.unsigned := by
    rw [notesOf_unsigned, hevents, notesOf_unsigned]
  rw [closing, closing, hvalue]
  cases run.value with
  | error f =>
    have hmore : (notesOf run'.events ++ failureNotes f).map Note.unsigned =
        (notesOf run.events ++ failureNotes f).map Note.unsigned := by
      rw [List.map_append, hnotes, List.map_append]
    refine ⟨loggedDisk_congr d p stamp hmore, rfl, rfl, ?_⟩
    dsimp only
    rw [List.map_append, hmore, ← List.map_append]
  | ok o =>
    dsimp only
    rw [loggedDisk_congr d p stamp hnotes]
    refine ⟨rfl, rfl, rfl, ?_⟩
    rw [conclude, conclude]
    simp only [List.map_append, hnotes]

end

/-- The plan with a token. -/
def Plan.withToken (p : Plan) (t : String) : Plan := { p with settings := { p.settings with token := some t } }

theorem resolve_withToken {t : String} (ht : t ≠ "") (a : CheckArguments) (env : Environment) (c : Config) :
    Plan.resolve { a with token := some t } env c = (fun p => p.withToken t) <$> Plan.resolve a env c := by
  have htoken : Plan.token { a with token := some t } env = some t := by
    simp [Plan.token, Plan.nonempty, Option.filter, ht]
  have hlevel : Plan.minLevel { a with token := some t } c = Plan.minLevel a c := rfl
  unfold Plan.resolve
  rw [htoken, hlevel]
  cases Plan.minLevel a c <;> rfl

/-- A check with a token is its run of the engine with it, and a closing that does not depend on it. -/
theorem checkWith_eq {T : Http.Transport} {t : String} (ht : t ≠ "") (place : Surroundings) (d : Disk)
    (a : CheckArguments) :
    checkWith T t place d a = match planned a place.environment d with
      | .error f => ⟨d, "", (Plan.configuration a d).events, some (.failure f)⟩
      | .ok p => closing d p a (Plan.configuration a d).events place.stamp
          (runWith T t (Journal.openAt place.stamp d p.logPath).1 p.settings).run := by
  have hplan : planned { a with token := some t } place.environment d =
      (fun p => p.withToken t) <$> planned a place.environment d := resolve_withToken ht a _ _
  unfold checkWith runCheck
  dsimp only
  rw [hplan]
  cases planned a place.environment d <;> rfl

theorem apiUrl_of_resolve {a : CheckArguments} {env : Environment} {c : Config} {p : Plan}
    (h : Plan.resolve a env c = .ok p) : p.settings.apiUrl = a.apiUrl := by
  unfold Plan.resolve at h
  obtain ⟨level, -, hp⟩ := (bind_eq_ok_iff _ _ _).1 h
  cases hp
  rfl

section
variable {T T' : Http.Transport} {t t' : String} (ht : t ≠ "") (ht' : t' ≠ "")

include ht ht'

/-- Runs that get the same answers come to the same and look alike. -/
theorem run_alike (d : Disk) {s : Settings} {c c' : Remote.Client} (hc : Remote.Client.create T t s.apiUrl = .ok c)
    (hc' : Remote.Client.create T' t' s.apiUrl = .ok c')
    (hanswers : AnsweredAlike T T' (notesOf (trace (runWith T t d s))) (notesOf (trace (runWith T' t' d s)))) :
    result (runWith T' t' d s) = result (runWith T t d s) ∧
      (trace (runWith T' t' d s)).map Event.unsigned = (trace (runWith T t d s)).map Event.unsigned :=
  matches_run ht ht' hc hc' d hanswers.fair

theorem check_alike (place : Surroundings) (d : Disk) {a : CheckArguments} {c c' : Remote.Client}
    (hc : Remote.Client.create T t a.apiUrl = .ok c) (hc' : Remote.Client.create T' t' a.apiUrl = .ok c')
    (hanswers : AnsweredAlike T T' (checkWith T t place d a).notes (checkWith T' t' place d a).notes) :
    (checkWith T t place d a).Alike (checkWith T' t' place d a) := by
  rw [checkWith_eq ht, checkWith_eq ht'] at hanswers ⊢
  cases hp : planned a place.environment d with
  | error f => exact ⟨rfl, rfl, rfl, rfl⟩
  | ok p =>
    rw [hp] at hanswers
    dsimp only at hanswers ⊢
    rw [← apiUrl_of_resolve hp] at hc hc'
    have hruns := run_alike ht ht' (Journal.openAt place.stamp d p.logPath).1 hc hc' fun r r' hr hr' =>
      hanswers r r' (mem_notes_closing _ _ _ _ _ hr) (mem_notes_closing _ _ _ _ _ hr')
    exact alike_closing _ _ _ _ _ hruns.1 hruns.2

end

/-- **The token shows in the headers of requests only.** For two tokens that fit into a header, and transports that
answer requests alike that differ in them at most: a run comes to the same outcome or failure, and notes the same but for
that header, in particular the same lines and the same addresses and parameters of requests. So does a whole check: it
leaves the same files, prints the same and ends the same. -/
theorem token_shows_in_headers_only {T T' : Http.Transport} {t t' : String} (ht : t ≠ "") (ht' : t' ≠ "") :
    (∀ (d : Disk) (s : Settings) (c c' : Remote.Client),
      Remote.Client.create T t s.apiUrl = .ok c → Remote.Client.create T' t' s.apiUrl = .ok c' →
      AnsweredAlike T T' (notesOf (trace (runWith T t d s))) (notesOf (trace (runWith T' t' d s))) →
      result (runWith T' t' d s) = result (runWith T t d s) ∧
      (trace (runWith T' t' d s)).map Event.unsigned = (trace (runWith T t d s)).map Event.unsigned ∧
      linesOf (notesOf (trace (runWith T' t' d s))) = linesOf (notesOf (trace (runWith T t d s))) ∧
      (requestsOf (notesOf (trace (runWith T' t' d s)))).map Http.Request.unsigned =
        (requestsOf (notesOf (trace (runWith T t d s)))).map Http.Request.unsigned) ∧
    (∀ (place : Surroundings) (d : Disk) (a : CheckArguments) (c c' : Remote.Client),
      Remote.Client.create T t a.apiUrl = .ok c → Remote.Client.create T' t' a.apiUrl = .ok c' →
      AnsweredAlike T T' (checkWith T t place d a).notes (checkWith T' t' place d a).notes →
      (checkWith T' t' place d a).disk = (checkWith T t place d a).disk ∧
      (checkWith T' t' place d a).printed = (checkWith T t place d a).printed ∧
      (checkWith T' t' place d a).trouble = (checkWith T t place d a).trouble ∧
      (checkWith T' t' place d a).notes.map Note.unsigned = (checkWith T t place d a).notes.map Note.unsigned ∧
      ∀ i : Invocation, i.console (checkWith T' t' place d a) = i.console (checkWith T t place d a)) := by
  refine ⟨?_, ?_⟩
  · intro d s c c' hc hc' hanswers
    obtain ⟨hresult, htrace⟩ := run_alike ht ht' d hc hc' hanswers
    have hnotes : (notesOf (trace (runWith T' t' d s))).map Note.unsigned =
        (notesOf (trace (runWith T t d s))).map Note.unsigned := by
      rw [notesOf_unsigned, htrace, notesOf_unsigned]
    refine ⟨hresult, htrace, ?_, ?_⟩
    · rw [← linesOf_unsigned (notesOf (trace (runWith T' t' d s))), hnotes, linesOf_unsigned]
    · rw [← requestsOf_unsigned, hnotes, requestsOf_unsigned]
  · intro place d a c c' hc hc' hanswers
    have h := check_alike ht ht' place d hc hc' hanswers
    exact ⟨h.disk, h.printed, h.trouble, h.notes, h.console⟩

/-- A service that lists nothing, whoever asks. -/
def emptyLists : Http.Transport := fun _ => .ok ⟨200, "[]"⟩

/-- A run that turns to the service. -/
def turning : Settings := ⟨"/scan", some "main", .warning, some ⟨"o", "r"⟩, none, "https://x"⟩

theorem token_shows_in_headers_only_emptyLists :
    let d : Disk := ⟨.dir [("scan", .file "\x7b\x7d".toUTF8)], []⟩
    AnsweredAlike emptyLists emptyLists (notesOf (trace (runWith emptyLists "one" d turning)))
        (notesOf (trace (runWith emptyLists "two" d turning))) ∧
      result (runWith emptyLists "two" d turning) = result (runWith emptyLists "one" d turning) ∧
      linesOf (notesOf (trace (runWith emptyLists "two" d turning))) =
        linesOf (notesOf (trace (runWith emptyLists "one" d turning))) := by
  intro d
  have hone : "one" ≠ "" := by decide
  have htwo : "two" ≠ "" := by decide
  have hc : Remote.Client.create emptyLists "one" turning.apiUrl =
      .ok ⟨emptyLists, "https://x", Remote.Client.headersFor "one"⟩ := rfl
  have hc' : Remote.Client.create emptyLists "two" turning.apiUrl =
      .ok ⟨emptyLists, "https://x", Remote.Client.headersFor "two"⟩ := rfl
  have hanswers : AnsweredAlike emptyLists emptyLists (notesOf (trace (runWith emptyLists "one" d turning)))
      (notesOf (trace (runWith emptyLists "two" d turning))) := fun _ _ _ _ _ => rfl
  have h := (token_shows_in_headers_only hone htwo).1 d turning _ _ hc hc' hanswers
  exact ⟨hanswers, h.1, h.2.2.1⟩

end ScanDelta.Command

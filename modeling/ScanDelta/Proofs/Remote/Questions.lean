import ScanDelta.Proofs.Remote.PullRequest

/-!
# What a comparison asks

* `StopsAt answers last` : the first page of a listing that is empty or a failure; `AllPages answers question cs` : the
  questions for the pages up to that one, in order;
* `pagesFrom answers budget page` : the pages that are read from a page on (`pagesFrom_eq_range'`);
* `calls_drain`, `calls_commitsFrom`, `calls_fetchSet` : the loops over pages ask for these and nothing else;
* `Metadata`, `Further`, `Questions` : the questions of a comparison, in order;
* `questions_of_stop`, `Questions.eq` : a comparison whose listings stop asks these, and they are no others;
* `questions_compare` : both, and what follows from it.
-/

set_option autoImplicit false

namespace ScanDelta.Remote

/-! ## Pages that are read -/

section Pages
variable {α : Type}

/-- A page with something on it. -/
def IsFull (answer : Except Failure (List α)) : Prop := ∃ items, answer = .ok items ∧ items ≠ []

/-- The first page that is not full. -/
structure StopsAt (answers : Nat → Except Failure (List α)) (last : Nat) : Prop where
  pos : 1 ≤ last
  le : last ≤ Pages.lastPage
  full {page : Nat} (hpos : 1 ≤ page) (hlt : page < last) : IsFull (answers page)
  stop : ¬ IsFull (answers last)

/-- The questions for the pages 1, 2, … up to the first that is not full. -/
def AllPages (answers : Nat → Except Failure (List α)) (question : Nat → Call) (cs : List Call) : Prop :=
  ∃ last, StopsAt answers last ∧ cs = (List.range' 1 last).map question

/-- No page is asked for twice. -/
theorem AllPages.nodup {answers : Nat → Except Failure (List α)} {question : Nat → Call} {cs : List Call}
    (h : AllPages answers question cs) (hq : Function.Injective question) : cs.Nodup := by
  obtain ⟨last, -, rfl⟩ := h
  have hpages : (List.range' 1 last).Nodup := List.nodup_range' 1
  exact List.Pairwise.map question (fun page page' hne heq => hne (hq heq)) hpages

/-- The pages that are read from a page on, with a budget of pages. -/
def pagesFrom (answers : Nat → Except Failure (List α)) : Nat → Nat → List Nat
  | 0, _ => []
  | budget + 1, page =>
    page :: match answers page with
      | .ok (_ :: _) => pagesFrom answers budget (page + 1)
      | _ => []

def pagesRead (answers : Nat → Except Failure (List α)) : List Nat := pagesFrom answers Pages.lastPage 1

variable {answers : Nat → Except Failure (List α)}

theorem pagesFrom_of_full {page : Nat} (h : IsFull (answers page)) (budget : Nat) :
    pagesFrom answers (budget + 1) page = page :: pagesFrom answers budget (page + 1) := by
  obtain ⟨items, hitems, hne⟩ := h
  obtain ⟨x, xs, rfl⟩ := List.exists_cons_of_ne_nil hne
  rw [pagesFrom, hitems]

theorem pagesFrom_of_not_full {page : Nat} (h : ¬ IsFull (answers page)) (budget : Nat) :
    pagesFrom answers (budget + 1) page = [page] := by
  rw [pagesFrom]
  split
  · rename_i x xs hitems
    exact absurd ⟨_, hitems, List.cons_ne_nil x xs⟩ h
  · rfl

/-- The reading stops at the first page that is not full. -/
theorem pagesFrom_eq_range' (budget page more : Nat) (hlt : more < budget)
    (hfull : ∀ i < more, IsFull (answers (page + i))) (hstop : ¬ IsFull (answers (page + more))) :
    pagesFrom answers budget page = List.range' page (more + 1) := by
  -- on the full pages before the one that stops the reading
  induction more generalizing budget page with
  | zero =>
    obtain ⟨budget, rfl⟩ : ∃ b, budget = b + 1 := ⟨budget - 1, by omega⟩
    rw [Nat.add_zero] at hstop
    exact pagesFrom_of_not_full hstop budget
  | succ more ih =>
    obtain ⟨budget, rfl⟩ : ∃ b, budget = b + 1 := ⟨budget - 1, by omega⟩
    have hrest := ih budget (page + 1) (by omega)
      (fun i hi => by rw [show page + 1 + i = page + (i + 1) by omega]; exact hfull (i + 1) (by omega))
      (by rwa [show page + 1 + more = page + (more + 1) by omega])
    have hfirst : IsFull (answers page) := hfull 0 (Nat.succ_pos more)
    rw [pagesFrom_of_full hfirst, hrest]
    rfl

theorem StopsAt.pagesRead_eq {last : Nat} (h : StopsAt answers last) : pagesRead answers = List.range' 1 last := by
  obtain ⟨more, rfl⟩ : ∃ more, last = more + 1 := ⟨last - 1, by have := h.pos; omega⟩
  refine pagesFrom_eq_range' Pages.lastPage 1 more h.le ?_ ?_
  · intro i hi
    exact h.full (by omega) (by omega)
  · rw [Nat.add_comm]
    exact h.stop

/-- Full pages stand one behind another. -/
theorem exists_fullFrom {page n : Nat}
    (h : ∀ i < n, IsFull (answers (page + i))) : ∃ pages, pages.length = n ∧ FullFrom answers page pages := by
  induction n generalizing page with
  | zero => exact ⟨[], rfl, trivial⟩
  | succ n ih =>
    obtain ⟨items, hitems, hne⟩ := h 0 (Nat.succ_pos n)
    have hmore : ∀ i < n, IsFull (answers (page + 1 + i)) := by
      intro i hi
      rw [Nat.add_assoc, Nat.add_comm 1]
      exact h (i + 1) (Nat.succ_lt_succ hi)
    obtain ⟨pages, hlength, hfull⟩ := ih hmore
    exact ⟨items :: pages, congrArg (· + 1) hlength, hitems, hne, hfull⟩

/-- A listing that stops does so at some page. -/
theorem Stops.exists_stopsAt (h : Stops answers) : ∃ last, StopsAt answers last := by
  have hstops : ∀ {pages : List (List α)}, FullFrom answers 1 pages → pages.length < Pages.lastPage →
      ¬ IsFull (answers (pages.length + 1)) → StopsAt answers (pages.length + 1) := by
    intro pages hfull hlt hstop
    refine ⟨by omega, hlt, fun {page} hpos hpage => ?_, hstop⟩
    obtain ⟨i, rfl⟩ := Nat.exists_eq_add_of_le hpos
    have hi : i < pages.length := by omega
    obtain ⟨hanswer, hne⟩ := (fullFrom_iff answers 1 pages).1 hfull i hi
    exact ⟨_, hanswer, hne⟩
  rcases h with ⟨items, pages, hfull, hlt, hend, -⟩ | ⟨e, pages, hfull, hlt, hfail⟩
  · refine ⟨_, hstops hfull hlt ?_⟩
    rintro ⟨items', hitems, hne⟩
    rw [hend] at hitems
    exact hne (Except.ok.inj hitems).symm
  · refine ⟨_, hstops hfull hlt ?_⟩
    rintro ⟨items', hitems, -⟩
    rw [hfail] at hitems
    cases hitems

theorem Stops.allPages (h : Stops answers) (question : Nat → Call) :
    AllPages answers question ((pagesRead answers).map question) := by
  obtain ⟨last, hlast⟩ := h.exists_stopsAt
  exact ⟨last, hlast, by rw [hlast.pagesRead_eq]⟩

theorem AllPages.eq {question : Nat → Call} {cs : List Call} (h : AllPages answers question cs) :
    cs = (pagesRead answers).map question := by
  obtain ⟨last, hlast, rfl⟩ := h
  rw [hlast.pagesRead_eq]

end Pages

/-! ## Questions through runs -/

section
variable {α β : Type}

theorem calls_bind (r : Run α) (f : α → Run β) : calls (trace (r >>= f)) =
    calls (trace r) ++ (match result r with | .ok a => calls (trace (f a)) | .error _ => []) := by
  rw [trace_bind, calls_append]
  cases result r <;> rfl

/-- What follows a run without a question does not show. -/
theorem calls_bind_of_silent (r : Run α) {f : α → Run β} (hf : ∀ a, calls (trace (f a)) = []) :
    calls (trace (r >>= f)) = calls (trace r) := by
  rw [calls_bind]
  cases result r with
  | error e => exact List.append_nil _
  | ok a =>
    show calls (trace r) ++ calls (trace (f a)) = calls (trace r)
    rw [hf a, List.append_nil]

theorem calls_bind_noted (t : Traced Note α) (f : α → Run β) :
    calls (trace ((liftM t : Run α) >>= f)) = calls (trace (f t.value)) := by
  rw [trace_bind_noted, calls_append, calls_notes, List.nil_append]

/-- What follows an attempt without a question does not show. -/
theorem calls_events_bind_of_silent (t : Traced Event α) {f : α → Traced Event β}
    (hf : calls (f t.value).events = []) : calls (t >>= f).events = calls t.events := by
  rw [Traced.bind_events, calls_append, hf, List.append_nil]

theorem calls_events_noted_pure (t : Traced Note α) (b : β) :
    calls ((liftM t : Traced Event α) >>= fun _ => pure b).events = [] := by
  rw [Traced.bind_events, calls_append, events_noted, calls_notes]
  rfl

theorem calls_ask (c : Call) (answer : Traced Note (Except Failure α)) : calls (trace (ask c answer)) = [c] := by
  have htrace : trace (ask c answer) = [.call c] ++ answer.events.map .note := rfl
  rw [htrace, calls_append, calls_notes]
  rfl

theorem calls_decoded (decode : Decoder α) (j : Json) : calls (trace (decoded decode j)) = [] := by
  unfold decoded
  cases decode j <;> rfl

end

/-! ## The two loops -/

theorem calls_next (s : Service) (p : Pages) (h : p.done = false) :
    calls (p.next s).events = [.alerts p.ref p.nextPage] := by
  rw [Pages.next, h, if_neg Bool.false_ne_true, Traced.bind_events, calls_append, events_attempt, askAlerts, calls_ask]
  split <;> rfl

/-- Pages of alerts are asked for one after another. -/
theorem calls_drain (s : Service) (budget : Nat) (p : Pages) (h : p.done = false) :
    calls (trace (p.drain s budget)) = (pagesFrom (s.alertAnswers p.ref) budget p.nextPage).map (.alerts p.ref) := by
  induction budget generalizing p with
  | zero => rfl
  | succ budget ih =>
    rw [Pages.drain, trace_bind_traced, calls_append, calls_next s p h, value_next s p h, pagesFrom]
    rcases s.alertAnswers p.ref p.nextPage with e | (_ | ⟨x, xs⟩)
    · rfl
    · rfl
    · have hrest := ih { p with nextPage := p.nextPage + 1 } h
      show _ ++ calls (trace (_ >>= _)) = _
      rw [calls_bind_of_silent _ fun _ => rfl, hrest]
      rfl

/-- Pages of commits are asked for one after another. -/
theorem calls_commitsFrom (s : Service) (number budget page : Nat) :
    calls (trace (commitsFrom s number budget page)) =
      (pagesFrom (s.commitAnswers number) budget page).map (.commits number) := by
  induction budget generalizing page with
  | zero => rfl
  | succ budget ih =>
    rw [commitsFrom, calls_bind, askCommits, calls_ask, result_ask, pagesFrom, Service.commitAnswers]
    cases (s.commitPage number page).value with
    | error e => rfl
    | ok j =>
      dsimp only
      rw [ok_bind, calls_bind, calls_decoded, result_decoded]
      rcases decodedAnswer commits j with e | (_ | ⟨x, xs⟩)
      · rfl
      · rfl
      · show _ ++ ([] ++ calls (trace (_ >>= _))) = _
        rw [calls_bind_of_silent _ fun _ => rfl, ih (page + 1)]
        rfl

/-! ## The parts of a comparison -/

/-- The questions for the alerts of a ref. -/
def alertCalls (s : Service) (ref : Option String) : List Call := (pagesRead (s.alertAnswers ref)).map (.alerts ref)

theorem calls_fetchSet (s : Service) (ref : Option String) (label : String) :
    calls (trace (fetchSet s ref label)) = alertCalls s ref := by
  have hlisting : calls (trace (listing s ref)) = alertCalls s ref := calls_drain s Pages.lastPage (.start ref) rfl
  rw [fetchSet, calls_bind_of_silent, hlisting]
  intro raw
  simp only [calls_bind_noted]
  rfl

theorem calls_secondaryIf (s : Service) (subject : AlertSet) (label : String) (target : Option String) :
    calls (secondaryIf s subject label target).events = target.elim [] fun t => alertCalls s (some t) := by
  cases target with
  | none => rfl
  | some t =>
    rw [secondaryIf, secondary, calls_events_bind_of_silent, events_attempt, calls_fetchSet]
    · rfl
    · split
      · exact calls_events_noted_pure _ _
      · split
        · exact calls_events_noted_pure _ _
        · rfl

theorem calls_pullBaseOf (s : Service) (ref : String) (number : Nat) :
    calls (pullBaseOf s ref number).events = [.pull number] := by
  rw [pullBaseOf, calls_events_bind_of_silent, events_attempt, calls_bind_of_silent _ (calls_decoded pullBase), askPull,
    calls_ask]
  split
  · rfl
  · exact calls_events_noted_pure _ _

theorem calls_pullCommits (s : Service) (number : Nat) :
    calls (trace (pullCommits s number)) = (pagesRead (s.commitAnswers number)).map (.commits number) := by
  rw [pullCommits, calls_bind_of_silent, calls_commitsFrom]
  · rfl
  · intro shas
    exact calls_bind_noted _ _

theorem calls_previousCommitOf (s : Service) (ref : String) (number : Nat) :
    calls (previousCommitOf s ref number).events = (pagesRead (s.commitAnswers number)).map (.commits number) := by
  rw [previousCommitOf, calls_events_bind_of_silent, events_attempt, calls_pullCommits]
  split
  · split
    · rfl
    · exact calls_events_noted_pure _ _
  · exact calls_events_noted_pure _ _

/-- The questions for what is known of a pull request. -/
def metadataCalls (s : Service) (ref : String) : List Call :=
  match RefKind.of ref with
  | .pull number => .pull number :: (pagesRead (s.commitAnswers number)).map (.commits number)
  | _ => []

theorem calls_pullRefs (s : Service) (ref : String) : calls (pullRefs s ref).events = metadataCalls s ref := by
  rw [pullRefs, metadataCalls]
  cases RefKind.of ref with
  | plain => rfl
  | malformed => exact calls_events_noted_pure _ _
  | pull number =>
    dsimp only
    rw [Traced.bind_events, calls_append, calls_pullBaseOf, calls_events_bind_of_silent _ rfl, calls_previousCommitOf]
    rfl

/-- The questions for a further comparison. -/
def furtherCalls (s : Service) (target : Option String) : List Call :=
  target.elim [] fun t => alertCalls s (some t)

/-- The questions after the two primary listings. -/
def laterCalls (s : Service) (ref : String) : List Call :=
  metadataCalls s ref ++ furtherCalls s (pullRefs s ref).value.previousCommit ++ furtherCalls s (baseTarget? s ref)

theorem calls_compare (s : Service) (ref : String) : calls (trace (compare s ref)) =
    alertCalls s (some ref) ++ (match readAll (s.alertAnswers (some ref)) with
      | .error _ => []
      | .ok _ => alertCalls s none ++ match readAll (s.alertAnswers none) with
        | .error _ => []
        | .ok _ => laterCalls s ref) := by
  rw [compare, calls_bind_noted, calls_bind, calls_fetchSet, result_fetchSet]
  cases readAll (s.alertAnswers (some ref)) with
  | error e => rfl
  | ok xs =>
    show _ ++ calls (trace (_ >>= _)) = _
    rw [calls_bind, calls_fetchSet, result_fetchSet]
    cases readAll (s.alertAnswers none) with
    | error e => rfl
    | ok ys =>
      show _ ++ (_ ++ calls (trace (_ >>= _))) = _
      simp only [calls_bind_noted, trace_bind_traced, calls_append, calls_pullRefs, calls_secondaryIf, trace_pure]
      have hlater : laterCalls s ref = metadataCalls s ref ++ (furtherCalls s (pullRefs s ref).value.previousCommit ++
          (furtherCalls s (pullRefs s ref).value.baseTarget ++ calls [])) := by
        rw [laterCalls, baseTarget?, calls, List.filterMap_nil, List.append_nil, List.append_assoc]
      rw [hlater]
      rfl

/-! ## All questions -/

/-- The questions for what is known of a pull request: one for itself, then the pages of its commits. -/
inductive Metadata (s : Service) (ref : String) : List Call → Prop
  | none (h : ∀ number, RefKind.of ref ≠ .pull number) : Metadata s ref []
  | pull {number : Nat} {cs : List Call} (h : RefKind.of ref = .pull number)
    (hcs : AllPages (s.commitAnswers number) (.commits number) cs) : Metadata s ref (.pull number :: cs)

/-- The questions for a further comparison, if there is a target for it. -/
inductive Further (s : Service) : Option String → List Call → Prop
  | none : Further s none []
  | target {t : String} {cs : List Call} (hcs : AllPages (s.alertAnswers (some t)) (.alerts (some t)) cs) :
    Further s (some t) cs

/-- The questions of a comparison, in order. -/
inductive Questions (s : Service) (ref : String) : List Call → Prop
  | subjectFails {xs : List Call} {e : Failure} (he : FailsWith (s.alertAnswers (some ref)) e)
    (hxs : AllPages (s.alertAnswers (some ref)) (.alerts (some ref)) xs) : Questions s ref xs
  | defaultFails {xs ys : List Call} {items : List Json} {e : Failure}
    (hsubject : EndsWith (s.alertAnswers (some ref)) items) (he : FailsWith (s.alertAnswers none) e)
    (hxs : AllPages (s.alertAnswers (some ref)) (.alerts (some ref)) xs)
    (hys : AllPages (s.alertAnswers none) (.alerts none) ys) : Questions s ref (xs ++ ys)
  | both {xs ys ms ps bs : List Call} {items items' : List Json}
    (hsubject : EndsWith (s.alertAnswers (some ref)) items) (hdefault : EndsWith (s.alertAnswers none) items')
    (hxs : AllPages (s.alertAnswers (some ref)) (.alerts (some ref)) xs)
    (hys : AllPages (s.alertAnswers none) (.alerts none) ys) (hms : Metadata s ref ms)
    (hps : Further s (pullRefs s ref).value.previousCommit ps) (hbs : Further s (baseTarget? s ref) bs) :
    Questions s ref (xs ++ (ys ++ (ms ++ ps ++ bs)))

/-- The listings that a comparison reads stop. -/
structure ReadListingsStop (s : Service) (ref : String) : Prop where
  subject : Stops (s.alertAnswers (some ref))
  default {items : List Json} (h : EndsWith (s.alertAnswers (some ref)) items) : Stops (s.alertAnswers none)
  commits {items items' : List Json} {number : Nat} (h : EndsWith (s.alertAnswers (some ref)) items)
    (h' : EndsWith (s.alertAnswers none) items') (href : RefKind.of ref = .pull number) : Stops (s.commitAnswers number)
  further {items items' : List Json} {t : String} (h : EndsWith (s.alertAnswers (some ref)) items)
    (h' : EndsWith (s.alertAnswers none) items')
    (ht : (pullRefs s ref).value.previousCommit = some t ∨ baseTarget? s ref = some t) :
    Stops (s.alertAnswers (some t))

theorem metadata_metadataCalls {s : Service} {ref : String}
    (h : ∀ number, RefKind.of ref = .pull number → Stops (s.commitAnswers number)) :
    Metadata s ref (metadataCalls s ref) := by
  rw [metadataCalls]
  cases href : RefKind.of ref with
  | plain | malformed =>
    refine .none ?_
    rw [href]
    exact nofun
  | pull number => exact .pull href ((h number href).allPages _)

theorem further_furtherCalls {s : Service} {target : Option String}
    (h : ∀ t, target = some t → Stops (s.alertAnswers (some t))) : Further s target (furtherCalls s target) := by
  cases target with
  | none => exact .none
  | some t => exact .target ((h t rfl).allPages _)

theorem questions_of_stop {s : Service} {ref : String} (h : ReadListingsStop s ref) :
    Questions s ref (calls (trace (compare s ref))) := by
  have hxs := h.subject.allPages (.alerts (some ref))
  rw [calls_compare]
  cases hx : readAll (s.alertAnswers (some ref)) with
  | error e =>
    dsimp only
    rw [List.append_nil]
    exact .subjectFails ((readAll_eq_error_iff h.subject e).1 hx) hxs
  | ok items =>
    have hsubject := (readAll_eq_ok_iff _ items).1 hx
    have hstops := h.default hsubject
    have hys := hstops.allPages (.alerts none)
    dsimp only
    cases hy : readAll (s.alertAnswers none) with
    | error e =>
      dsimp only
      rw [List.append_nil]
      exact .defaultFails hsubject ((readAll_eq_error_iff hstops e).1 hy) hxs hys
    | ok items' =>
      have hdefault := (readAll_eq_ok_iff _ items').1 hy
      have hms := metadata_metadataCalls fun number href => h.commits hsubject hdefault href
      have hps := further_furtherCalls fun t ht => h.further hsubject hdefault (.inl ht)
      have hbs := further_furtherCalls fun t ht => h.further hsubject hdefault (.inr ht)
      exact .both hsubject hdefault hxs hys hms hps hbs

theorem Metadata.eq {s : Service} {ref : String} {cs : List Call} (h : Metadata s ref cs) :
    cs = metadataCalls s ref := by
  rw [metadataCalls]
  cases h with
  | none h =>
    cases href : RefKind.of ref with
    | plain | malformed => rfl
    | pull number => exact absurd href (h number)
  | pull href hcs =>
    rw [href, hcs.eq]

theorem Further.eq {s : Service} {target : Option String} {cs : List Call} (h : Further s target cs) :
    cs = furtherCalls s target := by
  cases h with
  | none => rfl
  | target hcs => exact hcs.eq

/-- There are no other questions than these. -/
theorem Questions.eq {s : Service} {ref : String} {cs : List Call} (h : Questions s ref cs) :
    cs = calls (trace (compare s ref)) := by
  rw [calls_compare]
  cases h with
  | subjectFails he hxs =>
    rw [readAll_of_failsWith he, hxs.eq]
    exact (List.append_nil _).symm
  | defaultFails hsubject he hxs hys =>
    rw [readAll_of_endsWith hsubject, readAll_of_failsWith he, hxs.eq, hys.eq]
    show alertCalls s (some ref) ++ alertCalls s none = alertCalls s (some ref) ++ (alertCalls s none ++ [])
    rw [List.append_nil]
  | both hsubject hdefault hxs hys hms hps hbs =>
    rw [readAll_of_endsWith hsubject, readAll_of_endsWith hdefault, hxs.eq, hys.eq, hms.eq, hps.eq, hbs.eq]
    rfl

/-- A ref that is none of a pull request is asked for alerts alone. -/
theorem alerts_of_mem_calls {s : Service} {ref : String} (h : ∀ number, RefKind.of ref ≠ .pull number) {c : Call}
    (hc : c ∈ calls (trace (compare s ref))) : ∃ r page, c = .alerts r page := by
  have hmetadata : metadataCalls s ref = [] := by
    rw [metadataCalls]
    cases href : RefKind.of ref with
    | plain | malformed => rfl
    | pull number => exact absurd href (h number)
  have halerts : ∀ r, c ∈ alertCalls s r → ∃ r page, c = .alerts r page := by
    intro r hr
    obtain ⟨page, -, rfl⟩ := List.mem_map.1 hr
    exact ⟨r, page, rfl⟩
  have hfurther : ∀ target, c ∈ furtherCalls s target → ∃ r page, c = .alerts r page := by
    intro target ht
    cases target with
    | none => cases ht
    | some t => exact halerts _ ht
  rw [calls_compare, List.mem_append] at hc
  rcases hc with hc | hc
  · exact halerts _ hc
  split at hc
  · cases hc
  rcases List.mem_append.1 hc with hc | hc
  · exact halerts _ hc
  split at hc
  · cases hc
  rw [laterCalls, hmetadata, List.nil_append, List.mem_append] at hc
  exact hc.elim (hfurther _) (hfurther _)

/-- **A comparison asks for one listing after another**: the alerts of the ref, those of the default branch, what is
known of a pull request, the alerts of its previous commit and those of its base, each listing page by page up to the
first that is empty or a failure. It asks for nothing behind a primary listing that fails, and for no page of a listing
twice. Nothing is asked of pull requests for a ref that is none of one. -/
theorem questions_compare (s : Service) (ref : String) (h : ReadListingsStop s ref) :
    (∀ cs, Questions s ref cs ↔ cs = calls (trace (compare s ref))) ∧
    (∀ r cs, AllPages (s.alertAnswers r) (.alerts r) cs → cs.Nodup) ∧
    (∀ number cs, AllPages (s.commitAnswers number) (.commits number) cs → cs.Nodup) ∧
    ((∀ number, RefKind.of ref ≠ .pull number) →
      ∀ c ∈ calls (trace (compare s ref)), ∃ r page, c = .alerts r page) := by
  refine ⟨fun cs => ⟨Questions.eq, ?_⟩, ?_, ?_, fun href c => alerts_of_mem_calls href⟩
  · rintro rfl
    exact questions_of_stop h
  · intro r cs hcs
    exact hcs.nodup fun page page' heq => (Call.alerts.inj heq).2
  · intro number cs hcs
    exact hcs.nodup fun page page' heq => (Call.commits.inj heq).2

theorem questions_twoCommitPages :
    ReadListingsStop twoCommitPages "refs/pull/7/merge" ∧
    Questions twoCommitPages "refs/pull/7/merge" (calls (trace (compare twoCommitPages "refs/pull/7/merge"))) := by
  have halerts : ∀ r, Stops (twoCommitPages.alertAnswers r) := by
    intro r
    have hlt : 1 < Pages.lastPage := by decide
    exact .inl ⟨_, [[rawAlert (if r = none then "a" else "b")]], ⟨rfl, List.cons_ne_nil _ _, trivial⟩, hlt, rfl, rfl⟩
  have hcommits : ∀ number, Stops (twoCommitPages.commitAnswers number) := by
    intro number
    exact .inl ⟨_, [["c1", "c2"], ["c3"]], ⟨rfl, List.cons_ne_nil _ _, rfl, List.cons_ne_nil _ _, trivial⟩, by decide,
      rfl, rfl⟩
  have hstop : ReadListingsStop twoCommitPages "refs/pull/7/merge" :=
    ⟨halerts _, fun _ => halerts _, fun _ _ _ => hcommits _, fun _ _ _ => halerts _⟩
  exact ⟨hstop, ((questions_compare twoCommitPages "refs/pull/7/merge" hstop).1 _).2 rfl⟩

end ScanDelta.Remote

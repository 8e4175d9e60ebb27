import ScanDelta.Proofs.Run
import ScanDelta.Remote.Comparison

/-!
# How listings stop

The answers to the pages 1, 2, … of a listing are a function of the page.

* `EndsWith answers items` : after full pages with these items comes an empty one;
* `FailsWith answers e` : after full pages comes the failure `e`;
* `Stops answers` : one of the two; `Agree answers answers'` : both in the same way, with pages cut anyhow;
* `readAll answers` : the pages read one after another up to the one at which the listing stops;
* `readAll_eq_ok_iff`, `readAll_eq_error_iff`, `Agree.readAll_eq` : it comes to what the listing stops with;
* `readAll_eq_error_iff_failsWith_or_endless` : it fails for no other reason, unless the listing is endless;
* `listed? answers` : the items of a listing that ends (`listed?_eq_some_iff`, `Agree.listed?_eq`);
* `result_listing`, `result_commitsFrom` : the two loops over pages read all of them;
* `Service.ofPages` : a service with given pages.
-/

set_option autoImplicit false

namespace ScanDelta

/-! ## Answers -/

/-- A decoded value, or the failure to decode it. -/
def Remote.decodedAnswer {α : Type} (decode : Remote.Decoder α) (j : Json) : Except Failure α :=
  (decode j).mapError fun e => .unexpectedResponse e.message

namespace Service

/-- The answers to the pages of the alerts of a ref. -/
def alertAnswers (s : Service) (ref : Option String) (page : Nat) : Except Failure (List Json) :=
  (s.alertPage ref page).value

/-- The hashes on the pages of the commits of a pull request. -/
def commitAnswers (s : Service) (number page : Nat) : Except Failure (List String) :=
  (s.commitPage number page).value >>= Remote.decodedAnswer Remote.commits

/-- The base of a pull request, unless the question fails or the answer does not decode. -/
def pullAnswer (s : Service) (number : Nat) : Except Failure Remote.Base :=
  (s.pull number).value >>= Remote.decodedAnswer Remote.pullBase

end Service

namespace Remote

/-! ## Where a listing stops -/

section Stop
variable {α : Type}

/-- The answers from a page on begin with these pages, none of them empty. -/
def FullFrom (answers : Nat → Except Failure (List α)) : Nat → List (List α) → Prop
  | _, [] => True
  | page, items :: more => answers page = .ok items ∧ items ≠ [] ∧ FullFrom answers (page + 1) more

/-- The first page that is not full is empty, and the full ones hold these items. -/
def EndsWith (answers : Nat → Except Failure (List α)) (items : List α) : Prop :=
  ∃ pages, FullFrom answers 1 pages ∧ pages.length < Pages.lastPage ∧
    answers (pages.length + 1) = .ok [] ∧ items = pages.flatten

/-- The first page that is not full is a failure. -/
def FailsWith (answers : Nat → Except Failure (List α)) (e : Failure) : Prop :=
  ∃ pages, FullFrom answers 1 pages ∧ pages.length < Pages.lastPage ∧
    answers (pages.length + 1) = .error e

/-- Some page is not full. -/
def Stops (answers : Nat → Except Failure (List α)) : Prop :=
  (∃ items, EndsWith answers items) ∨ ∃ e, FailsWith answers e

/-- The two listings stop with the same items or the same failure, if at all. -/
def Agree (answers answers' : Nat → Except Failure (List α)) : Prop :=
  (∀ items, EndsWith answers items ↔ EndsWith answers' items) ∧
    ∀ e, FailsWith answers e ↔ FailsWith answers' e

/-- The pages stand one behind another from the first of them on. -/
theorem fullFrom_iff (answers : Nat → Except Failure (List α)) (page : Nat) (pages : List (List α)) :
    FullFrom answers page pages ↔
      ∀ (i : Nat) (h : i < pages.length), answers (page + i) = .ok pages[i] ∧ pages[i] ≠ [] := by
  induction pages generalizing page with
  | nil => exact ⟨fun _ i h => absurd h (Nat.not_lt_zero i), fun _ => trivial⟩
  | cons items more ih =>
    rw [FullFrom, ih (page + 1)]
    constructor
    · rintro ⟨hpage, hne, hmore⟩ i h
      cases i with
      | zero => exact ⟨hpage, hne⟩
      | succ i =>
        rw [show page + (i + 1) = page + 1 + i by omega]
        exact hmore i (Nat.lt_of_succ_lt_succ h)
    · intro h
      have hfirst := h 0 (Nat.succ_pos _)
      refine ⟨hfirst.1, hfirst.2, fun i hi => ?_⟩
      rw [show page + 1 + i = page + (i + 1) by omega]
      exact h (i + 1) (Nat.succ_lt_succ hi)

/-- A listing cut into these pages, with nothing behind them, ends. -/
theorem endsWith_of_pages {answers : Nat → Except Failure (List α)} (pages : List (List α))
    (hne : ∀ items ∈ pages, items ≠ []) (hlt : pages.length < Pages.lastPage)
    (h : ∀ i, answers (i + 1) = .ok (pages.getD i [])) : EndsWith answers pages.flatten := by
  refine ⟨pages, (fullFrom_iff answers 1 pages).2 fun i hi => ?_, hlt, ?_, rfl⟩
  · rw [Nat.add_comm, h i, List.getD_eq_getElem?_getD, List.getElem?_eq_getElem hi]
    exact ⟨rfl, hne _ (List.getElem_mem hi)⟩
  · rw [h pages.length, List.getD_eq_getElem?_getD, List.getElem?_eq_none (Nat.le_refl _)]
    rfl

/-! ## Reading one page after another -/

/-- The items from a page on, with a budget of pages. -/
def readFrom (answers : Nat → Except Failure (List α)) : Nat → Nat → Except Failure (List α)
  | 0, _ => .error Pages.endless
  | budget + 1, page =>
    match answers page with
    | .error e => .error e
    | .ok [] => .ok []
    | .ok (x :: xs) => (fun rest => (x :: xs) ++ rest) <$> readFrom answers budget (page + 1)

def readAll (answers : Nat → Except Failure (List α)) : Except Failure (List α) :=
  readFrom answers Pages.lastPage 1

variable {answers : Nat → Except Failure (List α)}

/-- Full pages are read, and the reading goes on behind them. -/
theorem readFrom_of_full {pages : List (List α)} {page : Nat} (h : FullFrom answers page pages) (budget : Nat) :
    readFrom answers (pages.length + budget) page =
      (fun rest => pages.flatten ++ rest) <$> readFrom answers budget (page + pages.length) := by
  induction pages generalizing page with
  | nil =>
    rw [List.length_nil, Nat.zero_add, Nat.add_zero]
    cases readFrom answers budget page <;> rfl
  | cons items more ih =>
    obtain ⟨hpage, hne, hmore⟩ := h
    obtain ⟨x, xs, rfl⟩ := List.exists_cons_of_ne_nil hne
    rw [List.length_cons, show more.length + 1 + budget = (more.length + budget) + 1 by omega, readFrom, hpage]
    show _ <$> readFrom answers (more.length + budget) (page + 1) = _
    rw [ih hmore, show page + 1 + more.length = page + (more.length + 1) by omega]
    cases readFrom answers budget (page + (more.length + 1)) with
    | error e => rfl
    | ok rest => exact congrArg Except.ok (List.append_assoc (x :: xs) more.flatten rest).symm

theorem readAll_of_endsWith {items : List α} (h : EndsWith answers items) : readAll answers = .ok items := by
  obtain ⟨pages, hfull, hlt, hend, rfl⟩ := h
  obtain ⟨budget, hb⟩ : ∃ budget, Pages.lastPage = pages.length + (budget + 1) :=
    ⟨Pages.lastPage - pages.length - 1, by omega⟩
  rw [readAll, hb, readFrom_of_full hfull, readFrom, Nat.add_comm 1, hend]
  exact congrArg Except.ok (List.append_nil _)

theorem readAll_of_failsWith {e : Failure} (h : FailsWith answers e) : readAll answers = .error e := by
  obtain ⟨pages, hfull, hlt, hfail⟩ := h
  obtain ⟨budget, hb⟩ : ∃ budget, Pages.lastPage = pages.length + (budget + 1) :=
    ⟨Pages.lastPage - pages.length - 1, by omega⟩
  rw [readAll, hb, readFrom_of_full hfull, readFrom, Nat.add_comm 1, hfail]
  rfl

/-- What is read has been listed: full pages, and an empty one behind them. -/
theorem full_of_readFrom {budget page : Nat} {items : List α} (h : readFrom answers budget page = .ok items) :
    ∃ pages, FullFrom answers page pages ∧ pages.length < budget ∧
      answers (page + pages.length) = .ok [] ∧ items = pages.flatten := by
  induction budget generalizing page items with
  | zero => cases h
  | succ budget ih =>
    rw [readFrom] at h
    split at h
    · cases h
    · rename_i hpage
      cases h
      exact ⟨[], trivial, Nat.succ_pos budget, hpage, rfl⟩
    · rename_i x xs hpage
      cases hrest : readFrom answers budget (page + 1) with
      | error e =>
        rw [hrest] at h
        cases h
      | ok rest =>
        rw [hrest] at h
        cases h
        obtain ⟨pages, hfull, hlt, hend, rfl⟩ := ih hrest
        refine ⟨(x :: xs) :: pages, ⟨hpage, List.cons_ne_nil x xs, hfull⟩, ?_, ?_, rfl⟩
        · rw [List.length_cons]
          omega
        · rw [List.length_cons, show page + (pages.length + 1) = page + 1 + pages.length by omega, hend]

/-- A reading that fails has met a failure behind full pages, or nothing but full pages. -/
theorem full_of_readFrom_error {budget page : Nat} {e : Failure} (h : readFrom answers budget page = .error e) :
    ∃ pages, FullFrom answers page pages ∧
      ((pages.length < budget ∧ answers (page + pages.length) = .error e) ∨
        (pages.length = budget ∧ e = Pages.endless)) := by
  induction budget generalizing page with
  | zero =>
    cases h
    exact ⟨[], trivial, .inr ⟨rfl, rfl⟩⟩
  | succ budget ih =>
    rw [readFrom] at h
    split at h
    · rename_i hpage
      cases h
      exact ⟨[], trivial, .inl ⟨Nat.succ_pos budget, hpage⟩⟩
    · cases h
    · rename_i x xs hpage
      cases hrest : readFrom answers budget (page + 1) with
      | ok rest =>
        rw [hrest] at h
        cases h
      | error e' =>
        rw [hrest] at h
        cases h
        obtain ⟨pages, hfull, hstop⟩ := ih hrest
        refine ⟨(x :: xs) :: pages, ⟨hpage, List.cons_ne_nil x xs, hfull⟩, ?_⟩
        rw [List.length_cons, show page + (pages.length + 1) = page + 1 + pages.length by omega]
        exact hstop.imp (fun ⟨hlt, hfail⟩ => ⟨by omega, hfail⟩) fun ⟨heq, hend⟩ => ⟨by omega, hend⟩

theorem readAll_eq_ok_iff (answers : Nat → Except Failure (List α)) (items : List α) :
    readAll answers = .ok items ↔ EndsWith answers items := by
  refine ⟨fun h => ?_, readAll_of_endsWith⟩
  obtain ⟨pages, hfull, hlt, hend, hitems⟩ := full_of_readFrom h
  exact ⟨pages, hfull, hlt, by rw [Nat.add_comm, hend], hitems⟩

theorem readAll_eq_error_iff (h : Stops answers) (e : Failure) :
    readAll answers = .error e ↔ FailsWith answers e := by
  refine ⟨fun he => ?_, readAll_of_failsWith⟩
  rcases h with ⟨items, h⟩ | ⟨e', h⟩
  · rw [readAll_of_endsWith h] at he
    cases he
  · rw [readAll_of_failsWith h] at he
    cases he
    exact h

/-- Without a page that stops it, a listing is given up behind the last page. -/
theorem readAll_eq_error_iff_failsWith_or_endless (answers : Nat → Except Failure (List α)) (e : Failure) :
    readAll answers = .error e ↔ FailsWith answers e ∨
      (e = Pages.endless ∧ ∃ pages, FullFrom answers 1 pages ∧ pages.length = Pages.lastPage) := by
  constructor
  · intro h
    obtain ⟨pages, hfull, ⟨hlt, hfail⟩ | ⟨hlength, hend⟩⟩ := full_of_readFrom_error h
    · exact .inl ⟨pages, hfull, hlt, by rw [Nat.add_comm, hfail]⟩
    · exact .inr ⟨hend, pages, hfull, hlength⟩
  · rintro (h | ⟨rfl, pages, hfull, hlength⟩)
    · exact readAll_of_failsWith h
    · rw [readAll, ← hlength, ← Nat.add_zero pages.length, readFrom_of_full hfull, readFrom]
      rfl

/-- A listing ends with one list of items. -/
theorem EndsWith.unique {items items' : List α} (h : EndsWith answers items) (h' : EndsWith answers items') :
    items = items' := by
  have := (readAll_of_endsWith h).symm.trans (readAll_of_endsWith h')
  exact Except.ok.inj this

theorem EndsWith.not_failsWith {items : List α} (h : EndsWith answers items) (e : Failure) :
    ¬ FailsWith answers e := by
  intro he
  have := (readAll_of_endsWith h).symm.trans (readAll_of_failsWith he)
  cases this

theorem Agree.readAll_eq {answers' : Nat → Except Failure (List α)} (h : Agree answers answers')
    (hs : Stops answers) : readAll answers = readAll answers' := by
  rcases hs with ⟨items, hi⟩ | ⟨e, he⟩
  · rw [readAll_of_endsWith hi, readAll_of_endsWith ((h.1 items).1 hi)]
  · rw [readAll_of_failsWith he, readAll_of_failsWith ((h.2 e).1 he)]

/-- The items of a listing, if it ends. -/
def listed? (answers : Nat → Except Failure (List α)) : Option (List α) := (readAll answers).toOption

theorem listed?_eq_some_iff (answers : Nat → Except Failure (List α)) (items : List α) :
    listed? answers = some items ↔ EndsWith answers items := by
  rw [← readAll_eq_ok_iff, listed?]
  cases readAll answers <;> simp [Except.toOption]

theorem listed?_congr {answers' : Nat → Except Failure (List α)}
    (h : ∀ items, EndsWith answers items ↔ EndsWith answers' items) : listed? answers = listed? answers' := by
  apply Option.ext
  intro items
  rw [listed?_eq_some_iff, listed?_eq_some_iff, h items]

/-- The items agree even if no page stops the listings. -/
theorem Agree.listed?_eq {answers' : Nat → Except Failure (List α)} (h : Agree answers answers') :
    listed? answers = listed? answers' := listed?_congr h.1

end Stop

/-! ## The two loops -/

theorem value_next (s : Service) (p : Pages) (h : p.done = false) :
    (p.next s).value = match s.alertAnswers p.ref p.nextPage with
      | .ok [] => (none, { p with nextPage := p.nextPage + 1, done := true })
      | .ok items => (some (.ok items), { p with nextPage := p.nextPage + 1 })
      | .error e => (some (.error e), { p with nextPage := p.nextPage + 1, done := true }) := by
  rw [Pages.next, h, if_neg Bool.false_ne_true, Traced.bind_value, value_attempt, askAlerts, result_ask]
  show _ = match (s.alertPage p.ref p.nextPage).value with | .ok [] => _ | .ok items => _ | .error e => _
  rcases (s.alertPage p.ref p.nextPage).value with e | (_ | ⟨x, xs⟩) <;> rfl

theorem result_drain (s : Service) (budget : Nat) (p : Pages) (h : p.done = false) :
    result (p.drain s budget) = readFrom (s.alertAnswers p.ref) budget p.nextPage := by
  induction budget generalizing p with
  | zero => rfl
  | succ budget ih =>
    rw [Pages.drain, result_bind, result_traced, ok_bind, value_next s p h, readFrom]
    rcases s.alertAnswers p.ref p.nextPage with e | (_ | ⟨x, xs⟩)
    · rfl
    · rfl
    · have hrest := ih { p with nextPage := p.nextPage + 1 } h
      show result (_ >>= _) = _
      rw [result_bind, hrest]
      rfl

theorem result_listing (s : Service) (ref : Option String) :
    result (listing s ref) = readAll (s.alertAnswers ref) :=
  result_drain s Pages.lastPage (Pages.start ref) rfl

theorem result_decoded {α : Type} (decode : Decoder α) (j : Json) :
    result (decoded decode j) = decodedAnswer decode j := by
  unfold decoded decodedAnswer
  cases decode j <;> rfl

theorem result_commitsFrom (s : Service) (number budget page : Nat) :
    result (commitsFrom s number budget page) = readFrom (s.commitAnswers number) budget page := by
  induction budget generalizing page with
  | zero => rfl
  | succ budget ih =>
    rw [commitsFrom, result_bind, askCommits, result_ask, readFrom, Service.commitAnswers]
    cases (s.commitPage number page).value with
    | error e => rfl
    | ok j =>
      rw [ok_bind, ok_bind, result_bind, result_decoded]
      rcases decodedAnswer commits j with e | (_ | ⟨x, xs⟩)
      · rfl
      · rfl
      · show result (_ >>= _) = _
        rw [result_bind, ih (page + 1)]
        rfl

end Remote

/-! ## Services with given pages -/

/-- A service with these pages, behind which all pages are empty. -/
def Service.ofPages (alerts : Option String → List (List Json)) (pull : Json) (commits : List (List Json)) :
    Service where
  alertPage ref page := pure (.ok ((alerts ref).getD (page - 1) []))
  pull _ := pure (.ok pull)
  commitPage _ page := pure (.ok (.arr (commits.getD (page - 1) [])))

theorem Service.endsWith_ofPages (alerts : Option String → List (List Json)) (pull : Json)
    (commits : List (List Json)) (ref : Option String) (hne : ∀ items ∈ alerts ref, items ≠ [])
    (hlt : (alerts ref).length < Remote.Pages.lastPage) :
    Remote.EndsWith ((Service.ofPages alerts pull commits).alertAnswers ref) (alerts ref).flatten :=
  Remote.endsWith_of_pages (alerts ref) hne hlt fun _ => rfl

/-- A pull request of whose base the service tells the name alone. -/
def Remote.rawPull (ref : String) : Json := .obj [("base", .obj [("ref", .str ref)])]

def Remote.rawCommit (sha : String) : Json := .obj [("sha", .str sha)]

end ScanDelta

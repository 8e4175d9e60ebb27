import ScanDelta.Proofs.Remote.Questions

/-!
# The life of a reading

* `Pages.nextTimes`, `Pages.nextThenCollect` : some calls of `next`, and all that is left after them;
* `Before s p pages stop` : the reading `p` has these full pages before it, and behind them the answer `stop`;
* `Before.next_full`, `Before.next_stop`, `next_of_done` : what one call does before a full page, at the stop, and after
  it;
* `Before.value_nextTimes`, `Before.calls_nextTimes` : what some calls yield (`yields`) and what they ask;
* `Before.nextTimes`, `Before.done_nextTimes` : where they leave the reading;
* `Before.result_collect`, `Before.calls_collect`, `collect_of_done` : collecting what is left;
* `reading_asks_each_page_once` : all of it, for a reading from its first page on.
-/

set_option autoImplicit false

namespace ScanDelta.Remote

namespace Pages

/-- What a call of `next` yields: a page, a failure, or nothing at the end. -/
abbrev Yield := Option (Except Failure (List Json))

/-- Some calls of `next` with what they yield, in order. -/
def nextTimes (s : Service) : Nat → Pages → Traced Event (List Yield × Pages)
  | 0, p => return ([], p)
  | n + 1, p => do
    let (first, p) ← p.next s
    let (more, p) ← nextTimes s n p
    return (first :: more, p)

/-- Some calls of `next`, and all that is left after them. -/
def nextThenCollect (s : Service) (n : Nat) (p : Pages) : Run (List Json) := do
  let (_, p) ← nextTimes s n p
  p.collect s

/-- What the call for the page at which a listing stops yields. -/
def lastYield : Except Failure (List Json) → Yield
  | .error e => some (.error e)
  | .ok _ => none

/-- What the first calls yield: the pages, a failure if that ends them, and nothing from then on. -/
def yields (pages : List (List Json)) (stop : Except Failure (List Json)) (n : Nat) : List Yield :=
  (List.range n).map fun k => (pages.map (fun items => some (Except.ok items)) ++ [lastYield stop]).getD k none

/-- The reading has these full pages before it, and behind them an answer that is not full. -/
structure Before (s : Service) (p : Pages) (pages : List (List Json)) (stop : Except Failure (List Json)) : Prop where
  unfinished : p.done = false
  full : FullFrom (s.alertAnswers p.ref) p.nextPage pages
  answer : s.alertAnswers p.ref (p.nextPage + pages.length) = stop
  notFull : ¬ IsFull stop

/-! ## One call -/

section Step
variable {s : Service} {p : Pages} {items : List Json} {pages : List (List Json)} {stop : Except Failure (List Json)}

theorem next_of_done (s : Service) (h : p.done = true) : p.next s = pure (none, p) := by
  rw [next, h, if_pos rfl]

/-- A full page is yielded as it is. -/
theorem Before.next_full (h : Before s p (items :: pages) stop) :
    (p.next s).value = (some (.ok items), { p with nextPage := p.nextPage + 1 }) := by
  obtain ⟨hpage, hne, -⟩ := h.full
  obtain ⟨x, xs, rfl⟩ := List.exists_cons_of_ne_nil hne
  rw [value_next s p h.unfinished, hpage]

/-- Behind a full page come the others. -/
theorem Before.tail (h : Before s p (items :: pages) stop) :
    Before s { p with nextPage := p.nextPage + 1 } pages stop := by
  refine ⟨h.unfinished, h.full.2.2, ?_, h.notFull⟩
  rw [← h.answer, List.length_cons, Nat.add_assoc, Nat.add_comm 1]

/-- A failure is yielded, an empty page is not; both are the end. -/
theorem Before.next_stop (h : Before s p [] stop) :
    (p.next s).value = (lastYield stop, { p with nextPage := p.nextPage + 1, done := true }) := by
  have hstop : s.alertAnswers p.ref p.nextPage = stop := h.answer
  rw [value_next s p h.unfinished, hstop]
  rcases stop with e | (_ | ⟨x, xs⟩)
  · rfl
  · rfl
  · exact absurd ⟨_, rfl, List.cons_ne_nil x xs⟩ h.notFull

end Step

/-! ## Some calls -/

section Steps
variable (s : Service) {p : Pages} {pages : List (List Json)} {stop : Except Failure (List Json)}

theorem value_nextTimes_succ (n : Nat) (p : Pages) : (nextTimes s (n + 1) p).value =
    ((p.next s).value.1 :: (nextTimes s n (p.next s).value.2).value.1, (nextTimes s n (p.next s).value.2).value.2) := rfl

theorem calls_nextTimes_succ (n : Nat) (p : Pages) : calls (nextTimes s (n + 1) p).events =
    calls (p.next s).events ++ calls (nextTimes s n (p.next s).value.2).events := by
  rw [nextTimes, Traced.bind_events, calls_append, Traced.bind_events, calls_append]
  exact congrArg _ (List.append_nil _)

/-- From the end on, calls yield nothing, ask nothing and change nothing. -/
theorem nextTimes_of_done (n : Nat) (h : p.done = true) :
    (nextTimes s n p).value = (List.replicate n none, p) ∧ calls (nextTimes s n p).events = [] := by
  induction n with
  | zero => exact ⟨rfl, rfl⟩
  | succ n ih =>
    rw [value_nextTimes_succ, calls_nextTimes_succ, next_of_done s h]
    show (none :: (nextTimes s n p).value.1, (nextTimes s n p).value.2) = _ ∧ [] ++ calls (nextTimes s n p).events = _
    rw [ih.1, ih.2]
    exact ⟨rfl, rfl⟩

theorem yields_nil (stop : Except Failure (List Json)) (n : Nat) :
    yields [] stop (n + 1) = lastYield stop :: List.replicate n none := by
  rw [yields, List.range_succ_eq_map, List.map_cons, List.map_map]
  refine congrArg (lastYield stop :: ·) (List.eq_replicate_iff.2 ⟨by simp, fun y hy => ?_⟩)
  obtain ⟨k, -, rfl⟩ := List.mem_map.1 hy
  rfl

theorem yields_cons (items : List Json) (pages : List (List Json)) (stop : Except Failure (List Json)) (n : Nat) :
    yields (items :: pages) stop (n + 1) = some (.ok items) :: yields pages stop n := by
  rw [yields, List.range_succ_eq_map, List.map_cons, List.map_map]
  rfl

variable {s}

/-- What some calls yield. -/
theorem Before.value_nextTimes (h : Before s p pages stop) (n : Nat) :
    (nextTimes s n p).value.1 = yields pages stop n := by
  induction n generalizing p pages with
  | zero => rfl
  | succ n ih =>
    rw [value_nextTimes_succ]
    cases pages with
    | nil => rw [h.next_stop, (nextTimes_of_done s n rfl).1, yields_nil]
    | cons items pages => rw [h.next_full, ih h.tail, yields_cons]

/-- What some calls ask: one page after another, up to the one at which the listing stops. -/
theorem Before.calls_nextTimes (h : Before s p pages stop) (n : Nat) : calls (nextTimes s n p).events =
    (List.range' p.nextPage (min n (pages.length + 1))).map (.alerts p.ref) := by
  induction n generalizing p pages with
  | zero => rw [Nat.zero_min]; rfl
  | succ n ih =>
    rw [calls_nextTimes_succ, calls_next s p h.unfinished]
    cases pages with
    | nil =>
      rw [h.next_stop, (nextTimes_of_done s n rfl).2, List.length_nil, Nat.zero_add, Nat.min_eq_right (by omega)]
      rfl
    | cons items pages =>
      rw [h.next_full, ih h.tail, List.length_cons, Nat.succ_min_succ, List.range'_succ]
      rfl

/-- Where the reading stands after fewer calls than there are pages before the end. -/
theorem Before.nextTimes (h : Before s p pages stop) {n : Nat} (hn : n ≤ pages.length) :
    (Pages.nextTimes s n p).value.2 = { p with nextPage := p.nextPage + n } ∧
      Before s { p with nextPage := p.nextPage + n } (pages.drop n) stop := by
  induction n generalizing p pages with
  | zero => exact ⟨rfl, h⟩
  | succ n ih =>
    cases pages with
    | nil => exact absurd hn (Nat.not_succ_le_zero n)
    | cons items pages =>
      have hrest := ih h.tail (Nat.le_of_succ_le_succ hn)
      rw [Nat.add_assoc, Nat.add_comm 1] at hrest
      rw [value_nextTimes_succ, h.next_full]
      exact hrest

/-- The call for the page at which the listing stops ends the reading. -/
theorem Before.done_nextTimes (h : Before s p pages stop) {n : Nat} (hn : pages.length < n) :
    (Pages.nextTimes s n p).value.2 = { p with nextPage := p.nextPage + pages.length + 1, done := true } := by
  induction pages generalizing n p with
  | nil =>
    obtain ⟨n, rfl⟩ : ∃ m, n = m + 1 := ⟨n - 1, by omega⟩
    rw [value_nextTimes_succ, h.next_stop, (nextTimes_of_done s n rfl).1]
    rfl
  | cons items pages ih =>
    obtain ⟨n, rfl⟩ : ∃ m, n = m + 1 := ⟨n - 1, by omega⟩
    have hrest := ih h.tail (Nat.lt_of_succ_lt_succ hn)
    rw [value_nextTimes_succ, h.next_full, hrest, List.length_cons]
    exact congrArg (Pages.mk p.ref · true) (by show p.nextPage + 1 + _ + 1 = _; omega)

end Steps

/-! ## All that is left -/

section Collect
variable {s : Service} {p : Pages} {pages : List (List Json)} {stop : Except Failure (List Json)}

/-- The items of some pages, unless the answer behind them is a failure. -/
def collected (pages : List (List Json)) : Except Failure (List Json) → Except Failure (List Json)
  | .ok _ => .ok pages.flatten
  | .error e => .error e

theorem Before.result_collect (h : Before s p pages stop) (hlast : p.nextPage + pages.length ≤ lastPage) :
    result (p.collect s) = collected pages stop := by
  obtain ⟨budget, hb⟩ : ∃ budget, lastPage + 1 - p.nextPage = pages.length + (budget + 1) :=
    ⟨lastPage - p.nextPage - pages.length, by omega⟩
  rw [collect, result_drain s _ p h.unfinished, hb, readFrom_of_full h.full, readFrom, h.answer]
  rcases hstop : stop with e | (_ | ⟨x, xs⟩)
  · rfl
  · exact congrArg Except.ok (List.append_nil _)
  · exact absurd ⟨_, hstop, List.cons_ne_nil x xs⟩ h.notFull

theorem Before.calls_collect (h : Before s p pages stop) (hlast : p.nextPage + pages.length ≤ lastPage) :
    calls (trace (p.collect s)) = (List.range' p.nextPage (pages.length + 1)).map (.alerts p.ref) := by
  rw [collect, calls_drain s _ p h.unfinished]
  congr 1
  refine pagesFrom_eq_range' _ _ _ (by omega) (fun i hi => ?_) ?_
  · obtain ⟨hpage, hne⟩ := (fullFrom_iff _ _ _).1 h.full i hi
    exact ⟨_, hpage, hne⟩
  · rw [h.answer]
    exact h.notFull

/-- Nothing is left at the end, and nothing is asked for it. -/
theorem collect_of_done (s : Service) (hdone : p.done = true) (hlast : p.nextPage ≤ lastPage) :
    result (p.collect s) = .ok [] ∧ calls (trace (p.collect s)) = [] := by
  obtain ⟨budget, hb⟩ : ∃ budget, lastPage + 1 - p.nextPage = budget + 1 := ⟨lastPage - p.nextPage, by omega⟩
  rw [collect, hb, drain, next_of_done s hdone]
  exact ⟨rfl, rfl⟩

end Collect

/-! ## From the first page on -/

section Life
variable {s : Service} {ref : Option String}

/-- A reading that begins has all pages before it. -/
theorem before_start {last : Nat} (h : StopsAt (s.alertAnswers ref) last) : ∃ pages,
    pages.length + 1 = last ∧ Before s (.start ref) pages (s.alertAnswers ref last) := by
  have hpos := h.pos
  have hall : ∀ i < last - 1, IsFull (s.alertAnswers ref (1 + i)) := fun i hi => h.full (by omega) (by omega)
  obtain ⟨pages, hlength, hfull⟩ := exists_fullFrom hall
  have hlast : 1 + pages.length = last := by omega
  exact ⟨pages, by omega, rfl, hfull, congrArg (s.alertAnswers ref) hlast, h.stop⟩

theorem result_nextThenCollect (s : Service) (n : Nat) (p : Pages) :
    result (nextThenCollect s n p) = result ((nextTimes s n p).value.2.collect s) := by
  rw [nextThenCollect, result_bind, result_traced, ok_bind]

theorem calls_nextThenCollect (s : Service) (n : Nat) (p : Pages) : calls (trace (nextThenCollect s n p)) =
    calls (nextTimes s n p).events ++ calls (trace ((nextTimes s n p).value.2.collect s)) := by
  rw [nextThenCollect, trace_bind_traced, calls_append]

/-- **A reading asks for each page once, when it is wanted, and for none behind the end.** However often `next` is
called, it yields the pages before the stop, in order and as they are, then the failure that stops the listing, if it is
one, and then nothing. What is collected after some calls is the rest of the pages, or that failure, or nothing at the
end. -/
theorem reading_asks_each_page_once (s : Service) (ref : Option String) {last : Nat}
    (hstops : StopsAt (s.alertAnswers ref) last) (hlast : last < lastPage) :
    ∃ pages, FullFrom (s.alertAnswers ref) 1 pages ∧ pages.length + 1 = last ∧ ∀ n,
      (nextTimes s n (.start ref)).value.1 = yields pages (s.alertAnswers ref last) n ∧
      calls (nextTimes s n (.start ref)).events = (List.range' 1 (min n last)).map (.alerts ref) ∧
      result (nextThenCollect s n (.start ref)) =
        (if n < last then collected (pages.drop n) (s.alertAnswers ref last) else .ok []) ∧
      calls (trace (nextThenCollect s n (.start ref))) = (List.range' 1 last).map (.alerts ref) := by
  obtain ⟨pages, hlength, h⟩ := before_start hstops
  refine ⟨pages, h.full, hlength, fun n => ?_⟩
  have hcalls := h.calls_nextTimes n
  rw [hlength] at hcalls
  refine ⟨h.value_nextTimes n, hcalls, ?_⟩
  rw [result_nextThenCollect, calls_nextThenCollect, hcalls]
  by_cases hn : n < last
  · obtain ⟨hstate, hrest⟩ := h.nextTimes (show n ≤ pages.length by omega)
    have hin : (Pages.start ref).nextPage + n + (pages.drop n).length ≤ lastPage := by
      rw [List.length_drop]
      show 1 + n + (pages.length - n) ≤ lastPage
      omega
    rw [hstate, hrest.result_collect hin, hrest.calls_collect hin, if_pos hn, ← List.map_append,
      Nat.min_eq_left (by omega), List.length_drop]
    have hpages : n + (pages.length - n + 1) = last := by omega
    rw [← hpages]
    exact ⟨rfl, congrArg (List.map _) List.range'_append_1⟩
  · have hstate := h.done_nextTimes (show pages.length < n by omega)
    obtain ⟨hresult, hnone⟩ := collect_of_done s (p := (nextTimes s n (.start ref)).value.2) (by rw [hstate])
      (by rw [hstate]; show 1 + pages.length + 1 ≤ lastPage; omega)
    rw [hresult, hnone, if_neg hn, Nat.min_eq_right (by omega), List.append_nil]
    exact ⟨rfl, rfl⟩

/-- The alerts of any ref on two pages, behind which the service fails. -/
def failingThird : Service where
  alertPage _ page := pure (match page with
    | 1 => .ok [.nat 1, .nat 2]
    | 2 => .ok [.nat 3]
    | _ => .error (.notFound "gone"))
  pull _ := pure (.error (.notFound "gone"))
  commitPage _ _ := pure (.error (.notFound "gone"))

theorem stopsAt_failingThird (ref : Option String) : StopsAt (failingThird.alertAnswers ref) 3 where
  pos := by decide
  le := by decide
  full {page} hpos hlt := by
    obtain rfl | rfl : page = 1 ∨ page = 2 := by omega
    · exact ⟨_, rfl, List.cons_ne_nil _ _⟩
    · exact ⟨_, rfl, List.cons_ne_nil _ _⟩
  stop := by
    rintro ⟨items, hitems, -⟩
    cases hitems

/-- Four calls yield two pages, the failure and nothing; what is left after one call cannot be collected. -/
theorem reading_of_failingThird : StopsAt (failingThird.alertAnswers none) 3 ∧ 3 < lastPage ∧
    (nextTimes failingThird 4 (.start none)).value.1 =
      [some (.ok [.nat 1, .nat 2]), some (.ok [.nat 3]), some (.error (.notFound "gone")), none] ∧
    result (nextThenCollect failingThird 1 (.start none)) = .error (.notFound "gone") ∧
    calls (trace (nextThenCollect failingThird 1 (.start none))) = [.alerts none 1, .alerts none 2, .alerts none 3] := by
  have hlt : 3 < lastPage := by decide
  have hstops := stopsAt_failingThird none
  obtain ⟨pages, hfull, hlength, h⟩ := reading_asks_each_page_once failingThird none hstops hlt
  match pages, hlength, hfull with
  | [first, second], _, ⟨hfirst, _, hsecond, _, _⟩ =>
    cases hfirst
    cases hsecond
    exact ⟨hstops, hlt, (h 4).1, (h 1).2.2.1, (h 1).2.2.2⟩

end Life

end Pages

end ScanDelta.Remote

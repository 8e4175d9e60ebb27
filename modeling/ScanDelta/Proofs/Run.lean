import ScanDelta.Remote.Service

/-!
# What a run comes to and what it leaves

* `result r` : the value of the run `r`, or its failure; `trace r` : its events in order;
* `result_*`, `trace_*` : both of them through `pure`, `>>=` and `<$>`, and through the lifts of runs that
  only take notes;
* `calls`, `tokens` : the questions and the tokens among some events;
* `Leaves P t` : every event of `t` has the property `P` (`Leaves.bind`, `Leaves.ask`, ...).
-/

set_option autoImplicit false

namespace ScanDelta

/-! ## Outcomes that may be failures -/

section Outcome
variable {ε α β : Type}

@[simp] theorem ok_bind (a : α) (f : α → Except ε β) : (Except.ok a >>= f) = f a := rfl

@[simp] theorem error_bind (e : ε) (f : α → Except ε β) : (Except.error e >>= f) = .error e := rfl

@[simp] theorem map_ok (f : α → β) (a : α) : f <$> (Except.ok a : Except ε α) = .ok (f a) := rfl

@[simp] theorem map_error (f : α → β) (e : ε) : f <$> (Except.error e : Except ε α) = .error e := rfl

theorem bind_eq_ok_iff (x : Except ε α) (f : α → Except ε β) (b : β) :
    (x >>= f) = .ok b ↔ ∃ a, x = .ok a ∧ f a = .ok b := by
  cases x <;> simp

theorem bind_eq_error_iff (x : Except ε α) (f : α → Except ε β) (e : ε) :
    (x >>= f) = .error e ↔ x = .error e ∨ ∃ a, x = .ok a ∧ f a = .error e := by
  cases x <;> simp

theorem map_eq_ok_iff (f : α → β) (x : Except ε α) (b : β) : f <$> x = .ok b ↔ ∃ a, x = .ok a ∧ f a = b := by
  cases x <;> simp

theorem map_eq_error_iff (f : α → β) (x : Except ε α) (e : ε) : f <$> x = .error e ↔ x = .error e := by
  cases x <;> simp

end Outcome

section Run
variable {ε α β : Type}

/-- What a run comes to. -/
def result (r : ExceptT Failure (Traced ε) α) : Except Failure α := r.run.value

/-- What a run leaves. -/
def trace (r : ExceptT Failure (Traced ε) α) : List ε := r.run.events

/-! ## Results -/

@[simp] theorem result_pure (a : α) : result (pure a : ExceptT Failure (Traced ε) α) = .ok a := rfl

@[simp] theorem result_bind (r : ExceptT Failure (Traced ε) α) (f : α → ExceptT Failure (Traced ε) β) :
    result (r >>= f) = result r >>= fun a => result (f a) := by
  show ((r >>= f).run).value = r.run.value >>= _
  rw [ExceptT.run_bind, Traced.bind_value]
  cases r.run.value <;> rfl

@[simp] theorem result_map (f : α → β) (r : ExceptT Failure (Traced ε) α) :
    result (f <$> r) = f <$> result r := by
  show ((f <$> r).run).value = f <$> r.run.value
  rw [ExceptT.run_map, Traced.map_value]
  rfl

@[simp] theorem result_traced (t : Traced ε α) :
    result (liftM t : ExceptT Failure (Traced ε) α) = .ok t.value := rfl

/-! ## Traces -/

@[simp] theorem trace_pure (a : α) : trace (pure a : ExceptT Failure (Traced ε) α) = [] := rfl

/-- What comes after a failure leaves nothing. -/
theorem trace_bind (r : ExceptT Failure (Traced ε) α) (f : α → ExceptT Failure (Traced ε) β) :
    trace (r >>= f) = trace r ++ (match result r with | .ok a => trace (f a) | .error _ => []) := by
  show ((r >>= f).run).events = r.run.events ++ _
  rw [ExceptT.run_bind, Traced.bind_events]
  congr 1
  show _ = match r.run.value with | .ok a => trace (f a) | .error _ => []
  cases r.run.value <;> rfl

@[simp] theorem trace_map (f : α → β) (r : ExceptT Failure (Traced ε) α) : trace (f <$> r) = trace r := by
  show ((f <$> r).run).events = r.run.events
  rw [ExceptT.run_map, Traced.map_events]

@[simp] theorem trace_traced (t : Traced ε α) :
    trace (liftM t : ExceptT Failure (Traced ε) α) = t.events := List.append_nil _

theorem trace_bind_traced (t : Traced ε α) (f : α → ExceptT Failure (Traced ε) β) :
    trace ((liftM t : ExceptT Failure (Traced ε) α) >>= f) = t.events ++ trace (f t.value) := by
  rw [trace_bind, trace_traced, result_traced]

/-! ## Equal runs -/

theorem run_ext {r r' : ExceptT Failure (Traced ε) α} (hr : result r = result r') (ht : trace r = trace r') :
    r = r' := by
  show r.run = r'.run
  cases h : r.run with
  | mk events value =>
    cases h' : r'.run with
    | mk events' value' =>
      rw [result, result, h, h'] at hr
      rw [trace, trace, h, h'] at ht
      rw [show value = value' from hr, show events = events' from ht]

/-- What follows a run matters for the value that the run comes to alone. -/
theorem bind_congr_result {r : ExceptT Failure (Traced ε) α} {f g : α → ExceptT Failure (Traced ε) β}
    (h : ∀ a, result r = .ok a → f a = g a) : r >>= f = r >>= g := by
  apply run_ext
  · rw [result_bind, result_bind]
    cases hr : result r with
    | error e => rfl
    | ok a => rw [ok_bind, ok_bind, h a hr]
  · rw [trace_bind, trace_bind]
    cases hr : result r with
    | error e => rfl
    | ok a =>
      show trace r ++ trace (f a) = trace r ++ trace (g a)
      rw [h a hr]

end Run

namespace Remote

variable {α β : Type}

/-! ## Runs that only take notes -/

@[simp] theorem result_noted (t : Traced Note α) : result (liftM t : Run α) = .ok t.value := rfl

@[simp] theorem result_notedTry (t : ExceptT Failure (Traced Note) α) :
    result (liftM t : Run α) = result t := rfl

@[simp] theorem trace_noted (t : Traced Note α) : trace (liftM t : Run α) = t.events.map .note :=
  congrArg (List.map Event.note) (List.append_nil _)

theorem trace_bind_noted (t : Traced Note α) (f : α → Run β) :
    trace ((liftM t : Run α) >>= f) = t.events.map .note ++ trace (f t.value) := by
  rw [trace_bind, trace_noted, result_noted]

@[simp] theorem trace_notedTry (t : ExceptT Failure (Traced Note) α) :
    trace (liftM t : Run α) = (trace t).map .note := rfl

@[simp] theorem events_noted (t : Traced Note α) : (liftM t : Traced Event α).events = t.events.map .note := rfl

/-! ## Questions to the service -/

@[simp] theorem result_ask (c : Call) (answer : Traced Note (Except Failure α)) :
    result (ask c answer) = answer.value := rfl

@[simp] theorem value_attempt (r : Run α) : (attempt r).value = result r := rfl

@[simp] theorem events_attempt (r : Run α) : (attempt r).events = trace r := rfl

/-! ## Questions and tokens among events -/

def calls (es : List Event) : List Call := es.filterMap Event.call?

def tokens (es : List Event) : List String := es.filterMap Event.token?

variable (es es' : List Event) (ns : List Note)

@[simp] theorem calls_append : calls (es ++ es') = calls es ++ calls es' := List.filterMap_append

@[simp] theorem calls_notes : calls (ns.map .note) = [] := by
  induction ns with
  | nil => rfl
  | cons n ns ih => exact ih

@[simp] theorem tokens_append : tokens (es ++ es') = tokens es ++ tokens es' := List.filterMap_append

@[simp] theorem tokens_notes : tokens (ns.map .note) = [] := by
  induction ns with
  | nil => rfl
  | cons n ns ih => exact ih

/-! ## Properties of all events -/

/-- Every event has the property. -/
def Leaves (P : Event → Prop) (t : Traced Event α) : Prop := ∀ e ∈ t.events, P e

namespace Leaves

variable {P : Event → Prop}

theorem bind {t : Traced Event α} {f : α → Traced Event β} (ht : Leaves P t) (hf : Leaves P (f t.value)) :
    Leaves P (t >>= f) := by
  intro e he
  rw [Traced.bind_events] at he
  exact (List.mem_append.1 he).elim (ht e) (hf e)

variable (hn : ∀ n, P (.note n))

include hn in
theorem noted (t : Traced Note α) : Leaves P (liftM t : Traced Event α) := by
  intro e he
  rw [events_noted] at he
  obtain ⟨n, -, rfl⟩ := List.mem_map.1 he
  exact hn n

include hn in
theorem ask {c : Call} (hc : P (.call c)) (answer : Traced Note (Except Failure α)) :
    Leaves P (Remote.ask c answer).run := by
  refine Leaves.bind (t := Traced.tell (.call c)) ?_ (noted hn answer)
  intro e he
  rw [List.mem_singleton.1 he]
  exact hc

end Leaves

end Remote

end ScanDelta

import ScanDelta.Proofs.Remote.Steps
import ScanDelta.Remote.Client

/-!
# Where a token shows

Two runs that differ in their tokens are compared by what may be seen of them.

* `Request.unsigned`, `Note.unsigned`, `Event.unsigned` : requests, notes and events without the token;
* `Matches fair view t t'` : if the events that look alike are met with the same answers, both come to the same value
  and look alike (`Matches.bind`, `Matches.runBind`, `Matches.lift`);
* `matches_service` : the services of two clients for different tokens match;
* `matches_compare` : so do comparisons through matching services.
-/

set_option autoImplicit false

namespace ScanDelta

/-! ## What may be seen -/

/-- The request without the header that holds the token. -/
def Http.Request.unsigned (r : Http.Request) : Http.Request :=
  { r with headers := r.headers.filter fun h => h.1 ≠ "authorization" }

@[simp] theorem Http.Request.unsigned_url (r : Http.Request) : r.unsigned.url = r.url := rfl

@[simp] theorem Http.Request.unsigned_query (r : Http.Request) : r.unsigned.query = r.query := rfl

def Note.unsigned : Note → Note
  | .request r => .request r.unsigned
  | n => n

/-- The event without the token. -/
def Remote.Event.unsigned : Remote.Event → Remote.Event
  | .connect _ => .connect ""
  | .note n => .note n.unsigned
  | e => e

/-- The two transports answer the requests in the same way. -/
def Note.Fair (T T' : Http.Transport) (n n' : Note) : Prop :=
  ∀ r r', n = .request r → n' = .request r' → T' r' = T r

def Remote.Event.Fair (T T' : Http.Transport) (e e' : Remote.Event) : Prop :=
  ∀ n n', e = .note n → e' = .note n' → n.Fair T T' n'

/-! ## Matching runs -/

section Matches
variable {ε α β : Type}

/-- If the events that look alike are met with the same answers, both come to the same value and look alike. -/
def Matches (fair : ε → ε → Prop) (view : ε → ε) (t t' : Traced ε α) : Prop :=
  (∀ e ∈ t.events, ∀ e' ∈ t'.events, view e = view e' → fair e e') →
    t'.value = t.value ∧ t'.events.map view = t.events.map view

variable {fair : ε → ε → Prop} {view : ε → ε}

theorem Matches.refl (t : Traced ε α) : Matches fair view t t := fun _ => ⟨rfl, rfl⟩

theorem Matches.bind {t t' : Traced ε α} {f f' : α → Traced ε β} (ht : Matches fair view t t')
    (hf : ∀ a, Matches fair view (f a) (f' a)) : Matches fair view (t >>= f) (t' >>= f') := by
  intro hfair
  obtain ⟨hvalue, hevents⟩ := ht fun e he e' he' =>
    hfair e (List.mem_append_left _ he) e' (List.mem_append_left _ he')
  -- both go on with the same value, so that the answers to the rest are those of the whole
  have hrest : ∀ e ∈ (f t.value).events, ∀ e' ∈ (f' t.value).events, view e = view e' → fair e e' := by
    intro e he e' he'
    refine hfair e (List.mem_append_right _ he) e' (List.mem_append_right _ ?_)
    rwa [hvalue]
  obtain ⟨hvalue', hevents'⟩ := hf t.value hrest
  rw [Traced.bind_value, Traced.bind_value, Traced.bind_events, Traced.bind_events, List.map_append, List.map_append,
    hvalue, hevents, hvalue', hevents']
  exact ⟨rfl, rfl⟩

theorem Matches.runBind {r r' : ExceptT Failure (Traced ε) α} {f f' : α → ExceptT Failure (Traced ε) β}
    (hr : Matches fair view r.run r'.run) (hf : ∀ a, Matches fair view (f a).run (f' a).run) :
    Matches fair view (r >>= f).run (r' >>= f').run := by
  rw [ExceptT.run_bind, ExceptT.run_bind]
  refine hr.bind fun x => ?_
  cases x with
  | ok a => exact hf a
  | error e => exact .refl _

theorem Matches.runTraced {t t' : Traced ε α} (h : Matches fair view t t') :
    Matches fair view (liftM t : ExceptT Failure (Traced ε) α).run (liftM t' : ExceptT Failure (Traced ε) α).run :=
  h.bind fun _ => .refl _

end Matches

namespace Remote

variable {T T' : Http.Transport} {α : Type}

theorem Matches.lift {t t' : Traced Note α} (h : Matches (Note.Fair T T') Note.unsigned t t') :
    Matches (Event.Fair T T') Event.unsigned (t.lift .note) (t'.lift .note) := by
  intro hfair
  have hnotes : ∀ n ∈ t.events, ∀ n' ∈ t'.events, n.unsigned = n'.unsigned → n.Fair T T' n' := by
    intro n hn n' hn' heq
    exact hfair (.note n) (List.mem_map_of_mem hn) (.note n') (List.mem_map_of_mem hn') (congrArg Event.note heq) n n'
      rfl rfl
  obtain ⟨hvalue, hevents⟩ := h hnotes
  refine ⟨hvalue, ?_⟩
  have hmap : ∀ ns : List Note, (ns.map Event.note).map Event.unsigned = (ns.map Note.unsigned).map Event.note := by
    intro ns
    rw [List.map_map, List.map_map]
    rfl
  rw [Traced.lift_events, Traced.lift_events, hmap, hmap, hevents]

/-- Questions with matching answers. -/
theorem matches_ask (c : Call) {answer answer' : Traced Note (Except Failure α)}
    (h : Matches (Note.Fair T T') Note.unsigned answer answer') :
    Matches (Event.Fair T T') Event.unsigned (ask c answer).run (ask c answer').run := by
  show Matches _ _ (Traced.tell (Event.call c) >>= fun _ => answer.lift Event.note)
    (Traced.tell (Event.call c) >>= fun _ => answer'.lift Event.note)
  exact (Matches.refl _).bind fun _ => Matches.lift h

/-! ## Clients -/

namespace Client

/-- The clients differ in their tokens and transports at most. -/
structure Twins (T T' : Http.Transport) (c c' : Client) : Prop where
  transport : c.transport = T
  transport' : c'.transport = T'
  apiUrl : c'.apiUrl = c.apiUrl
  headers : c'.headers.filter (fun h => h.1 ≠ "authorization") = c.headers.filter fun h => h.1 ≠ "authorization"

variable {c c' : Client}

theorem twins_of_create {t t' apiUrl : String} (h : create T t apiUrl = .ok c) (h' : create T' t' apiUrl = .ok c') :
    Twins T T' c c' := by
  unfold create at h h'
  split at h
  · split at h'
    · cases h
      cases h'
      exact ⟨rfl, rfl, rfl, rfl⟩
    · cases h'
  · cases h

theorem Twins.request (h : Twins T T' c c') (path : String) (query : List (String × String)) :
    (c'.request path query).unsigned = (c.request path query).unsigned := by
  unfold Client.request Http.Request.unsigned
  rw [h.apiUrl, h.headers]

/-- Whether a request can be handed over does not depend on its token. -/
theorem check_congr {r r' : Http.Request} (h : r'.unsigned = r.unsigned) :
    (∃ e, Http.check r = .error e ∧ Http.check r' = .error e) ∨ (Http.check r = .ok r ∧ Http.check r' = .ok r') := by
  have hurl : r'.url = r.url := by rw [← r'.unsigned_url, h, r.unsigned_url]
  have hquery : r'.query = r.query := by rw [← r'.unsigned_query, h, r.unsigned_query]
  have haddress : r'.address = r.address := by
    unfold Http.Request.address
    rw [hurl, hquery]
  unfold Http.check
  rw [hurl, haddress]
  split
  · split
    · exact .inl ⟨_, rfl, rfl⟩
    · split
      · exact .inl ⟨_, rfl, rfl⟩
      · split
        · exact .inl ⟨_, rfl, rfl⟩
        · exact .inr ⟨rfl, rfl⟩
  · exact .inl ⟨_, rfl, rfl⟩
  · exact .inl ⟨_, rfl, rfl⟩

theorem run_sendRequest {r : Http.Request} (h : Http.check r = .ok r) :
    (c.sendRequest r).run = ⟨[.request r], (c.transport r).mapError .http⟩ := by
  rw [sendRequest, h]
  dsimp only
  cases hr : c.transport r <;> rfl

/-- A request and its twin are handed over or not, and answered alike. -/
theorem matches_sendRequest (h : Twins T T' c c') {r r' : Http.Request} (hr : r'.unsigned = r.unsigned) :
    Matches (Note.Fair T T') Note.unsigned (c.sendRequest r).run (c'.sendRequest r').run := by
  rcases check_congr hr with ⟨e, he, he'⟩ | ⟨hok, hok'⟩
  · rw [sendRequest, sendRequest, he, he']
    exact .refl _
  · -- here alone the transports answer
    rw [run_sendRequest hok, run_sendRequest hok', h.transport, h.transport']
    intro hfair
    have hview : (Note.request r').unsigned = (Note.request r).unsigned := congrArg Note.request hr
    have hanswer : T' r' = T r :=
      hfair _ List.mem_cons_self _ List.mem_cons_self hview.symm r r' rfl rfl
    rw [hanswer, List.map_singleton, List.map_singleton, hview]
    exact ⟨rfl, rfl⟩

theorem matches_getJson (h : Twins T T' c c') (path : String) (query : List (String × String)) :
    Matches (Note.Fair T T') Note.unsigned (c.getJson path query).run (c'.getJson path query).run := by
  have hr := h.request path query
  have hurl : (c'.request path query).url = (c.request path query).url := congrArg (·.url) hr
  unfold getJson
  dsimp only
  rw [hurl]
  refine Matches.runBind (.refl _) fun _ => ?_
  refine Matches.runBind (matches_sendRequest h hr) fun response => ?_
  exact .refl _

theorem matches_alertPage (h : Twins T T' c c') (repo : Repository) (ref : Option String) (page : Nat) :
    Matches (Note.Fair T T') Note.unsigned (c.alertPage repo ref page).run (c'.alertPage repo ref page).run :=
  Matches.runBind (matches_getJson h _ _) fun _ => .refl _

end Client

/-! ## Services -/

/-- All answers of the two services match. -/
structure ServicesMatch (T T' : Http.Transport) (s s' : Service) : Prop where
  alertPage (ref : Option String) (page : Nat) :
    Matches (Note.Fair T T') Note.unsigned (s.alertPage ref page) (s'.alertPage ref page)
  pull (number : Nat) : Matches (Note.Fair T T') Note.unsigned (s.pull number) (s'.pull number)
  commitPage (number page : Nat) :
    Matches (Note.Fair T T') Note.unsigned (s.commitPage number page) (s'.commitPage number page)

theorem matches_service {c c' : Client} (h : Client.Twins T T' c c') (repo : Repository) :
    ServicesMatch T T' (c.service repo) (c'.service repo) where
  alertPage ref page := Client.matches_alertPage h repo ref page
  pull _ := Client.matches_getJson h _ _
  commitPage _ _ := Client.matches_getJson h _ _

variable {s s' : Service} (h : ServicesMatch T T' s s')

include h

theorem matches_of_sameSteps {t t' : Traced Event α} (hsteps : SameSteps s s' t t') :
    Matches (Event.Fair T T') Event.unsigned t t' := by
  induction hsteps with
  | noted t => exact .refl _
  | alerts ref page => exact matches_ask _ (h.alertPage ref page)
  | pull number => exact matches_ask _ (h.pull number)
  | commits number page => exact matches_ask _ (h.commitPage number page)
  | bind _ _ ih ihf => exact ih.bind ihf

/-- Comparisons through matching services match. -/
theorem matches_compare (ref : String) :
    Matches (Event.Fair T T') Event.unsigned (compare s ref).run (compare s' ref).run :=
  matches_of_sameSteps h (sameSteps_compare s s' ref)

end Remote

end ScanDelta

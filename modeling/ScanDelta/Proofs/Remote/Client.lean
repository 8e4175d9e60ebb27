import ScanDelta.Proofs.Remote.Listing
import ScanDelta.Remote.Client

/-!
# Listings over HTTP

* `Client.jsonIn url response` : the JSON value in a response; `result_getJson` : it answers a request;
* `Client.HasPage c repo ref page items` : the answer for a page is a success with an array of these items;
* `Client.BadPage c repo ref page e` : all that can be wrong with the answer for a page, with the failure it makes;
* `alertAnswers_eq_ok_iff`, `alertAnswers_eq_error_iff` : a page is the one or the other;
* `Client.FullPages c repo ref pages` : the first pages are these, none of them empty;
* `listing_over_http` : a listing is complete, or it fails with what is wrong with its first bad page.
-/

set_option autoImplicit false

namespace ScanDelta.Remote

namespace Client

/-! ## Requests -/

/-- The JSON value in a response. -/
def jsonIn (url : String) (response : Http.Response) : Except Failure Json :=
  if !response.isSuccess then .error (.remote "GET" url response.status response.body)
  else if response.body.isEmpty then .ok .null
  else (Json.parse response.body).mapError fun e =>
    .unexpectedResponse ("invalid JSON from " ++ url ++ ": " ++ e.message)

theorem result_sendRequest (c : Client) (r : Http.Request) :
    result (c.sendRequest r) = (Http.send c.transport r).mapError .http := by
  rw [sendRequest, Http.send]
  cases Http.check r with
  | error e => rfl
  | ok r =>
    show result (_ >>= _) = (c.transport r).mapError .http
    rw [result_bind]
    cases c.transport r <;> rfl

theorem result_getJson (c : Client) (path : String) (query : List (String × String)) :
    result (c.getJson path query) =
      (Http.send c.transport (c.request path query)).mapError .http >>= jsonIn (c.request path query).url := by
  rw [getJson, result_bind, result_traced, ok_bind, result_bind, result_sendRequest]
  cases Http.send c.transport (c.request path query) with
  | error e => rfl
  | ok response =>
    show result _ = jsonIn (c.request path query).url response
    rw [jsonIn]
    cases response.isSuccess with
    | false => rfl
    | true =>
      show result (_ >>= _) = if response.body.isEmpty = true then _ else _
      rw [result_bind, result_traced, ok_bind]
      cases response.body.isEmpty with
      | true => rfl
      | false => cases Json.parse response.body <;> rfl

/-! ## Pages of alerts -/

/-- The path of the alerts of a repository. -/
def alertPath (repo : Repository) : String := "/repos/" ++ repo.text ++ "/code-scanning/alerts"

section
variable (c : Client) (repo : Repository) (ref : Option String) (page : Nat)

/-- The answer of the transport to the request for a page of a hundred open alerts. -/
def pageAnswer : Except Http.Error Http.Response :=
  Http.send c.transport
    { url := c.apiUrl ++ alertPath repo
      query := [("state", "open"), ("per_page", "100"), ("page", natText page)] ++
        (ref.elim [] fun r => [("ref", r)])
      headers := c.headers }

theorem pageAnswer_eq :
    c.pageAnswer repo ref page = Http.send c.transport (c.request (alertPath repo) (alertQuery ref page)) := by
  have hsize : natText pageSize = "100" := by decide
  rw [pageAnswer, request, alertQuery, pageQuery, hsize]

/-- The page is answered with success and an array of these items. -/
def HasPage (items : List Json) : Prop :=
  ∃ response, c.pageAnswer repo ref page = .ok response ∧ 200 ≤ response.status ∧ response.status < 300 ∧
    Json.parse response.body = .ok (.arr items)

/-- What is said of JSON that is no array. -/
def notAList : Failure := .unexpectedResponse "Unexpected response when listing alerts (expected list)."

/-- All that can be wrong with the answer for a page, with the failure that it makes. -/
inductive BadPage : Failure → Prop
  | unanswered {e : Http.Error} (h : c.pageAnswer repo ref page = .error e) : BadPage (.http e)
  | refused {response : Http.Response} (h : c.pageAnswer repo ref page = .ok response)
    (hstatus : response.status < 200 ∨ 300 ≤ response.status) :
    BadPage (.remote "GET" (c.apiUrl ++ alertPath repo) response.status response.body)
  | empty {response : Http.Response} (h : c.pageAnswer repo ref page = .ok response)
    (hlow : 200 ≤ response.status) (hhigh : response.status < 300) (hbody : response.body = "") : BadPage notAList
  | unreadable {response : Http.Response} {e : Json.ParseError} (h : c.pageAnswer repo ref page = .ok response)
    (hlow : 200 ≤ response.status) (hhigh : response.status < 300) (hbody : response.body ≠ "")
    (hparse : Json.parse response.body = .error e) :
    BadPage (.unexpectedResponse ("invalid JSON from " ++ (c.apiUrl ++ alertPath repo) ++ ": " ++ e.message))
  | noArray {response : Http.Response} {j : Json} (h : c.pageAnswer repo ref page = .ok response)
    (hlow : 200 ≤ response.status) (hhigh : response.status < 300)
    (hparse : Json.parse response.body = .ok j) (hj : ∀ items, j ≠ .arr items) : BadPage notAList

end

/-- The items of an array. -/
def itemsIn : Json → Except Failure (List Json)
  | .arr items => .ok items
  | _ => .error notAList

theorem alertAnswers_service (c : Client) (repo : Repository) (ref : Option String) (page : Nat) :
    (c.service repo).alertAnswers ref page =
      (c.pageAnswer repo ref page).mapError .http >>= jsonIn (c.apiUrl ++ alertPath repo) >>= itemsIn := by
  show result (c.alertPage repo ref page) = _
  rw [alertPage, result_bind, result_getJson, pageAnswer_eq]
  refine congrArg (_ >>= ·) (funext fun j => ?_)
  cases j <;> rfl

theorem jsonIn_of_success {url : String} {response : Http.Response} (hlow : 200 ≤ response.status)
    (hhigh : response.status < 300) : jsonIn url response =
      if response.body = "" then .ok .null
      else (Json.parse response.body).mapError fun e =>
        .unexpectedResponse ("invalid JSON from " ++ url ++ ": " ++ e.message) := by
  have hsuccess : response.isSuccess = true := by simp [Http.Response.isSuccess, hlow, hhigh]
  rw [jsonIn, hsuccess]
  simp only [String.isEmpty_iff]
  rfl

theorem jsonIn_of_refused {url : String} {response : Http.Response}
    (hstatus : response.status < 200 ∨ 300 ≤ response.status) :
    jsonIn url response = .error (.remote "GET" url response.status response.body) := by
  have hsuccess : response.isSuccess = false := by
    rw [Http.Response.isSuccess, Bool.and_eq_false_iff]
    simpa using hstatus
  rw [jsonIn, hsuccess]
  rfl

/-- An array has a text. -/
theorem body_ne_empty {body : String} {j : Json} (h : Json.parse body = .ok j) : body ≠ "" := by
  rintro rfl
  cases h

section
variable {c : Client} {repo : Repository} {ref : Option String} {page : Nat}

theorem alertAnswers_of_hasPage {items : List Json} (h : c.HasPage repo ref page items) :
    (c.service repo).alertAnswers ref page = .ok items := by
  obtain ⟨response, hanswer, hlow, hhigh, hparse⟩ := h
  rw [alertAnswers_service, hanswer]
  show jsonIn _ response >>= itemsIn = _
  rw [jsonIn_of_success hlow hhigh, if_neg (body_ne_empty hparse), hparse]
  rfl

theorem alertAnswers_of_badPage {e : Failure} (h : c.BadPage repo ref page e) :
    (c.service repo).alertAnswers ref page = .error e := by
  rw [alertAnswers_service]
  cases h with
  | unanswered hanswer =>
    rw [hanswer]
    rfl
  | refused hanswer hstatus =>
    rw [hanswer]
    show jsonIn _ _ >>= itemsIn = _
    rw [jsonIn_of_refused hstatus]
    rfl
  | empty hanswer hlow hhigh hbody =>
    rw [hanswer]
    show jsonIn _ _ >>= itemsIn = _
    rw [jsonIn_of_success hlow hhigh, if_pos hbody]
    rfl
  | unreadable hanswer hlow hhigh hbody hparse =>
    rw [hanswer]
    show jsonIn _ _ >>= itemsIn = _
    rw [jsonIn_of_success hlow hhigh, if_neg hbody, hparse]
    rfl
  | @noArray response j hanswer hlow hhigh hparse hj =>
    rw [hanswer]
    show jsonIn _ response >>= itemsIn = _
    rw [jsonIn_of_success hlow hhigh, if_neg (body_ne_empty hparse), hparse]
    show itemsIn j = _
    cases j with
    | arr items => exact absurd rfl (hj items)
    | _ => rfl

end

/-- Whatever the transport does, a page is there or it is bad. -/
theorem hasPage_or_badPage (c : Client) (repo : Repository) (ref : Option String) (page : Nat) :
    (∃ items, c.HasPage repo ref page items) ∨ ∃ e, c.BadPage repo ref page e := by
  cases hanswer : c.pageAnswer repo ref page with
  | error e => exact .inr ⟨_, .unanswered hanswer⟩
  | ok response =>
    by_cases hstatus : response.status < 200 ∨ 300 ≤ response.status
    · exact .inr ⟨_, .refused hanswer hstatus⟩
    · have hlow : 200 ≤ response.status := by omega
      have hhigh : response.status < 300 := by omega
      by_cases hbody : response.body = ""
      · exact .inr ⟨_, .empty hanswer hlow hhigh hbody⟩
      · cases hparse : Json.parse response.body with
        | error e => exact .inr ⟨_, .unreadable hanswer hlow hhigh hbody hparse⟩
        | ok j =>
          by_cases hj : ∃ items, j = .arr items
          · obtain ⟨items, rfl⟩ := hj
            exact .inl ⟨items, response, hanswer, hlow, hhigh, hparse⟩
          · exact .inr ⟨_, .noArray hanswer hlow hhigh hparse fun items h => hj ⟨items, h⟩⟩

section
variable (c : Client) (repo : Repository) (ref : Option String) (page : Nat)

theorem alertAnswers_eq_ok_iff (items : List Json) :
    (c.service repo).alertAnswers ref page = .ok items ↔ c.HasPage repo ref page items := by
  refine ⟨fun h => ?_, alertAnswers_of_hasPage⟩
  rcases c.hasPage_or_badPage repo ref page with ⟨items', hpage⟩ | ⟨e, hpage⟩
  · rw [alertAnswers_of_hasPage hpage] at h
    cases h
    exact hpage
  · rw [alertAnswers_of_badPage hpage] at h
    cases h

theorem alertAnswers_eq_error_iff (e : Failure) :
    (c.service repo).alertAnswers ref page = .error e ↔ c.BadPage repo ref page e := by
  refine ⟨fun h => ?_, alertAnswers_of_badPage⟩
  rcases c.hasPage_or_badPage repo ref page with ⟨items, hpage⟩ | ⟨e', hpage⟩
  · rw [alertAnswers_of_hasPage hpage] at h
    cases h
  · rw [alertAnswers_of_badPage hpage] at h
    cases h
    exact hpage

end

/-! ## Listings -/

section
variable (c : Client) (repo : Repository) (ref : Option String)

/-- The first pages are these, none of them empty. -/
def FullPages (pages : List (List Json)) : Prop :=
  ∀ (i : Nat) (h : i < pages.length), c.HasPage repo ref (i + 1) pages[i] ∧ pages[i] ≠ []

theorem fullFrom_service_iff (pages : List (List Json)) :
    FullFrom ((c.service repo).alertAnswers ref) 1 pages ↔ c.FullPages repo ref pages := by
  simp only [fullFrom_iff, FullPages, alertAnswers_eq_ok_iff, Nat.add_comm]

/-- **No listing is cut short.** What is read over HTTP are all pages up to the first empty one; a page that is not
answered with a success and an array is never the end of the listing but a failure that tells what is wrong. Only a
listing that fills all pages there are numbers for is given up. -/
theorem listing_over_http :
    (∀ items, result (listing (c.service repo) ref) = .ok items ↔
      ∃ pages, c.FullPages repo ref pages ∧ pages.length < Pages.lastPage ∧
        c.HasPage repo ref (pages.length + 1) [] ∧ items = pages.flatten) ∧
    (∀ e, result (listing (c.service repo) ref) = .error e ↔
      (∃ pages, c.FullPages repo ref pages ∧ pages.length < Pages.lastPage ∧
        c.BadPage repo ref (pages.length + 1) e) ∨
      (e = Pages.endless ∧ ∃ pages, c.FullPages repo ref pages ∧ pages.length = Pages.lastPage)) := by
  rw [result_listing]
  constructor
  · intro items
    rw [readAll_eq_ok_iff, EndsWith]
    simp only [fullFrom_service_iff, alertAnswers_eq_ok_iff]
  · intro e
    rw [readAll_eq_error_iff_failsWith_or_endless, FailsWith]
    simp only [fullFrom_service_iff, alertAnswers_eq_error_iff]

end

end Client

end ScanDelta.Remote

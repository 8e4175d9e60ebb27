import ScanDelta.Decimal.Layout
import ScanDelta.Remote.Repository
import ScanDelta.Remote.Service
import ScanDelta.Text.Quoted

/-!
# The service over HTTP

A `Client` asks the service through a transport. Only an answer with a success status and a JSON body (or
an empty one, which counts as null) is an answer; a page of alerts must be an array.
-/

set_option autoImplicit false

namespace ScanDelta.Remote

structure Client where
  transport : Http.Transport
  /-- The address of the service, without slashes at its end. -/
  apiUrl : String
  /-- What every request carries, the token among it. -/
  headers : List (String × String)

namespace Client

def defaultApiUrl : String := "https://api.github.com"

def apiVersion : String := "2022-11-28"

def userAgent : String := "alertdiff/0.2.0"

def pageSize : Nat := 100

/-- How much of a failed answer the log shows. -/
def bodyLimit : Nat := 200

/-- May the character stand in a header? -/
def isHeaderChar (c : Char) : Bool := c = '\t' || (0x20 ≤ c.toNat && c.toNat ≠ 0x7F)

def headersFor (token : String) : List (String × String) :=
  [("authorization", "Bearer " ++ token), ("accept", "application/vnd.github+json"),
    ("x-github-api-version", apiVersion), ("user-agent", userAgent)]

/-- A client for a token, which must fit into a header. -/
def create (transport : Http.Transport) (token apiUrl : String) : Except Failure Client :=
  if token.toList.all isHeaderChar then
    .ok { transport := transport
          apiUrl := String.ofList (apiUrl.toList.reverse.dropWhile (· = '/')).reverse
          headers := headersFor token }
  else .error (.config "GitHub token contains invalid characters")

/-! ## Requests -/

/-- The parameters of a request as the log shows them. -/
def queryText (query : List (String × String)) : String :=
  "[" ++ Text.join ", " (query.map fun (name, value) =>
    "(" ++ Text.quoted name ++ ", " ++ Text.quoted value ++ ")") ++ "]"

def request (c : Client) (path : String) (query : List (String × String)) : Http.Request :=
  ⟨c.apiUrl ++ path, query, c.headers⟩

/-- Sends a request that a transport can take. -/
def sendRequest (c : Client) (r : Http.Request) : ExceptT Failure (Traced Note) Http.Response := do
  match Http.check r with
  | .error e => throw (.http e)
  | .ok r =>
    Traced.tell (Note.request r)
    match c.transport r with
    | .error e => throw (.http e)
    | .ok response => return response

/-- The JSON value that answers a request. -/
def getJson (c : Client) (path : String) (query : List (String × String)) :
    ExceptT Failure (Traced Note) Json := do
  let r := c.request path query
  record ("GitHub API request: GET " ++ r.url ++ " " ++ queryText query)
  let response ← c.sendRequest r
  if !response.isSuccess then
    record ("GitHub API HTTP " ++ natText response.status ++ " for " ++ r.url ++ ": " ++
      String.ofList (response.body.toList.take bodyLimit))
    throw (.remote "GET" r.url response.status response.body)
  record ("GitHub API response: GET " ++ r.url ++ " (len=" ++ natText response.body.utf8ByteSize ++ ")")
  if response.body.isEmpty then return .null
  match Json.parse response.body with
  | .ok j => return j
  | .error e => throw (.unexpectedResponse ("invalid JSON from " ++ r.url ++ ": " ++ e.message))

/-! ## The three questions -/

def repositoryPath (repo : Repository) : String := "/repos/" ++ repo.text

def pageQuery (page : Nat) : List (String × String) :=
  [("per_page", natText pageSize), ("page", natText page)]

def alertQuery (ref : Option String) (page : Nat) : List (String × String) :=
  ("state", "open") :: pageQuery page ++ (ref.elim [] fun r => [("ref", r)])

/-- A page of open alerts. -/
def alertPage (c : Client) (repo : Repository) (ref : Option String) (page : Nat) :
    ExceptT Failure (Traced Note) (List Json) := do
  match ← c.getJson (repositoryPath repo ++ "/code-scanning/alerts") (alertQuery ref page) with
  | .arr items =>
    debug ("Page " ++ natText page ++ " for " ++ ref.getD "(default)" ++ ": " ++
      natText items.length ++ " alerts")
    return items
  | _ => throw (.unexpectedResponse "Unexpected response when listing alerts (expected list).")

def pullPath (repo : Repository) (number : Nat) : String :=
  repositoryPath repo ++ "/pulls/" ++ natText number

def service (c : Client) (repo : Repository) : Service where
  alertPage ref page := (c.alertPage repo ref page).run
  pull number := (c.getJson (pullPath repo number) []).run
  commitPage number page := (c.getJson (pullPath repo number ++ "/commits") (pageQuery page)).run

end Client

end ScanDelta.Remote

import ScanDelta.Http.Url.Parser

/-!
# Requests over HTTP

A `Transport` answers requests. `Http.send` hands over only requests to absolute addresses that name a host
and whose scheme is HTTP; `Http.Error` tells why a request has no answer, with its causes from the outer to the
inner one.
-/

set_option autoImplicit false

namespace ScanDelta.Http

structure Request where
  /-- The address without parameters. -/
  url : String
  query : List (String × String)
  headers : List (String × String)
  deriving DecidableEq, Repr

structure Response where
  status : Nat
  body : String
  deriving DecidableEq, Repr

def Response.isSuccess (r : Response) : Bool := 200 ≤ r.status && r.status < 300

inductive Error where
  /-- The text is no absolute address. -/
  | malformedAddress (cause : Url.ParseError)
  /-- The address names no host, or its scheme is not HTTP. -/
  | schemeNotAllowed (url : String)
  /-- An address that no request can carry. -/
  | unfitAddress (url : String)
  /-- No connection to the host of the address. -/
  | unreachable (url : String)
  deriving DecidableEq, Repr

def Error.message : Error → String
  | .malformedAddress _ => "builder error"
  | .schemeNotAllowed url | .unfitAddress url => "builder error for url (" ++ url ++ ")"
  | .unreachable url => "error sending request for url (" ++ url ++ ")"

def Error.causes : Error → List String
  | .malformedAddress cause => [cause.message]
  | .schemeNotAllowed _ => ["URL scheme is not allowed"]
  | .unfitAddress _ => ["Parsed Url is not a valid Uri"]
  | .unreachable _ =>
    ["client error (Connect)", "tcp connect error", "Network is unreachable (os error 101)"]

abbrev Transport := Request → Except Error Response

/-- The address that a request goes to, with its parameters. -/
def Request.address (r : Request) : Except Url.ParseError Url := do
  return (← Url.parse r.url).withoutCredentials.withQuery r.query

/-- A transport without a network. -/
def offline : Transport := fun r =>
  .error (.unreachable (match r.address with
    | .ok u => u.text
    | .error _ => r.url))

/-- The greatest length of an address that a request can carry, in bytes. -/
def addressLimit : Nat := 65534

/-- Can a request carry the address? Names of hosts may hold a few characters that it cannot carry. -/
def isFit (u : Url) : Bool :=
  u.text.utf8ByteSize ≤ addressLimit &&
    u.authority.all fun a => a.host.chars.all fun c => !"\"\x60\x7b\x7d".toList.contains c

/-- The request if it can be handed to a transport. -/
def check (r : Request) : Except Error Request :=
  match Url.parse r.url, r.address with
  | .ok plain, .ok u =>
    if !plain.hasHost then .error (.schemeNotAllowed plain.text)
    else if !u.isHttp then .error (.schemeNotAllowed u.text)
    else if !isFit u then .error (.unfitAddress u.text)
    else .ok r
  | .error e, _ | _, .error e => .error (.malformedAddress e)

def send (transport : Transport) (r : Request) : Except Error Response := do
  transport (← check r)

end ScanDelta.Http

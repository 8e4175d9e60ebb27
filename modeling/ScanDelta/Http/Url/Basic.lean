import ScanDelta.Http.Url.Host

/-!
# Addresses

A `Url` is an absolute address in normal form. `Url.text` writes it, `Url.withQuery` adds parameters to it in
the form encoding, and `Url.withoutCredentials` takes the name and the password of a user out of it.
-/

set_option autoImplicit false

namespace ScanDelta.Http

/-- What stands between the two slashes and the path. -/
structure Authority where
  username : List Char
  password : Option (List Char)
  host : Host
  /-- The port, if it is not the one that the scheme implies. -/
  port : Option Nat
  deriving DecidableEq, Repr

inductive Url.Path where
  /-- The names between the slashes, with a slash in front of each. -/
  | names (names : List (List Char))
  /-- A text without meaning here. -/
  | free (text : List Char)
  deriving DecidableEq, Repr

structure Url where
  /-- In lower case. -/
  scheme : String
  authority : Option Authority
  path : Url.Path
  query : Option (List Char)
  fragment : Option (List Char)
  deriving DecidableEq, Repr

/-- Does it hold the name or the password of a user, in characters that can be read? -/
def Authority.hasUser (a : Authority) : Bool :=
  (percentDecodeText? a.username).any fun name =>
    !name.isEmpty || a.password.any fun p => (percentDecodeText? p).isSome

/-! ## Writing -/

def Authority.credentials (a : Authority) : List Char :=
  let password := a.password.elim [] (':' :: ·)
  if a.username.isEmpty && a.password.isNone then [] else a.username ++ password ++ ['@']

def Authority.chars (a : Authority) : List Char :=
  a.credentials ++ a.host.chars ++ a.port.elim [] fun n => ':' :: natChars n

def Url.Path.chars : Url.Path → List Char
  | names ns => ns.flatMap ('/' :: ·)
  | free text => text

namespace Url

/-- The scheme, and what leads to the path. A path that begins with two slashes and has no authority in front
of it is kept apart by a point. -/
def lead (u : Url) : List Char :=
  match u.authority, u.path with
  | some a, _ => '/' :: '/' :: a.chars
  | none, .names ([] :: _ :: _) => ['/', '.']
  | none, _ => []

def chars (u : Url) : List Char :=
  u.scheme.toList ++ ':' :: u.lead ++ u.path.chars ++ u.query.elim [] ('?' :: ·) ++ u.fragment.elim [] ('#' :: ·)

def text (u : Url) : String := String.ofList u.chars

/-! ## Schemes -/

/-- The schemes whose addresses name a host, with the ports that they imply. -/
def hostSchemes : List (String × Nat) := [("http", 80), ("https", 443), ("ws", 80), ("wss", 443), ("ftp", 21)]

def impliedPort? (scheme : String) : Option Nat := (hostSchemes.find? fun s => s.1 = scheme).map (·.2)

/-- The scheme of files, whose addresses may name a host. -/
def fileScheme : String := "file"

/-- Is it a scheme that knows hosts? It takes a backslash for a slash. -/
def isHostScheme (scheme : String) : Bool := (impliedPort? scheme).isSome || scheme = fileScheme

def isHttp (u : Url) : Bool := u.scheme = "http" || u.scheme = "https"

def hasHost (u : Url) : Bool := u.authority.any fun a => !a.host.isEmpty

/-! ## Changes -/

/-- The parameters as a query, in order. -/
def formQuery (pairs : List (String × String)) : List Char :=
  Text.joinWith '&' (pairs.map fun (name, value) => formEncode name ++ '=' :: formEncode value)

/-- The address with further parameters; an empty query is left out. -/
def withQuery (u : Url) (pairs : List (String × String)) : Url :=
  let old := u.query.getD []
  if pairs.isEmpty then { u with query := if old.isEmpty then none else u.query }
  else if old.isEmpty then { u with query := some (formQuery pairs) }
  else { u with query := some (old ++ '&' :: formQuery pairs) }

/-- The address without the name and the password of a user. -/
def withoutCredentials (u : Url) : Url :=
  { u with authority := u.authority.map fun a =>
      if a.hasUser then { a with username := [], password := none } else a }

end Url

end ScanDelta.Http

import ScanDelta.Http.Url.Basic

/-!
# Reading addresses

`Url.parse` reads an absolute address and gives it in normal form: scheme and host in lower case, the port left
out if the scheme implies it, the names `.` and `..` of the path resolved, and characters that may not stand
in a part written behind percent signs. Control characters and spaces around the address do not count, nor do
tabs and line breaks inside it.
-/

set_option autoImplicit false

namespace ScanDelta.Http.Url

/-- The text before the first character of a kind, and the text from there on. -/
def cutAt (stops : List Char) (cs : List Char) : List Char × List Char := cs.span fun c => !stops.contains c

/-- The text without control characters and spaces at its ends, and without tabs and line breaks. -/
def cleaned (cs : List Char) : List Char :=
  let isBlank (c : Char) : Bool := c.toNat ≤ 0x20
  ((cs.dropWhile isBlank).reverse.dropWhile isBlank).reverse.filter fun c => !"\t\n\r".toList.contains c

/-- The scheme and what follows its colon. -/
def scheme? (cs : List Char) : Option (String × List Char) :=
  match cs.span fun c => c.isAlphanum || c = '+' || c = '-' || c = '.' with
  | (first :: more, ':' :: rest) =>
    if first.isAlpha then some (String.ofList ((first :: more).map Char.toLower), rest) else none
  | _ => none

/-! ## Paths -/

/-- A letter and a colon, or a bar that stands for one. -/
def isDrive : List Char → Bool
  | [a, b] => a.isAlpha && (b = ':' || b = '|')
  | _ => false

/-- The spellings of a name that stays where it is, in lower case. -/
def sameNames : List (List Char) := [".", "%2e"].map String.toList

/-- The spellings of a name that leads one up, in lower case. -/
def parentNames : List (List Char) := ["..", ".%2e", "%2e.", "%2e%2e"].map String.toList

/-- Does a name begin with a drive that ends with the name or with a backslash? -/
def beginsWithDrive (name : List Char) : Bool := isDrive (name.take 2) && !(name.drop 2).head?.any (· ≠ '\\')

/-- The names without the last one, where a drive stays. -/
def dropLastName : List (List Char) → List (List Char)
  | [] => []
  | name :: names => if beginsWithDrive name then name :: names else names

/-- A name as it is kept; the drive of a file is written with a colon. -/
def keptName (isFile : Bool) (name : List Char) : List Char :=
  if isFile && isDrive name then name.take 1 ++ [':'] else name

/-- Takes out the names that stay where they are, and those that lead one up together with the name before
them. `kept` are the names so far, the last one first. -/
def resolveNames (isFile : Bool) (kept : List (List Char)) : List (List Char) → List (List Char)
  | [] => kept.reverse
  | name :: rest =>
    let lower := name.map Char.toLower
    if sameNames.contains lower then resolveNames isFile (if rest.isEmpty then [] :: kept else kept) rest
    else if parentNames.contains lower then
      let kept := dropLastName kept
      resolveNames isFile (if rest.isEmpty then [] :: kept else kept) rest
    else resolveNames isFile (keptName isFile name :: kept) rest

/-- The path of a file has no empty names in front. -/
def withoutEmptyNames (names : List (List Char)) : List (List Char) :=
  match names.dropWhile List.isEmpty with
  | [] => [[]]
  | names => names

/-- The names of a path after its first slash. -/
def namesOf (scheme : String) (cs : List Char) : List (List Char) :=
  let isFile := scheme = fileScheme
  let cs := if isHostScheme scheme then cs.map fun c => if c = '\\' then '/' else c else cs
  let names := resolveNames isFile [] ((Text.splitOn '/' cs).map (percentEncode pathSpecials))
  if isFile then withoutEmptyNames names else names

def isSlash (scheme : String) (c : Char) : Bool := c = '/' || (isHostScheme scheme && c = '\\')

/-- The path behind an authority. It is never empty if the scheme knows hosts. -/
def pathAfterAuthority (scheme : String) : List Char → Path
  | [] => .names (if isHostScheme scheme then [[]] else [])
  | c :: cs => .names (namesOf scheme (if isSlash scheme c then cs else c :: cs))

/-! ## Authorities -/

/-- The text before the last `@` and the text after it. -/
def cutCredentials (cs : List Char) : Option (List Char) × List Char :=
  match cs.reverse.span (· ≠ '@') with
  | (after, _ :: before) => (some before.reverse, after.reverse)
  | (_, []) => (none, cs)

/-- A user's name and password; an empty password is none. -/
def credentialsOf (cs : List Char) : List Char × Option (List Char) :=
  let (name, password) := cs.span (· ≠ ':')
  let password := password.drop 1
  (percentEncode credentialSpecials name,
    if password.isEmpty then none else some (percentEncode credentialSpecials password))

/-- The text before the colon of a port, which does not stand between brackets, and the text from there on. -/
def cutPort (inBrackets : Bool) : List Char → List Char × List Char
  | [] => ([], [])
  | c :: cs =>
    if c = ':' && !inBrackets then ([], c :: cs)
    else
      let (host, port) := cutPort (c = '[' || (inBrackets && c ≠ ']')) cs
      (c :: host, port)

def greatestPort : Nat := 65535

/-- The port behind a colon, and what follows it. A port that the scheme implies counts as none. -/
def parsePort (scheme : String) : List Char → Except ParseError (Option Nat × List Char)
  | ':' :: cs =>
    let (ds, rest) := cs.span Char.isDigit
    let n := ds.foldl (fun n c => n * 10 + (c.toNat - '0'.toNat)) 0
    if greatestPort < n || !(rest.isEmpty || rest.head? = some '\\') then .error .invalidPort
    else .ok (if ds.isEmpty || impliedPort? scheme = some n then none else some n, rest)
  | cs => .ok (none, cs)

/-- An authority, and what of its text belongs to the path. `followed` tells whether more of the address
follows. -/
def parseAuthority (scheme : String) (followed : Bool) (cs : List Char) :
    Except ParseError (Authority × List Char) := do
  let (credentials, cs) := cutCredentials cs
  if credentials = some [] && cs.isEmpty && followed then throw .emptyHost
  let (username, password) := credentialsOf (credentials.getD [])
  let (host, port) := cutPort false cs
  let named := isHostScheme scheme
  if host.isEmpty && (named || !port.isEmpty || !username.isEmpty || password.isSome) then throw .emptyHost
  let host ← if named then Host.parse host else Host.parseFree host
  let (port, rest) ← parsePort scheme port
  return (⟨username, password, host, port⟩, rest)

/-! ## Addresses by kind of scheme -/

/-- An address whose scheme names hosts. -/
def parseHosted (scheme : String) (followed : Bool) (body : List Char) :
    Except ParseError (Option Authority × Path) := do
  let (authority, path) := cutAt ['/', '\\'] (body.dropWhile fun c => c = '/' || c = '\\')
  let (a, _) ← parseAuthority scheme (followed || !path.isEmpty) authority
  return (some a, pathAfterAuthority scheme path)

/-- The host of a file; this computer counts as none. -/
def parseFileHost (cs : List Char) : Except ParseError Host :=
  if cs.isEmpty then .ok (.free [])
  else do
    match ← Host.parse cs with
    | .domain name => return if name = "localhost".toList then .free [] else .domain name
    | host => return host

/-- Does a path hold a drive? -/
def hasDrive : Path → Bool
  | .names names => names.any isDrive
  | .free _ => false

/-- The address of a file. The host of a path with a drive does not count. -/
def parseFile (body : List Char) : Except ParseError (Option Authority × Path) := do
  let fileAt (host : Host) : Option Authority := some ⟨[], none, host, none⟩
  match body.map fun c => if c = '\\' then '/' else c with
  | '/' :: '/' :: rest =>
    let (host, path) := cutAt ['/'] rest
    if isDrive host then return (fileAt (.free []), pathAfterAuthority fileScheme rest)
    let host ← parseFileHost host
    let path := pathAfterAuthority fileScheme path
    return (fileAt (if hasDrive path then .free [] else host), path)
  | rest => return (fileAt (.free []), pathAfterAuthority fileScheme rest)

/-- An address of any other scheme. -/
def parseOther (scheme : String) (followed : Bool) :
    List Char → Except ParseError (Option Authority × Path)
  | '/' :: '/' :: rest => do
    let (authority, path) := cutAt ['/'] rest
    let (a, more) ← parseAuthority scheme (followed || !path.isEmpty) authority
    return (some a, pathAfterAuthority scheme (more ++ path))
  | '/' :: rest => return (none, .names (namesOf scheme rest))
  | rest => return (none, .free (percentEncode [] rest))

/-! ## Addresses -/

def parse (text : String) : Except ParseError Url := do
  match scheme? (cleaned text.toList) with
  | none => throw .noScheme
  | some (scheme, rest) =>
    let (rest, fragment) := cutAt ['#'] rest
    let (body, query) := cutAt ['?'] rest
    let followed := !query.isEmpty || !fragment.isEmpty
    let (authority, path) ←
      if (impliedPort? scheme).isSome then parseHosted scheme followed body
      else if scheme = fileScheme then parseFile body
      else parseOther scheme followed body
    let specials := if isHostScheme scheme then '\'' :: querySpecials else querySpecials
    return { scheme := scheme, authority := authority, path := path
             query := if query.isEmpty then none else some (percentEncode specials (query.drop 1))
             fragment :=
               if fragment.isEmpty then none else some (percentEncode fragmentSpecials (fragment.drop 1)) }

end ScanDelta.Http.Url

import ScanDelta.Text.Split

/-!
# Paths

A path is a text: names separated by slashes, absolute if it begins with one. Empty names, and `.` where it
is not the first name of a relative path, do not count.
-/

set_option autoImplicit false

namespace ScanDelta.Path

def isAbsolute (p : String) : Bool := p.toList.head? = some '/'

/-- The path of `p` seen from `base`. -/
def join (base p : String) : String :=
  if isAbsolute p then p
  else if base.isEmpty || base.toList.getLast? = some '/' then base ++ p
  else base ++ "/" ++ p

/-- The names of a path as written, without the empty one before a leading slash. -/
def segments (p : String) : List (List Char) :=
  match p.toList with
  | '/' :: cs => Text.splitOn '/' cs
  | cs => Text.splitOn '/' cs

/-- A name that stays where it is. -/
def isSilent (name : List Char) : Bool := name.isEmpty || name = ['.']

/-- Is it the path `-`? -/
def isStandardInput (p : String) : Bool :=
  match isAbsolute p, segments p with
  | false, first :: rest => first = ['-'] && rest.all isSilent
  | _, _ => false

/-- Removes from the end the names that do not count. -/
def dropSilent (absolute : Bool) : List (List Char) → List (List Char)
  | [] => []
  | s :: ss =>
    match dropSilent true ss with
    | [] => if s = [] || (s = ['.'] && absolute) then [] else [s]
    | rest => s :: rest

/-- The path without its last name; none for a root and for the empty path. -/
def parent? (p : String) : Option String :=
  let absolute := isAbsolute p
  match dropSilent absolute (segments p) with
  | [] => none
  | names =>
    let kept := dropSilent absolute names.dropLast
    let text := Text.joinWith '/' kept
    some (String.ofList (if absolute then '/' :: text else text))

/-- The path, then its parents one after another. -/
def ancestorsFrom : Nat → String → List String
  | 0, p => [p]
  | n + 1, p => p :: (match parent? p with
    | some q => ancestorsFrom n q
    | none => [])

/-- A path has fewer parents than characters. -/
def ancestors (p : String) : List String := ancestorsFrom p.length p

/-- What follows the last dot of a name; none for a name whose only dot is its first character. -/
def extension? (name : List Char) : Option (List Char) :=
  match (Text.splitOn '.' name).reverse with
  | [] => none
  | [_] => none
  | [_, []] => none
  | ext :: _ => if name = ['.', '.'] then none else some ext

end ScanDelta.Path

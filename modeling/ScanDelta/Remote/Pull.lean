import ScanDelta.Decimal.Unsigned
import ScanDelta.Json.Printer
import ScanDelta.Text.Quoted

/-!
# Pull requests

`RefKind.of` finds the number in a ref of a pull request; the decoders read the base of a pull request and
the commits on a page. An array may stand for an object, its items being the fields in order.
-/

set_option autoImplicit false

namespace ScanDelta.Remote

/-! ## Refs -/

inductive RefKind where
  /-- Not the ref of a pull request. -/
  | plain
  /-- It begins like the ref of a pull request, but no number follows. -/
  | malformed
  | pull (number : Nat)
  deriving DecidableEq, Repr

def pullStart : List Char := "refs/pull/".toList

/-- The ref of a pull request is `refs/pull/`, its number, and nothing or a slash and anything. -/
def RefKind.of (ref : String) : RefKind :=
  let cs := ref.toList
  if pullStart.isPrefixOf cs then
    match Unsigned.parseChars? ((cs.drop pullStart.length).takeWhile (· ≠ '/')) with
    | some n => .pull n
    | none => .malformed
  else .plain

/-! ## Decoding -/

/-- Why metadata does not have the expected form. -/
inductive DecodeError where
  | missingField (name : String)
  | invalidType (found : Json) (expected : String)
  /-- An array that stands for an object with so many fields has fewer items. -/
  | tooShort (length : Nat) (object : String) (fields : Nat)
  | tooLong (length : Nat)

/-- What kind of value it is, with the value of a scalar. -/
def kindText : Json → String
  | .null => "null"
  | .bool b => "boolean `" ++ (if b then "true" else "false") ++ "`"
  | .num (.int n) => "integer `" ++ (Number.int n).text ++ "`"
  | .num (.double x) => "floating point `" ++ (Number.double x).text ++ "`"
  | .str s => "string " ++ Text.quoted s
  | .arr _ => "sequence"
  | .obj _ => "map"

def DecodeError.message : DecodeError → String
  | .missingField name => "missing field `" ++ name ++ "`"
  | .invalidType found expected => "invalid type: " ++ kindText found ++ ", expected " ++ expected
  | .tooShort length object fields =>
    "invalid length " ++ natText length ++ ", expected struct " ++ object ++ " with " ++ natText fields ++
      (if fields = 1 then " element" else " elements")
  | .tooLong length => "invalid length " ++ natText length ++ ", expected fewer elements in array"

abbrev Decoder (α : Type) := Json → Except DecodeError α

def text : Decoder String
  | .str s => .ok s
  | j => .error (.invalidType j "a string")

def optional {α : Type} (decode : Decoder α) : Decoder (Option α)
  | .null => .ok none
  | j => (decode j).map some

/-- The two refs of a base. -/
structure Base where
  ref : Option String
  sha : Option String
  deriving DecidableEq, Repr

/-- A member that may be missing. -/
def optionalMember (name : String) (j : Json) : Except DecodeError (Option String) :=
  match j.get? name with
  | none => .ok none
  | some v => optional text v

def base : Decoder Base
  | .obj ms => do
    let ref ← optionalMember "ref" (.obj ms)
    let sha ← optionalMember "sha" (.obj ms)
    return ⟨ref, sha⟩
  | .arr [] => .error (.tooShort 0 "PullBase" 2)
  | .arr [ref] => do
    let _ ← optional text ref
    throw (.tooShort 1 "PullBase" 2)
  | .arr (ref :: sha :: more) => do
    let r ← optional text ref
    let s ← optional text sha
    if more.isEmpty then return ⟨r, s⟩ else throw (.tooLong (more.length + 2))
  | j => .error (.invalidType j "struct PullBase")

/-- An object with one field, or an array with one item. -/
def single {α : Type} (object field : String) (decode : Decoder α) : Decoder α
  | .obj ms =>
    match Json.get? field (.obj ms) with
    | none => .error (.missingField field)
    | some v => decode v
  | .arr [] => .error (.tooShort 0 object 1)
  | .arr (x :: more) => do
    let a ← decode x
    if more.isEmpty then return a else throw (.tooLong (more.length + 1))
  | j => .error (.invalidType j ("struct " ++ object))

/-- The base of a pull request. -/
def pullBase : Decoder Base := single "PullRequest" "base" base

/-- The hash of a commit. -/
def commit : Decoder String := single "PullCommit" "sha" text

/-- The hashes of the commits on a page, in order. -/
def commits : Decoder (List String)
  | .arr xs => xs.mapM commit
  | j => .error (.invalidType j "a sequence")

end ScanDelta.Remote

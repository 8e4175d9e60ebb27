import ScanDelta.Text.Quoted

/-!
# TOML values

The values of a configuration document, and the tree that is built while one is read. `Draft.insert`,
`Draft.openTable` and `Draft.openArrayTable` hold the rules on defining a table or key twice.
-/

set_option autoImplicit false

namespace ScanDelta

inductive Toml where
  | string (value : String)
  | integer (value : Int)
  | float (text : String)
  | boolean (value : Bool)
  | datetime (text : String)
  | array (items : List Toml)
  | table (entries : List (String × Toml))
  deriving Repr, BEq, Inhabited

namespace Toml

/-- Why a document is refused. -/
inductive ParseError where
  | endOfText
  | unexpected (c : Char)
  | controlCharacter
  | invalidEscape
  | invalidValue (text : String)
  | outOfRange (text : String)
  | duplicateKey (key : String)
  | tooDeep
  deriving DecidableEq, Repr

def ParseError.message : ParseError → String
  | .endOfText => "unexpected end of text"
  | .unexpected c => "unexpected character " ++ Text.quoted (String.singleton c)
  | .controlCharacter => "control character"
  | .invalidEscape => "invalid escape"
  | .invalidValue text => "invalid value " ++ text
  | .outOfRange text => "number out of range " ++ text
  | .duplicateKey key => "duplicate key " ++ Text.quoted key
  | .tooDeep => "nesting too deep"

/-! ## The tree of a document being read -/

/-- How a table came about. -/
inductive Origin where
  /-- By a header of its own. -/
  | header
  /-- By a header further down. -/
  | parent
  /-- By a dotted key. -/
  | dotted
  deriving DecidableEq, Repr

inductive Draft where
  | value (v : Toml)
  | table (origin : Origin) (entries : List (String × Draft))
  /-- An array of tables, the last one first. -/
  | tables (last : List (String × Draft)) (before : List (List (String × Draft)))
  deriving Inhabited

namespace Draft

abbrev Entries := List (String × Draft)

def find? (key : String) (es : Entries) : Option Draft := (es.find? fun e => e.1 = key).map (·.2)

/-- The entries with `d` under `key`, in place of an entry of that key. -/
def set (key : String) (d : Draft) : Entries → Entries
  | [] => [(key, d)]
  | e :: es => if e.1 = key then (key, d) :: es else e :: set key d es

/-- Changes the table at the end of a path, making the tables that are missing on the way. Of an array of
tables it is the last one; a dotted key does not lead through a table that has a header of its own. -/
def descend (dotted : Bool) (change : Origin → Entries → Except ParseError Entries) (origin : Origin) :
    List String → Entries → Except ParseError Entries
  | [], es => change origin es
  | key :: path, es =>
    match find? key es with
    | none => do
      let made := if dotted then .dotted else .parent
      return set key (.table made (← descend dotted change made path [])) es
    | some (.table o sub) =>
      if dotted && o = .header then .error (.duplicateKey key)
      else do return set key (.table o (← descend dotted change o path sub)) es
    | some (.tables last before) => do
      return set key (.tables (← descend dotted change .header path last) before) es
    | some (.value _) => .error (.duplicateKey key)

/-- Puts a value under a dotted key. A table on the way has to be one of dotted keys. -/
def insert (path : List String) (key : String) (v : Toml) (origin : Origin) (es : Entries) :
    Except ParseError Entries :=
  descend true (fun o es =>
    if (o = .dotted) = path.isEmpty then .error (.duplicateKey key)
    else if (find? key es).isSome then .error (.duplicateKey key)
    else .ok (es ++ [(key, .value v)])) origin path es

/-- Opens a table under a header. -/
def openTable (path : List String) (key : String) (root : Entries) : Except ParseError Entries :=
  descend false (fun _ es =>
    match find? key es with
    | none => .ok (set key (.table .header []) es)
    | some (.table .parent sub) => .ok (set key (.table .header sub) es)
    | some _ => .error (.duplicateKey key)) .header path root

/-- Opens one more table of an array of tables. -/
def openArrayTable (path : List String) (key : String) (root : Entries) : Except ParseError Entries :=
  descend false (fun _ es =>
    match find? key es with
    | none => .ok (set key (.tables [] []) es)
    | some (.tables last before) => .ok (set key (.tables [] (last :: before)) es)
    | some _ => .error (.duplicateKey key)) .header path root

mutual

/-- The finished value. -/
def finish : Draft → Toml
  | .value v => v
  | .table _ es => .table (finishEntries es)
  | .tables last before => .array (finishTables [.table (finishEntries last)] before)
termination_by structural d => d

/-- Puts the tables in front, the last of them first. -/
def finishTables (acc : List Toml) : List (List (String × Draft)) → List Toml
  | [] => acc
  | es :: more => finishTables (.table (finishEntries es) :: acc) more
termination_by structural ts => ts

def finishEntries : List (String × Draft) → List (String × Toml)
  | [] => []
  | e :: es => finishEntry e :: finishEntries es
termination_by structural es => es

def finishEntry : String × Draft → String × Toml
  | (key, d) => (key, finish d)
termination_by structural e => e

end

end Draft

end Toml

end ScanDelta

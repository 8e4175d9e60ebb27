import ScanDelta.Files.Path

/-!
# A file system as a value

A `Node` is a regular file, a directory or a symbolic link; a `Disk` is the root directory together with
the current directory. `Disk.resolve` finds what a path leads to, following links; the operations read and
change the tree, and fail with the cause an operating system would give.

A path is looked up for a `Purpose`, which decides about its last name: whether a link there is followed, and
whether a slash may stand behind it.
-/

set_option autoImplicit false

namespace ScanDelta

inductive Node where
  | file (bytes : ByteArray)
  | dir (entries : List (String × Node))
  | link (target : String)
  deriving Inhabited

/-- Why an operation on files failed. -/
inductive FileError where
  | noEntry
  | exists
  | notDirectory
  | isDirectory
  | nameTooLong
  | tooManyLinks
  | nulInPath
  | notText
  deriving DecidableEq, Repr

def FileError.message : FileError → String
  | .noEntry => "No such file or directory (os error 2)"
  | .exists => "File exists (os error 17)"
  | .notDirectory => "Not a directory (os error 20)"
  | .isDirectory => "Is a directory (os error 21)"
  | .nameTooLong => "File name too long (os error 36)"
  | .tooManyLinks => "Too many levels of symbolic links (os error 40)"
  | .nulInPath => "file name contained an unexpected NUL byte"
  | .notText => "stream did not contain valid UTF-8"

/-- Names from the root down, none of them `.`, `..` or a link. -/
abbrev Location := List String

namespace Node

def entries : Node → List (String × Node)
  | dir es => es
  | _ => []

def child? (n : Node) (name : String) : Option Node := (n.entries.find? fun e => e.1 = name).map (·.2)

def at? (n : Node) : Location → Option Node
  | [] => some n
  | name :: rest => (n.child? name).bind fun c => c.at? rest

/-- The entries with `new` under `name`, in place of an entry of that name. -/
def setEntry (name : String) (new : Node) : List (String × Node) → List (String × Node)
  | [] => [(name, new)]
  | e :: es => if e.1 = name then (name, new) :: es else e :: setEntry name new es

/-- The tree with `new` at a location whose directory exists; unchanged if it does not. -/
def set (n : Node) (new : Node) : Location → Node
  | [] => new
  | name :: rest =>
    match n, rest with
    | dir es, [] => dir (setEntry name new es)
    | dir es, _ :: _ =>
      match n.child? name with
      | some c => dir (setEntry name (c.set new rest) es)
      | none => n
    | _, _ => n

/-- The tree without what is at a location. -/
def remove (n : Node) : Location → Node
  | [] => n
  | [name] => match n with
    | dir es => dir (es.filter fun e => e.1 ≠ name)
    | _ => n
  | name :: rest =>
    match n, n.child? name with
    | dir es, some c => dir (setEntry name (c.remove rest) es)
    | _, _ => n

end Node

structure Disk where
  root : Node
  /-- The current directory. -/
  cwd : Location

namespace Disk

/-- The path of the current directory. -/
def cwdPath (d : Disk) : String := "/" ++ Text.join "/" d.cwd

/-! ## What a path leads to -/

/-- The end of a path: something that is there, or a free name in a directory that is there. -/
inductive Target where
  | present (loc : Location) (node : Node)
  | vacant (loc : Location)

/-- What a path is looked up for. -/
inductive Purpose where
  /-- What it leads to. -/
  | visit
  /-- The entry of its last name, even if that is a link. -/
  | entry
  /-- A file to write to, there or not. No slash may stand behind its name. -/
  | file
  deriving DecidableEq, Repr

/-- How many links one path may follow. -/
def linkLimit : Nat := 40

/-- The greatest length of a name, in bytes. -/
def nameLimit : Nat := 255

/-- The greatest length of a path, in bytes. -/
def pathLimit : Nat := 4095

/-- The names of a path; a slash at its end leaves an empty one. -/
def names (p : String) : List String := (Path.segments p).map String.ofList

/-- Does the path end in a slash, so that it can only lead to a directory? -/
def endsInSlash (p : String) : Bool := p.toList.getLast? = some '/'

/-- The way from the root to a node: the names with what they lead to, the last one first. -/
abbrev Trail := List (String × Node)

def Trail.location (t : Trail) : Location := (t.map (·.1)).reverse

/-- The node at the end of the way. -/
def Trail.node (root : Node) : Trail → Node
  | [] => root
  | (_, n) :: _ => n

/-- The way to a location from the end of another way. -/
def Trail.along? (root : Node) (t : Trail) : Location → Option Trail
  | [] => some t
  | name :: rest => ((t.node root).child? name).bind fun n => Trail.along? root ((name, n) :: t) rest

/-- Goes on from the end of a way. The budget bounds the links that are followed. -/
def walk (root : Node) (purpose : Purpose) (links : Nat) (here : Trail) :
    List String → Except FileError Target
  | [] => .ok (.present here.location (here.node root))
  | name :: rest =>
    match here.node root with
    | .dir _ =>
      let isLast := rest.all String.isEmpty
      if Path.isSilent name.toList then walk root purpose links here rest
      else if name = ".." then walk root purpose links (here.drop 1) rest
      else if purpose = .file && isLast && !rest.isEmpty then .error .isDirectory
      else if nameLimit < name.utf8ByteSize then .error .nameTooLong
      else
        match (here.node root).child? name with
        | none => if isLast then .ok (.vacant (here.location ++ [name])) else .error .noEntry
        | some (.link target) =>
          if isLast && purpose = .entry then .ok (.present (here.location ++ [name]) (.link target))
          else
            match links with
            | 0 => .error .tooManyLinks
            | links + 1 =>
              walk root purpose links (if Path.isAbsolute target then [] else here) (names target ++ rest)
        | some n => walk root purpose links ((name, n) :: here) rest
    | _ => .error .notDirectory
termination_by names => (links, names.length)

def containsNul (p : String) : Bool := p.toList.contains (Char.ofNat 0)

/-- What the path leads to from the current directory. -/
def resolveFor (d : Disk) (purpose : Purpose) (p : String) : Except FileError Target :=
  if containsNul p then .error .nulInPath
  else if pathLimit < p.utf8ByteSize then .error .nameTooLong
  else if p.isEmpty then .error .noEntry
  else
    match Trail.along? d.root [] (if Path.isAbsolute p then [] else d.cwd) with
    | some here => walk d.root purpose linkLimit here (names p)
    | none => .error .noEntry

def resolve (d : Disk) (p : String) : Except FileError Target := d.resolveFor .visit p

/-- What is there at the end of the path. -/
def node? (d : Disk) (p : String) : Option Node :=
  match d.resolve p with
  | .ok (.present _ n) => some n
  | _ => none

def exists? (d : Disk) (p : String) : Bool := (d.node? p).isSome

def isDir (d : Disk) (p : String) : Bool :=
  match d.node? p with
  | some (.dir _) => true
  | _ => false

/-! ## Reading -/

def read (d : Disk) (p : String) : Except FileError ByteArray :=
  match d.resolve p with
  | .ok (.present _ (.file bytes)) => .ok bytes
  | .ok (.present _ _) => .error .isDirectory
  | .ok (.vacant _) => .error .noEntry
  | .error e => .error e

def readText (d : Disk) (p : String) : Except FileError String := do
  let bytes ← d.read p
  match String.fromUTF8? bytes with
  | some s => .ok s
  | none => .error .notText

/-! ## Changing -/

/-- The disk with what `change` makes of the file's content; a file that is not there is created. -/
def update (d : Disk) (p : String) (change : ByteArray → ByteArray) : Except FileError Disk :=
  match d.resolveFor .file p with
  | .ok (.present loc (.file bytes)) => .ok { d with root := d.root.set (.file (change bytes)) loc }
  | .ok (.present _ _) => .error .isDirectory
  | .ok (.vacant loc) => .ok { d with root := d.root.set (.file (change .empty)) loc }
  | .error e => .error e

/-- Replaces the content of a file. -/
def write (d : Disk) (p : String) (text : String) : Except FileError Disk :=
  d.update p fun _ => text.toUTF8

/-- Adds to the end of a file. -/
def append (d : Disk) (p : String) (text : String) : Except FileError Disk :=
  d.update p fun bytes => bytes ++ text.toUTF8

/-- Makes one directory. -/
def makeDir (d : Disk) (p : String) : Except FileError Disk :=
  match d.resolveFor .entry p with
  | .ok (.present _ _) => .error .exists
  | .ok (.vacant loc) => .ok { d with root := d.root.set (.dir []) loc }
  | .error e => .error e

/-- Makes a directory given the outcome of making its parent, which is tried only if the directory could
not be made for lack of it. What was made stays even if the rest fails. -/
def makeDirAfter (d : Disk) (p : String) (parent : Unit → Disk × Except FileError Unit) :
    Disk × Except FileError Unit :=
  match d.makeDir p with
  | .ok d => (d, .ok ())
  | .error .noEntry =>
    match parent () with
    | (d, .error e) => (d, .error e)
    | (d, .ok ()) =>
      match d.makeDir p with
      | .ok d => (d, .ok ())
      | .error e => (d, if d.isDir p then .ok () else .error e)
  | .error e => (d, if d.isDir p then .ok () else .error e)

/-- Makes the first of these directories, each the child of the next. -/
def makeDirList (d : Disk) : List String → Disk × Except FileError Unit
  | [] => (d, .ok ())
  | p :: parents => if p.isEmpty then (d, .ok ()) else d.makeDirAfter p fun _ => d.makeDirList parents

/-- Makes a directory and the parents it lacks. -/
def makeDirs (d : Disk) (p : String) : Disk × Except FileError Unit := d.makeDirList (Path.ancestors p)

/-- Makes the directory a file is to stand in. -/
def makeParent (d : Disk) (p : String) : Disk × Except FileError Unit :=
  match Path.parent? p with
  | none => (d, .ok ())
  | some q => d.makeDirs q

/-- Replaces the content of a file, in a directory made if need be; one that was made stays even if the
file cannot be written. -/
def writeWithParent (d : Disk) (p : String) (text : String) : Disk × Except FileError Unit :=
  match d.makeParent p with
  | (d, .error e) => (d, .error e)
  | (d, .ok ()) =>
    match d.write p text with
    | .error e => (d, .error e)
    | .ok d => (d, .ok ())

/-- Removes a file or link, but none at a path that ends in a slash. -/
def removeFile (d : Disk) (p : String) : Except FileError Disk :=
  match d.resolveFor .entry p with
  | .ok (.present _ (.dir _)) => .error .isDirectory
  | .ok (.present loc _) =>
    if endsInSlash p then .error .notDirectory else .ok { d with root := d.root.remove loc }
  | .ok (.vacant _) => .error .noEntry
  | .error e => .error e

end Disk

end ScanDelta

import ScanDelta.Toml.Scalar

/-!
# Reading TOML

`Toml.parse` reads a document as a table. Arrays and inline tables may run over several lines and end in a
comma; they nest at most 80 deep. A dotted key has at most 80 names. A mark of the byte order in front of the
document is skipped.
-/

set_option autoImplicit false

namespace ScanDelta.Toml

/-- A reader takes a text from its start and gives what it read and the rest of the text. -/
abbrev Reader (α : Type) := List Char → Except ParseError (α × List Char)

def unexpectedAt {α : Type} : List Char → Except ParseError α
  | [] => .error .endOfText
  | c :: _ => .error (.unexpected c)

/-! ## Blanks, comments and line ends -/

def isSpace (c : Char) : Bool := c = ' ' || c = '\t'

def skipSpace (cs : List Char) : List Char := cs.dropWhile isSpace

/-- A control character other than the tab. -/
def isControl (c : Char) : Bool := (c.toNat < 0x20 && c ≠ '\t') || c.toNat = 0x7F

/-- The rest after a line break, which is a line feed, or a carriage return before one. -/
def lineBreak? : List Char → Option (List Char)
  | '\n' :: cs => some cs
  | '\r' :: '\n' :: cs => some cs
  | _ => none

/-- Skips a comment, up to the line break. -/
def skipComment : List Char → Except ParseError (List Char)
  | [] => .ok []
  | c :: cs =>
    if (lineBreak? (c :: cs)).isSome then .ok (c :: cs)
    else if isControl c then .error .controlCharacter
    else skipComment cs

/-- Skips blanks, and a comment after them. -/
def skipLineEnd (cs : List Char) : Except ParseError (List Char) :=
  match skipSpace cs with
  | '#' :: cs => skipComment cs
  | cs => .ok cs

/-- Skips blanks, comments and line breaks. The budget bounds the lines. -/
def skipLines : Nat → List Char → Except ParseError (List Char)
  | 0, cs => .ok cs
  | n + 1, cs => do
    let cs ← skipLineEnd cs
    match lineBreak? cs with
    | some cs => skipLines n cs
    | none => return cs

/-- The end of a line, or of the document. -/
def lineEnd (cs : List Char) : Except ParseError (List Char) := do
  match ← skipLineEnd cs with
  | [] => return []
  | cs =>
    match lineBreak? cs with
    | some cs => return cs
    | none => unexpectedAt cs

/-! ## Strings -/

def hexNumber? (cs : List Char) : Option Nat :=
  if cs.all Scalar.isHexDigit then some (Scalar.valueIn 16 cs) else none

/-- A character by its number in so many hexadecimal digits. -/
def numbered (width : Nat) : Reader Char := fun cs =>
  let ds := cs.take width
  match hexNumber? ds with
  | some n =>
    if ds.length = width ∧ (n < 0xD800 ∨ 0xDFFF < n) ∧ n < 0x110000 then
      .ok (Char.ofNat n, cs.drop width)
    else .error .invalidEscape
  | none => .error .invalidEscape

/-- What follows a backslash. -/
def escapeSequence : Reader Char
  | '"' :: cs => .ok ('"', cs)
  | '\\' :: cs => .ok ('\\', cs)
  | 'b' :: cs => .ok (Char.ofNat 0x08, cs)
  | 'e' :: cs => .ok (Char.ofNat 0x1B, cs)
  | 'f' :: cs => .ok (Char.ofNat 0x0C, cs)
  | 'n' :: cs => .ok ('\n', cs)
  | 'r' :: cs => .ok ('\r', cs)
  | 't' :: cs => .ok ('\t', cs)
  | 'x' :: cs => numbered 2 cs
  | 'u' :: cs => numbered 4 cs
  | 'U' :: cs => numbered 8 cs
  | [] => .error .endOfText
  | _ => .error .invalidEscape

/-- Is it a string on several lines? Its end then needs three quotes. -/
structure Quotes where
  mark : Char
  multiline : Bool
  deriving DecidableEq

/-- The quotes at the end of a string on several lines: three, before which up to two may stand as its
last characters. -/
def closing (q : Quotes) (cs : List Char) : Option (List Char × List Char) :=
  let run := (cs.takeWhile (· = q.mark)).length
  if q.multiline then
    if run < 3 then none
    else
      let extra := min (run - 3) 2
      some (List.replicate extra q.mark, cs.drop (3 + extra))
  else if run = 0 then none else some ([], cs.drop 1)

/-- Skips the blanks and line breaks after a backslash at the end of a line; none if the line goes on. -/
def continuation? (cs : List Char) : Option (List Char) :=
  if (lineBreak? (skipSpace cs)).isSome then
    some (cs.dropWhile fun c => isSpace c || c = '\n' || c = '\r')
  else none

/-- The characters of a string up to its closing quotes, put in front of `acc` in reverse. -/
def stringBody (q : Quotes) : Nat → List Char → Reader String
  | 0, _, _ => .error .endOfText
  | _ + 1, _, [] => .error .endOfText
  | n + 1, acc, c :: cs =>
    match closing q (c :: cs) with
    | some (last, rest) => .ok (String.ofList (acc.reverse ++ last), rest)
    | none =>
      if c = '\\' && q.mark = '"' then
        match if q.multiline then continuation? cs else none with
        | some rest => stringBody q n acc rest
        | none =>
          match escapeSequence cs with
          | .ok (e, rest) => stringBody q n (e :: acc) rest
          | .error e => .error e
      else if q.multiline then
        match c, cs with
        | '\r', '\n' :: rest => stringBody q n ('\n' :: '\r' :: acc) rest
        | '\n', rest => stringBody q n ('\n' :: acc) rest
        | c, rest => if isControl c then .error .controlCharacter else stringBody q n (c :: acc) rest
      else if isControl c then .error .controlCharacter
      else stringBody q n (c :: acc) cs

/-- A string that starts with this quote; a line break right after three quotes does not count. -/
def quotedString (multilineAllowed : Bool) (mark : Char) (budget : Nat) : Reader String := fun cs =>
  match cs with
  | a :: b :: rest =>
    if multilineAllowed && a = mark && b = mark then
      stringBody ⟨mark, true⟩ budget [] ((lineBreak? rest).getD rest)
    else stringBody ⟨mark, false⟩ budget [] cs
  | cs => stringBody ⟨mark, false⟩ budget [] cs

/-! ## Keys -/

def isBareChar (c : Char) : Bool := c.isAlphanum || c = '-' || c = '_'

def simpleKey (budget : Nat) : Reader String
  | '"' :: cs => quotedString false '"' budget cs
  | '\'' :: cs => quotedString false '\'' budget cs
  | cs =>
    match cs.span isBareChar with
    | ([], rest) => unexpectedAt rest
    | (name, rest) => .ok (String.ofList name, rest)

/-- How deep arrays and inline tables may nest, and how many names a dotted key may have. -/
def greatestDepth : Nat := 80

/-- The names before the last one, and the last one, of at most so many. -/
def dottedKeyWith (budget : Nat) : Nat → List String → Reader (List String × String)
  | 0, _, _ => .error .tooDeep
  | n + 1, acc, cs => do
    let (key, cs) ← simpleKey budget cs
    match skipSpace cs with
    | '.' :: cs => dottedKeyWith budget n (key :: acc) (skipSpace cs)
    | cs => return ((acc.reverse, key), cs)

def dottedKey (budget : Nat) : Reader (List String × String) := dottedKeyWith budget greatestDepth []

/-! ## Values -/

/-- The items of an array after its opening bracket. -/
def arrayItems (item : Reader Toml) (budget : Nat) : Nat → List Toml → Reader (List Toml)
  | 0, _, _ => .error .endOfText
  | n + 1, acc, cs => do
    match ← skipLines budget cs with
    | ']' :: cs => return (acc.reverse, cs)
    | cs =>
      let (x, cs) ← item cs
      match ← skipLines budget cs with
      | ',' :: cs => arrayItems item budget n (x :: acc) cs
      | ']' :: cs => return ((x :: acc).reverse, cs)
      | cs => unexpectedAt cs

/-- A key, an equals sign and a value. What `gap` skips may stand on either side of the sign. -/
def keyValue (gap : List Char → Except ParseError (List Char)) (item : Reader Toml) (budget : Nat) :
    Reader ((List String × String) × Toml) := fun cs => do
  let (key, cs) ← dottedKey budget cs
  match ← gap cs with
  | '=' :: cs =>
    let (v, cs) ← item (← gap cs)
    return ((key, v), cs)
  | cs => unexpectedAt cs

/-- The entries of an inline table after its opening brace. -/
def inlineEntries (item : Reader Toml) (budget : Nat) : Nat → Draft.Entries → Reader Draft.Entries
  | 0, _, _ => .error .endOfText
  | n + 1, es, cs => do
    match ← skipLines budget cs with
    | '\x7d' :: cs => return (es, cs)
    | cs =>
      let (((path, key), v), cs) ← keyValue (skipLines budget) item budget cs
      let es ← Draft.insert path key v .header es
      match ← skipLines budget cs with
      | ',' :: cs => inlineEntries item budget n es cs
      | '\x7d' :: cs => return (es, cs)
      | cs => unexpectedAt cs

/-- A value that starts here; `inner` reads the values inside it. -/
def valueWith (inner : Option (Reader Toml)) (budget : Nat) : Reader Toml
  | '"' :: cs => do
    let (s, cs) ← quotedString true '"' budget cs
    return (.string s, cs)
  | '\'' :: cs => do
    let (s, cs) ← quotedString true '\'' budget cs
    return (.string s, cs)
  | '[' :: cs =>
    match inner with
    | none => .error .tooDeep
    | some item => do
      let (xs, cs) ← arrayItems item budget budget [] cs
      return (.array xs, cs)
  | '\x7b' :: cs =>
    match inner with
    | none => .error .tooDeep
    | some item => do
      let (es, cs) ← inlineEntries item budget budget [] cs
      return (.table (Draft.finishEntries es), cs)
  | cs =>
    match Scalar.span cs with
    | ([], rest) => unexpectedAt rest
    | (word, rest) => do
      let v ← Scalar.read word
      return (v, rest)

/-- A value in which arrays and inline tables nest at most `depth` deep. -/
def value (budget : Nat) : Nat → Reader Toml
  | 0 => valueWith none budget
  | depth + 1 => valueWith (some (value budget depth)) budget

/-! ## Documents -/

/-- The tree so far and the header the next keys belong to. -/
structure State where
  root : Draft.Entries
  header : List String

/-- A header, or a key with its value. -/
def statement (budget : Nat) (s : State) : List Char → Except ParseError (State × List Char)
  | '[' :: '[' :: cs => do
    let ((path, key), cs) ← dottedKey budget (skipSpace cs)
    match cs with
    | ']' :: ']' :: cs => return (⟨← Draft.openArrayTable path key s.root, path ++ [key]⟩, cs)
    | cs => unexpectedAt cs
  | '[' :: cs => do
    let ((path, key), cs) ← dottedKey budget (skipSpace cs)
    match cs with
    | ']' :: cs => return (⟨← Draft.openTable path key s.root, path ++ [key]⟩, cs)
    | cs => unexpectedAt cs
  | cs => do
    let (((path, key), v), cs) ← keyValue (fun cs => .ok (skipSpace cs)) (value budget greatestDepth) budget cs
    let root ← Draft.descend false (Draft.insert path key v) .header s.header s.root
    return (⟨root, s.header⟩, cs)

/-- The statements of a document, one a line. The budget bounds the lines. -/
def statements (budget : Nat) : Nat → State → List Char → Except ParseError Draft.Entries
  | 0, s, _ => .ok s.root
  | n + 1, s, cs => do
    match ← skipLines budget cs with
    | [] => return s.root
    | cs =>
      let (s, cs) ← statement budget s (skipSpace cs)
      let cs ← lineEnd cs
      statements budget n s cs

/-- The mark of the byte order. -/
def byteOrderMark : Char := Char.ofNat 0xFEFF

def parse (text : String) : Except ParseError Toml := do
  let cs := match text.toList with
    | c :: cs => if c = byteOrderMark then cs else c :: cs
    | [] => []
  let es ← statements (cs.length + 1) (cs.length + 1) ⟨[], []⟩ cs
  return .table (Draft.finishEntries es)

end ScanDelta.Toml

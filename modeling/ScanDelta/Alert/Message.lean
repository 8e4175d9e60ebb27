import ScanDelta.Text.Blank

/-!
# Messages on one line

Blanks of every kind become single spaces, and a text of more than 220 characters is cut to 217 and three
dots.
-/

set_option autoImplicit false

namespace ScanDelta.Message

/-- What stands for a message without words. -/
def placeholder : String := "(no message provided)"

def limit : Nat := 220

def ellipsis : List Char := ['.', '.', '.']

/-- The words of a text, a space between any two. -/
def flatten (cs : List Char) : List Char := List.intercalate [' '] (Text.words cs)

/-- Keeps a text within the limit. -/
def cut (cs : List Char) : List Char :=
  if limit < cs.length then cs.take (limit - ellipsis.length) ++ ellipsis else cs

/-- The message on one line and within the limit. -/
def sanitize (raw : Option String) : String :=
  let cs := flatten ((raw.getD "").toList)
  if cs.isEmpty then placeholder else String.ofList (cut cs)

end ScanDelta.Message

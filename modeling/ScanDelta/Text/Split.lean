/-!
# Cutting a text at a character

`splitOn sep` cuts at every `sep`; `joinWith sep` puts the pieces together again.
-/

set_option autoImplicit false

namespace ScanDelta.Text

/-- The pieces between the occurrences of `sep`, one more than there are occurrences. -/
def splitOn (sep : Char) : List Char → List (List Char)
  | [] => [[]]
  | c :: cs =>
    if c = sep then [] :: splitOn sep cs
    else
      match splitOn sep cs with
      | [] => [[c]]
      | p :: ps => (c :: p) :: ps

def joinWith (sep : Char) (ps : List (List Char)) : List Char := List.intercalate [sep] ps

/-- The text before and after the first `sep`. -/
def splitFirst (sep : Char) : List Char → Option (List Char × List Char)
  | [] => none
  | c :: cs => if c = sep then some ([], cs) else (splitFirst sep cs).map fun (a, b) => (c :: a, b)

/-- Several texts with a separator between any two. -/
def join (sep : String) (texts : List String) : String := String.intercalate sep texts

end ScanDelta.Text

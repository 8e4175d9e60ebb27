import ScanDelta.Text.Split

/-!
# Repository names

A repository is named by its owner and its own name; in the combined text the first slash parts the two.
-/

set_option autoImplicit false

namespace ScanDelta

structure Repository where
  owner : String
  name : String
  deriving DecidableEq, Repr

namespace Repository

def text (r : Repository) : String := r.owner ++ "/" ++ r.name

/-- Reads a combined name; neither part may be empty. -/
def parse? (s : String) : Option Repository :=
  match Text.splitFirst '/' s.toList with
  | some (owner, name) =>
    if owner.isEmpty || name.isEmpty then none else some ⟨String.ofList owner, String.ofList name⟩
  | none => none

end Repository

end ScanDelta

import ScanDelta.Json.Basic

/-!
# Texts at the end of a path

* `Json.under? path j` : the value that a path of names leads to; `textUnder? path j` : its usable text;
* `textUnder?_cons` : a path leads through `getOrNull`, so that a null on the way is as good as nothing;
* `AgreeAt paths j j'` : the texts at the ends of these paths are the same in two values.
-/

set_option autoImplicit false

namespace ScanDelta.Json

/-- The value that a path of names leads to. -/
def under? : List String → Json → Option Json
  | [], j => some j
  | name :: path, j => (j.get? name).bind (under? path)

/-- The usable text that a path of names leads to. -/
def textUnder? (path : List String) (j : Json) : Option String := (j.under? path).bind text?

@[simp] theorem textUnder?_null (path : List String) : textUnder? path .null = none := by
  cases path <;> rfl

theorem textUnder?_singleton (name : String) (j : Json) : textUnder? [name] j = j.textAt? name := by
  rw [textUnder?, textAt?, under?]
  cases j.get? name <;> rfl

theorem textUnder?_cons (name : String) (path : List String) (j : Json) :
    textUnder? (name :: path) j = textUnder? path (j.getOrNull name) := by
  rw [textUnder?, under?, getOrNull]
  cases j.get? name with
  | none => exact (textUnder?_null path).symm
  | some v => rfl

/-! ## Members -/

theorem getD_member? (name : String) (j : Json) : (j.member? name).getD .null = j.getOrNull name := by
  rw [member?, getOrNull]
  cases j.get? name with
  | none => rfl
  | some v => cases v <;> rfl

/-- What finds nothing in null can as well be asked of a member that is missing. -/
theorem bind_member? {α : Type} (f : Json → Option α) (hf : f .null = none) (name : String) (j : Json) :
    (j.member? name).bind f = f (j.getOrNull name) := by
  rw [← getD_member?]
  cases j.member? name with
  | none => exact hf.symm
  | some v => rfl

theorem findSome?_pair {α β : Type} (f : α → Option β) (x y : α) : [x, y].findSome? f = (f x <|> f y) := by
  rw [List.findSome?_cons, List.findSome?_cons]
  cases f x with
  | none => cases f y <;> rfl
  | some t => rfl

theorem firstText?_pair (a b : String) (j : Json) : j.firstText? [a, b] = (j.textAt? a <|> j.textAt? b) :=
  findSome?_pair (fun name => j.textAt? name) a b

/-! ## Values that agree at some paths -/

/-- The texts at the ends of these paths are the same. -/
def AgreeAt (paths : List (List String)) (j j' : Json) : Prop :=
  ∀ path ∈ paths, j.textUnder? path = j'.textUnder? path

instance (paths : List (List String)) (j j' : Json) : Decidable (AgreeAt paths j j') :=
  inferInstanceAs (Decidable (∀ path ∈ paths, j.textUnder? path = j'.textUnder? path))

theorem AgreeAt.subset {paths more : List (List String)} {j j' : Json} (h : AgreeAt more j j') (hsub : paths ⊆ more) :
    AgreeAt paths j j' :=
  fun path hpath => h path (hsub hpath)

theorem AgreeAt.getOrNull {name : String} {paths : List (List String)} {j j' : Json}
    (h : AgreeAt (paths.map (name :: ·)) j j') : AgreeAt paths (j.getOrNull name) (j'.getOrNull name) := by
  intro path hpath
  rw [← textUnder?_cons, ← textUnder?_cons]
  exact h _ (List.mem_map_of_mem hpath)

end ScanDelta.Json

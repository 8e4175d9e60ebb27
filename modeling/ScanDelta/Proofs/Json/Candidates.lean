import ScanDelta.Proofs.Decimal.Digits
import ScanDelta.Proofs.Json.Path

/-!
# Usable texts, and the first one of several

* `Json.IsText j t` : the value is a usable text, a string that is not empty or a number;
* `Json.HasTextAt j path t` : a path of names leads to such a text; `Json.textUnder?_eq_some_iff` : it is the one that is
  found;
* `Chosen Shows xs o` : `o` is what the first usable one of the candidates `xs` shows;
* `Offered Shows xs ts` : `ts` is what the usable ones show, in order;
* `chosen_iff`, `offered_iff` : these are `findSome?` and `filterMap`.
-/

set_option autoImplicit false

namespace ScanDelta

/-! ## Numbers are never empty texts -/

theorem Number.text_ne_empty (n : Number) : n.text ≠ "" := by
  cases n with
  | int value =>
    rw [Number.text, ne_eq, String.ofList_eq_empty_iff]
    exact intChars_ne_nil value
  | double value =>
    rw [Number.text, ne_eq, String.ofList_eq_empty_iff]
    exact value.chars_ne_nil Number.layout

namespace Json

/-! ## Usable texts -/

/-- A string that is not empty stands for itself, a number for its digits; nothing else is a usable text. -/
inductive IsText : Json → String → Prop
  | str {s : String} (h : s ≠ "") : IsText (.str s) s
  | num (n : Number) : IsText (.num n) n.text

theorem IsText.ne_empty {j : Json} {t : String} (h : IsText j t) : t ≠ "" := by
  cases h with
  | str h => exact h
  | num n => exact n.text_ne_empty

theorem text?_eq_some_iff (j : Json) (t : String) : j.text? = some t ↔ IsText j t := by
  constructor
  · intro h
    cases j with
    | str s =>
      rw [text?] at h
      split at h
      · cases h
      · rename_i hne
        obtain rfl := Option.some.inj h
        exact .str (by simpa using hne)
    | num n =>
      obtain rfl := Option.some.inj h
      exact .num n
    | _ => cases h
  · intro h
    cases h with
    | str h => rw [text?, if_neg (by simpa using h)]
    | num n => rfl

/-- A path of names leads to this usable text. -/
def HasTextAt (j : Json) (path : List String) (t : String) : Prop := ∃ v, j.under? path = some v ∧ IsText v t

theorem textUnder?_eq_some_iff (j : Json) (path : List String) (t : String) :
    j.textUnder? path = some t ↔ j.HasTextAt path t := by
  rw [textUnder?, Option.bind_eq_some_iff]
  simp only [text?_eq_some_iff, HasTextAt]

end Json

/-! ## The first of several -/

section Choice
variable {α β : Type}

/-- What the first usable one of some candidates shows: unusable ones before it do not hide it, and nothing behind it
counts; nothing if none is usable. -/
structure Chosen (Shows : α → β → Prop) (xs : List α) (o : Option β) : Prop where
  first : ∀ before x after t, xs = before ++ x :: after → (∀ y ∈ before, ∀ u, ¬ Shows y u) → Shows x t → o = some t
  none : (∀ x ∈ xs, ∀ t, ¬ Shows x t) → o = Option.none

/-- What the usable ones of some candidates show, in order. -/
inductive Offered (Shows : α → β → Prop) : List α → List β → Prop
  | nil : Offered Shows [] []
  | usable {x : α} {t : β} {xs : List α} {ts : List β} (h : Shows x t) (hrest : Offered Shows xs ts) :
      Offered Shows (x :: xs) (t :: ts)
  | unusable {x : α} {xs : List α} {ts : List β} (h : ∀ t, ¬ Shows x t) (hrest : Offered Shows xs ts) :
      Offered Shows (x :: xs) ts

variable {Shows : α → β → Prop} {f : α → Option β}

theorem forall_not_iff_eq_none {o : Option β} {P : β → Prop} (h : ∀ t, o = some t ↔ P t) :
    (∀ t, ¬ P t) ↔ o = none := by
  simp only [← h, Option.eq_none_iff_forall_ne_some, ne_eq]

theorem chosen_iff (hf : ∀ x t, f x = some t ↔ Shows x t) (xs : List α) (o : Option β) :
    Chosen Shows xs o ↔ xs.findSome? f = o := by
  constructor
  · intro h
    cases hfirst : xs.findSome? f with
    | none =>
      refine (h.none fun x hx => ?_).symm
      exact (forall_not_iff_eq_none (hf x)).2 (List.findSome?_eq_none_iff.1 hfirst x hx)
    | some t =>
      obtain ⟨before, x, after, hxs, hx, hbefore⟩ := List.findSome?_eq_some_iff.1 hfirst
      exact (h.first before x after t hxs (fun y hy => (forall_not_iff_eq_none (hf y)).2 (hbefore y hy)) ((hf x t).1 hx)).symm
  · rintro rfl
    constructor
    case first =>
      intro before x after t hxs hbefore hx
      refine List.findSome?_eq_some_iff.2 ⟨before, x, after, hxs, (hf x t).2 hx, ?_⟩
      exact fun y hy => (forall_not_iff_eq_none (hf y)).1 (hbefore y hy)
    case none =>
      intro hnone
      exact List.findSome?_eq_none_iff.2 fun x hx => (forall_not_iff_eq_none (hf x)).1 (hnone x hx)

/-- It is enough that the candidates show the same. -/
theorem Chosen.congr {Shows' : α → β → Prop} {xs : List α} {o : Option β} (h : Chosen Shows xs o)
    (hsame : ∀ x ∈ xs, ∀ t, Shows x t ↔ Shows' x t) : Chosen Shows' xs o where
  first before x after t hxs hbefore hx := by
    have hmem : x ∈ xs := hxs ▸ List.mem_append_right _ List.mem_cons_self
    refine h.first before x after t hxs (fun y hy u hu => ?_) ((hsame x hmem t).2 hx)
    have hy' : y ∈ xs := hxs ▸ List.mem_append_left _ hy
    exact hbefore y hy u ((hsame y hy' u).1 hu)
  none hnone := h.none fun x hx t ht => hnone x hx t ((hsame x hx t).1 ht)

theorem offered_iff (hf : ∀ x t, f x = some t ↔ Shows x t) (xs : List α) (ts : List β) :
    Offered Shows xs ts ↔ xs.filterMap f = ts := by
  constructor
  · intro h
    induction h with
    | nil => rfl
    | usable hx _ ih => rw [List.filterMap_cons_some ((hf _ _).2 hx), ih]
    | unusable hx _ ih => rw [List.filterMap_cons_none ((forall_not_iff_eq_none (hf _)).1 hx), ih]
  · rintro rfl
    induction xs with
    | nil => exact .nil
    | cons x xs ih =>
      cases hx : f x with
      | none =>
        rw [List.filterMap_cons_none hx]
        exact .unusable ((forall_not_iff_eq_none (hf x)).2 hx) ih
      | some t =>
        rw [List.filterMap_cons_some hx]
        exact .usable ((hf x t).1 hx) ih

end Choice

end ScanDelta

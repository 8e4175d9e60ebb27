import Mathlib.Data.List.Forall2
import ScanDelta.Json.Printer

/-!
# JSON text without blanks

* `EscapedAs c text` : how a character stands in a string literal; `QuotedAs s text` : how a string does;
* `WrittenAs j text`, `MemberWrittenAs m text` : how a value and a member are written without blanks;
* `escapeChar_eq_iff`, `literal_eq_iff`, `compact_eq_iff` : this is what is printed.
-/

set_option autoImplicit false

namespace ScanDelta.Json

/-! ## Strings -/

/-- The characters with an escape of one letter. -/
def shortEscapes : List (Char × Char) :=
  [('"', '"'), ('\\', '\\'), ('\x08', 'b'), ('\x0C', 'f'), ('\n', 'n'), ('\r', 'r'), ('\t', 't')]

/-- A character with a letter of its own is escaped by it, any other one below U+0020 by its four digits; the rest stand
for themselves. -/
inductive EscapedAs : Char → List Char → Prop
  | short {c letter : Char} (h : (c, letter) ∈ shortEscapes) : EscapedAs c ['\\', letter]
  | control {c : Char} (hcontrol : c.toNat < 0x20) (h : c ∉ shortEscapes.map Prod.fst) :
    EscapedAs c ['\\', 'u', '0', '0', Nat.digitChar (c.toNat / 16), Nat.digitChar (c.toNat % 16)]
  | plain {c : Char} (hplain : 0x20 ≤ c.toNat) (h : c ∉ shortEscapes.map Prod.fst) : EscapedAs c [c]

/-- The string in quotes, each character escaped. -/
def QuotedAs (s : String) (text : List Char) : Prop :=
  ∃ parts, List.Forall₂ EscapedAs s.toList parts ∧ text = '"' :: (parts.flatten ++ ['"'])

theorem escapeChar_of_short {c letter : Char} (h : (c, letter) ∈ shortEscapes) : escapeChar c = ['\\', letter] := by
  simp only [shortEscapes, List.mem_cons, List.not_mem_nil, or_false, Prod.mk.injEq] at h
  rcases h with ⟨rfl, rfl⟩ | ⟨rfl, rfl⟩ | ⟨rfl, rfl⟩ | ⟨rfl, rfl⟩ | ⟨rfl, rfl⟩ | ⟨rfl, rfl⟩ | ⟨rfl, rfl⟩ <;> rfl

theorem escapeChar_of_not_short {c : Char} (h : c ∉ shortEscapes.map Prod.fst) : escapeChar c =
    if c.toNat < 0x20 then ['\\', 'u', '0', '0', Nat.digitChar (c.toNat / 16), Nat.digitChar (c.toNat % 16)]
    else [c] := by
  have hne : ∀ d ∈ shortEscapes.map Prod.fst, c ≠ d := by
    rintro d hd rfl
    exact h hd
  have hbackspace : c.toNat ≠ 0x08 := fun heq => hne '\x08' (by decide) (Char.toNat_inj.1 heq)
  have hfeed : c.toNat ≠ 0x0C := fun heq => hne '\x0C' (by decide) (Char.toNat_inj.1 heq)
  rw [escapeChar, if_neg (hne '"' (by decide)), if_neg (hne '\\' (by decide)), if_neg hbackspace, if_neg hfeed,
    if_neg (hne '\n' (by decide)), if_neg (hne '\r' (by decide)), if_neg (hne '\t' (by decide))]
  refine if_ctx_congr Iff.rfl (fun hcontrol => ?_) fun _ => rfl
  rw [hexDigit, hexDigit, Nat.mod_eq_of_lt (show c.toNat / 16 < 16 by omega)]

theorem escapeChar_eq_iff (c : Char) (text : List Char) : escapeChar c = text ↔ EscapedAs c text := by
  constructor
  · rintro rfl
    by_cases hshort : c ∈ shortEscapes.map Prod.fst
    · obtain ⟨⟨_, letter⟩, hmem, rfl⟩ := List.mem_map.1 hshort
      rw [escapeChar_of_short hmem]
      exact .short hmem
    · rw [escapeChar_of_not_short hshort]
      split
      · exact .control ‹_› hshort
      · exact .plain (by omega) hshort
  · intro h
    cases h with
    | short hmem => exact escapeChar_of_short hmem
    | control hcontrol hshort => rw [escapeChar_of_not_short hshort, if_pos hcontrol]
    | plain hplain hshort => rw [escapeChar_of_not_short hshort, if_neg (by omega)]

/-- A relation that a function decides, along a list. -/
theorem map_eq_iff_forall₂ {α β : Type} {f : α → β} {R : α → β → Prop} (xs : List α)
    (h : ∀ x ∈ xs, ∀ y, f x = y ↔ R x y) (ys : List β) : xs.map f = ys ↔ List.Forall₂ R xs ys := by
  induction xs generalizing ys with
  | nil => rw [List.map_nil, List.forall₂_nil_left_iff, eq_comm]
  | cons x xs ih =>
    rw [List.map_cons, List.forall₂_cons_left_iff]
    constructor
    · rintro rfl
      exact ⟨f x, xs.map f, (h x List.mem_cons_self _).1 rfl,
        (ih (fun y hy => h y (List.mem_cons_of_mem x hy)) _).1 rfl, rfl⟩
    · rintro ⟨y, ys, hy, hys, rfl⟩
      rw [(h x List.mem_cons_self y).2 hy, (ih (fun z hz => h z (List.mem_cons_of_mem x hz)) ys).2 hys]

theorem literal_eq_iff (s : String) (text : List Char) : (literal s).toList = text ↔ QuotedAs s text := by
  simp only [QuotedAs, ← map_eq_iff_forall₂ _ fun c _ => escapeChar_eq_iff c, exists_eq_left', literal,
    String.toList_ofList, List.flatMap_def, List.cons_append]
  exact eq_comm

/-! ## Values -/

mutual

/-- How a value is written without blanks. -/
inductive WrittenAs : Json → List Char → Prop
  | null : WrittenAs .null ['n', 'u', 'l', 'l']
  | true : WrittenAs (.bool true) ['t', 'r', 'u', 'e']
  | false : WrittenAs (.bool false) ['f', 'a', 'l', 's', 'e']
  | num (n : Number) : WrittenAs (.num n) n.text.toList
  | str {s : String} {text : List Char} (h : QuotedAs s text) : WrittenAs (.str s) text
  | arr {xs : List Json} {texts : List (List Char)} (h : List.Forall₂ WrittenAs xs texts) :
    WrittenAs (.arr xs) ('[' :: ([','].intercalate texts ++ [']']))
  | obj {ms : List (String × Json)} {texts : List (List Char)} (h : List.Forall₂ MemberWrittenAs ms texts) :
    WrittenAs (.obj ms) ('\x7b' :: ([','].intercalate texts ++ ['\x7d']))

/-- How a member of an object is written. -/
inductive MemberWrittenAs : String × Json → List Char → Prop
  | mk {name : String} {v : Json} {quoted text : List Char} (hname : QuotedAs name quoted) (h : WrittenAs v text) :
    MemberWrittenAs (name, v) (quoted ++ ':' :: text)

end

/-- What writes its parts one after another, with a comma between two, joins them. -/
theorem toList_of_commas {α : Type} {part : α → String} {all : List α → String} (hnil : all [] = "")
    (hone : ∀ x, all [x] = part x) (hmore : ∀ x y xs, all (x :: y :: xs) = part x ++ "," ++ all (y :: xs)) (xs : List α) :
    (all xs).toList = [','].intercalate (xs.map fun x => (part x).toList) := by
  induction xs with
  | nil => rw [hnil]; rfl
  | cons x xs ih =>
    cases xs with
    | nil => rw [hone, List.map_singleton, List.intercalate_singleton]
    | cons y ys =>
      rw [hmore, String.toList_append, String.toList_append, ih]
      simp only [List.map_cons, List.intercalate_cons_cons]
      rfl

theorem compactItems_toList (xs : List Json) :
    (compactItems xs).toList = [','].intercalate (xs.map fun x => (compact x).toList) :=
  toList_of_commas rfl (fun _ => rfl) (fun _ _ _ => rfl) xs

theorem compactMembers_toList (ms : List (String × Json)) :
    (compactMembers ms).toList = [','].intercalate (ms.map fun m => (compactMember m).toList) :=
  toList_of_commas rfl (fun _ => rfl) (fun _ _ _ => rfl) ms

theorem compact_arr_toList (xs : List Json) : (compact (.arr xs)).toList =
    '[' :: ([','].intercalate (xs.map fun x => (compact x).toList) ++ [']']) := by
  rw [compact, String.toList_append, String.toList_append, compactItems_toList]
  rfl

theorem compact_obj_toList (ms : List (String × Json)) : (compact (.obj ms)).toList =
    '\x7b' :: ([','].intercalate (ms.map fun m => (compactMember m).toList) ++ ['\x7d']) := by
  rw [compact, String.toList_append, String.toList_append, compactMembers_toList]
  rfl

theorem compactMember_toList (name : String) (v : Json) :
    (compactMember (name, v)).toList = (literal name).toList ++ ':' :: (compact v).toList := by
  rw [compactMember, String.toList_append, String.toList_append, List.append_assoc]
  rfl

theorem compactMember_eq_iff {m : String × Json} (h : ∀ text, (compact m.2).toList = text ↔ WrittenAs m.2 text)
    (text : List Char) : (compactMember m).toList = text ↔ MemberWrittenAs m text := by
  obtain ⟨name, v⟩ := m
  rw [compactMember_toList]
  constructor
  · rintro rfl
    exact .mk ((literal_eq_iff _ _).1 rfl) ((h _).1 rfl)
  · rintro ⟨hname, hv⟩
    rw [(literal_eq_iff _ _).2 hname, (h _).2 hv]

/-- By recursion on the value, of which its items and the values of its members are parts. -/
theorem compact_eq_iff (j : Json) (text : List Char) : (compact j).toList = text ↔ WrittenAs j text := by
  match j with
  | .null => exact ⟨fun h => h ▸ .null, fun | .null => rfl⟩
  | .bool true => exact ⟨fun h => h ▸ .true, fun | .true => rfl⟩
  | .bool false => exact ⟨fun h => h ▸ .false, fun | .false => rfl⟩
  | .num n => exact ⟨fun h => h ▸ .num n, fun | .num _ => rfl⟩
  | .str s =>
    rw [compact, literal_eq_iff]
    exact ⟨.str, fun | .str h => h⟩
  | .arr xs =>
    rw [compact_arr_toList]
    have hxs := map_eq_iff_forall₂ xs (f := fun x => (compact x).toList) fun x hx => compact_eq_iff x
    constructor
    · rintro rfl
      exact .arr ((hxs _).1 rfl)
    · intro h
      cases h with | arr h => rw [(hxs _).2 h]
  | .obj ms =>
    rw [compact_obj_toList]
    have hms := map_eq_iff_forall₂ ms (f := fun m => (compactMember m).toList) fun m hm =>
      compactMember_eq_iff (compact_eq_iff m.2)
    constructor
    · rintro rfl
      exact .obj ((hms _).1 rfl)
    · intro h
      cases h with | obj h => rw [(hms _).2 h]
termination_by j
decreasing_by
  · have hlt := List.sizeOf_lt_of_mem hx
    simp only [arr.sizeOf_spec]
    omega
  · have hlt := List.sizeOf_lt_of_mem hm
    obtain ⟨name, v⟩ := m
    simp only [Prod.mk.sizeOf_spec, obj.sizeOf_spec] at hlt ⊢
    omega

end ScanDelta.Json

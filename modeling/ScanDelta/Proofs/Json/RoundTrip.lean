import Mathlib.Data.List.TakeDrop
import ScanDelta.Json.Parser
import ScanDelta.Json.Printer
import ScanDelta.Proofs.Decimal.Digits
import ScanDelta.Proofs.Run

/-!
# Reading what was printed

* `Json.normal` : a value with the members of its objects in the order of their names;
* `Json.Plain depth j` : arrays and objects nest at most so deep, and numbers are whole and have 64 bits;
* `Reads r text a` : the reader takes just this text and gives `a`, if the text does not go on as a number could;
* `reads_number`, `reads_string`, `reads_items`, `reads_members`, `reads_value` : the readers for the parts of a value take
  what is printed for them;
* `parse_pretty` : a plain value is read back from its text, but for the order of members.
-/

set_option autoImplicit false

namespace ScanDelta.Json

/-! ## Values that can be read back -/

mutual

/-- The value with the members of its objects in the order of their names. -/
def normal : Json → Json
  | .null => .null
  | .bool b => .bool b
  | .num n => .num n
  | .str s => .str s
  | .arr xs => .arr (normalItems xs)
  | .obj ms => ofMembers (normalMembers ms)
termination_by structural j => j

def normalItems : List Json → List Json
  | [] => []
  | x :: xs => normal x :: normalItems xs
termination_by structural xs => xs

def normalMembers : List (String × Json) → List (String × Json)
  | [] => []
  | m :: ms => normalMember m :: normalMembers ms
termination_by structural ms => ms

def normalMember : String × Json → String × Json
  | (name, v) => (name, normal v)
termination_by structural m => m

end

theorem normalItems_eq_map (xs : List Json) : normalItems xs = xs.map normal := by
  induction xs with
  | nil => rfl
  | cons x xs ih => rw [normalItems, ih, List.map_cons]

theorem normalMembers_eq_map (ms : List (String × Json)) : normalMembers ms = ms.map normalMember := by
  induction ms with
  | nil => rfl
  | cons m ms ih => rw [normalMembers, ih, List.map_cons]

/-- A whole number with 64 bits, signed or unsigned. -/
def Fits : Number → Prop
  | .int n => -(Nat.pow 2 63 : Nat) ≤ n ∧ n ≤ greatestNat
  | .double _ => False

/-- Arrays and objects nest at most so deep, and all numbers are whole and have 64 bits. -/
def Plain : Nat → Json → Prop
  | _, .null => True
  | _, .bool _ => True
  | _, .num n => Fits n
  | _, .str _ => True
  | 0, .arr _ => False
  | 0, .obj _ => False
  | depth + 1, .arr xs => ∀ x ∈ xs, Plain depth x
  | depth + 1, .obj ms => ∀ m ∈ ms, Plain depth m.2

/-! ## Readers -/

/-- May the character stand in a number, after a digit? -/
def continuesNumber (c : Char) : Bool := c.isDigit || c = '.' || c = 'e' || c = 'E'

/-- A number ends here. -/
def Ended (rest : List Char) : Prop := ∀ c ∈ rest.head?, continuesNumber c = false

/-- The reader takes just this text. -/
def Reads {α : Type} (r : Reader α) (text : List Char) (a : α) : Prop :=
  ∀ rest, Ended rest → r (text ++ rest) = .ok (a, rest)

theorem ended_cons {c : Char} (h : continuesNumber c = false) (rest : List Char) : Ended (c :: rest) := by
  intro d hd
  obtain rfl := Option.some.inj hd
  exact h

/-! ## Numbers -/

section Number

theorem span_digits {ds rest : List Char} (hds : ∀ c ∈ ds, c.isDigit = true) (hrest : Ended rest) :
    (ds ++ rest).span Char.isDigit = (ds, rest) := by
  have hstop : ∀ c ∈ rest.head?, c.isDigit = false := by
    intro c hc
    have h := hrest c hc
    simp only [continuesNumber, Bool.or_eq_false_iff] at h
    exact h.1.1.1
  rw [List.span_eq_takeWhile_dropWhile, List.takeWhile_append_of_pos hds, List.dropWhile_append_of_pos hds]
  cases rest with
  | nil => simp
  | cons c rest =>
    have hc := hstop c rfl
    rw [List.takeWhile_cons_of_neg (by simp [hc]), List.dropWhile_cons_of_neg (by simp [hc]), List.append_nil]

theorem digits1_natChars (n : Nat) {rest : List Char} (h : Ended rest) :
    digits1 (natChars n ++ rest) = .ok (natChars n, rest) := by
  have hspan := span_digits (fun c hc => isDigit_of_mem_natChars (n := n) hc) h
  obtain ⟨c, cs, hdigits, -⟩ := exists_natChars_eq_cons n
  rw [digits1, hspan, hdigits]

theorem fractionPart_ended {rest : List Char} (h : Ended rest) : fractionPart rest = .ok (none, rest) := by
  unfold fractionPart
  split
  · exact absurd (h '.' rfl) (by decide)
  · rfl

theorem exponentPart_ended {rest : List Char} (h : Ended rest) : exponentPart rest = .ok (none, rest) := by
  cases rest with
  | nil => rfl
  | cons c rest =>
    have hc := h c rfl
    simp only [continuesNumber, Bool.or_eq_false_iff] at hc
    unfold exponentPart
    dsimp only
    rw [hc.1.2, hc.2]
    rfl

theorem numberText_natChars (negative : Bool) (n : Nat) :
    Reads (numberText negative) (natChars n) ⟨negative, natChars n, none, none⟩ := by
  intro rest h
  have hzero : ¬ ((natChars n).head? = some '0' ∧ (natChars n).length ≠ 1) := by
    rintro ⟨hhead, hlength⟩
    rw [head?_natChars hhead] at hlength
    exact hlength length_natChars_zero
  rw [numberText, digits1_natChars n h, ok_bind]
  simp only [if_neg hzero, fractionPart_ended h, exponentPart_ended h, ok_bind]
  rfl

/-- Digits are taken whole if their value has 64 bits. -/
theorem absorb_digits {ds : List Char} {start : Nat} (h : Nat.ofDigitChars 10 ds start ≤ greatestNat) :
    absorb start ds = (Nat.ofDigitChars 10 ds start, 0) := by
  induction ds generalizing start with
  | nil => rfl
  | cons c cs ih =>
    have hnext : Nat.ofDigitChars 10 (c :: cs) start = Nat.ofDigitChars 10 cs (start * 10 + digitValue c) := by
      rw [Nat.ofDigitChars_cons, Nat.mul_comm]
      rfl
    rw [hnext] at h ⊢
    have hle : start * 10 + digitValue c ≤ greatestNat := by
      refine Nat.le_trans ?_ h
      rw [Nat.ofDigitChars_eq_ofDigitChars_zero]
      have hpos : 1 ≤ 10 ^ cs.length := Nat.one_le_pow _ _ (by decide)
      exact Nat.le_trans (Nat.le_mul_of_pos_left _ hpos) (Nat.le_add_right _ _)
    rw [absorb]
    simp only [if_pos hle, ih h]

/-- A whole number is read from its digits. -/
theorem reads_number (negative : Bool) {n : Nat} (hn : n ≤ greatestNat)
    (hnegative : negative = true → 0 < n ∧ n ≤ Nat.pow 2 63) :
    Reads (number negative) (natChars n) (.num (.int (if negative then -n else n))) := by
  intro rest h
  have hvalue : Nat.ofDigitChars 10 (natChars n) 0 = n := Nat.ofDigitChars_toDigits (by decide) (by decide)
  have habsorb : absorb 0 (natChars n) = (n, 0) := by
    rw [absorb_digits (by rw [hvalue]; exact hn), hvalue]
  rw [number, numberText_natChars negative n rest h, ok_bind]
  have hnumber : NumberText.number ⟨negative, natChars n, none, none⟩ = .ok (.int (if negative then -n else n)) := by
    rw [NumberText.number]
    simp only [habsorb, Option.isNone_none, true_and]
    rw [if_pos hnegative]
  dsimp only
  rw [hnumber]
  rfl

end Number

/-! ## Strings -/

theorem hexValue?_hexDigit (n : Nat) : hexValue? (hexDigit n) = some (n % 16) := by
  have hall : ∀ k, k < 16 → hexValue? (Nat.digitChar k) = some k := by decide
  exact hall (n % 16) (Nat.mod_lt n (by decide))

/-- A control character is read from its four digits. -/
theorem unicodeEscape_control {c : Char} (hc : c.toNat < 0x20) (rest : List Char) :
    unicodeEscape ('0' :: '0' :: hexDigit (c.toNat / 16) :: hexDigit c.toNat :: rest) = .ok (c, rest) := by
  have hzero : hexValue? '0' = some 0 := by decide
  have hunit : hexUnit ('0' :: '0' :: hexDigit (c.toNat / 16) :: hexDigit c.toNat :: rest) = .ok (c.toNat, rest) := by
    have hvalue : ((0 * 16 + 0) * 16 + c.toNat / 16 % 16) * 16 + c.toNat % 16 = c.toNat := by omega
    rw [hexUnit, hexValue?_hexDigit, hexValue?_hexDigit, hzero]
    simp only [hvalue]
  have hhigh : isHighSurrogate c.toNat = false := by
    rw [isHighSurrogate, Bool.and_eq_false_iff]
    exact .inl (decide_eq_false (by omega))
  have hlow : isLowSurrogate c.toNat = false := by
    rw [isLowSurrogate, Bool.and_eq_false_iff]
    exact .inl (decide_eq_false (by omega))
  rw [unicodeEscape, hunit, ok_bind]
  simp only [hhigh, hlow, Bool.false_eq_true, if_false, Char.ofNat_toNat]
  rfl

/-- A character of a string, or its escape, is read in one step. -/
theorem stringBody_escapeChar (n : Nat) (acc : List Char) (c : Char) (rest : List Char) :
    stringBody (n + 1) acc (escapeChar c ++ rest) = stringBody n (c :: acc) rest := by
  have hofNat : ∀ k, c.toNat = k → Char.ofNat k = c := by
    rintro k rfl
    exact Char.ofNat_toNat c
  unfold escapeChar
  split
  · subst c; rfl
  split
  · subst c; rfl
  split
  · rw [← hofNat _ ‹c.toNat = 0x08›]; rfl
  split
  · rw [← hofNat _ ‹c.toNat = 0x0C›]; rfl
  split
  · subst c; rfl
  split
  · subst c; rfl
  split
  · subst c; rfl
  split
  · have hescape : escapeSequence ('u' :: '0' :: '0' :: hexDigit (c.toNat / 16) :: hexDigit c.toNat :: rest) =
        .ok (c, rest) := unicodeEscape_control ‹_› rest
    simp only [List.cons_append, List.nil_append]
    rw [stringBody, hescape]
  · rename_i hquote hbackslash _ _ _ _ _ hcontrol
    rw [List.singleton_append, stringBody]
    · rw [if_neg hcontrol]
    · exact hquote
    · exact hbackslash

/-- The inside of a string literal is read up to the quote that ends it. -/
theorem stringBody_escaped {cs : List Char} {n : Nat} (h : cs.length < n) (acc rest : List Char) :
    stringBody n acc (cs.flatMap escapeChar ++ '"' :: rest) = .ok (String.ofList (acc.reverse ++ cs), rest) := by
  induction cs generalizing n acc with
  | nil =>
    obtain ⟨m, rfl⟩ : ∃ m, n = m + 1 := ⟨n - 1, by simp at h; omega⟩
    rw [List.append_nil]
    rfl
  | cons c cs ih =>
    obtain ⟨m, rfl⟩ : ∃ m, n = m + 1 := ⟨n - 1, by simp at h; omega⟩
    rw [List.flatMap_cons, List.append_assoc, stringBody_escapeChar, ih (by simpa using h)]
    simp

theorem literal_toList (s : String) : (literal s).toList = '"' :: (s.toList.flatMap escapeChar ++ ['"']) := by
  simp [literal]

theorem escapeChar_ne_nil (c : Char) : escapeChar c ≠ [] := by
  unfold escapeChar
  repeat' split
  all_goals exact List.cons_ne_nil _ _

theorem length_le_escaped (cs : List Char) : cs.length ≤ (cs.flatMap escapeChar).length := by
  induction cs with
  | nil => exact Nat.le_refl _
  | cons c cs ih =>
    have hpos := List.length_pos_iff.2 (escapeChar_ne_nil c)
    simp only [List.flatMap_cons, List.length_append, List.length_cons]
    omega

theorem length_lt_literal (s : String) : s.toList.length < (literal s).toList.length := by
  have h := length_le_escaped s.toList
  rw [literal_toList, List.length_cons, List.length_append]
  omega

/-- A string is read from its literal, behind the first quote. -/
theorem reads_string {s : String} {budget : Nat} (h : (literal s).toList.length ≤ budget) (rest : List Char) :
    stringBody budget [] (s.toList.flatMap escapeChar ++ '"' :: rest) = .ok (s, rest) := by
  rw [stringBody_escaped (Nat.lt_of_lt_of_le (length_lt_literal s) h)]
  simp

/-! ## Blanks -/

theorem skipSpace_cons {c : Char} (h : isSpace c = false) (cs : List Char) : skipSpace (c :: cs) = c :: cs :=
  List.dropWhile_cons_of_neg (by simp [h])

theorem skipSpace_lineBreak (level : Nat) (cs : List Char) :
    skipSpace ((lineBreak level).toList ++ cs) = skipSpace cs := by
  refine List.dropWhile_append_of_pos fun c hc => ?_
  rw [lineBreak, String.toList_ofList] at hc
  rcases List.mem_cons.1 hc with rfl | hc
  · decide
  · rw [List.eq_of_mem_replicate hc]
    decide

/-- A text that begins with a character that is no blank and closes nothing. -/
def Opens (text : List Char) : Prop := ∃ c cs, text = c :: cs ∧ isSpace c = false ∧ c ≠ ']' ∧ c ≠ '\x7d'

theorem Opens.skipSpace {text : List Char} (h : Opens text) (rest : List Char) :
    skipSpace (text ++ rest) = text ++ rest := by
  obtain ⟨c, cs, rfl, hc, -⟩ := h
  exact skipSpace_cons hc _

/-- The pieces behind the first one, each behind a comma on a line of its own. -/
def following (level : Nat) (pieces : List (List Char)) : List Char :=
  pieces.flatMap fun piece => ',' :: ((lineBreak level).toList ++ piece)

theorem ended_following (level level' : Nat) (pieces : List (List Char)) (rest : List Char) :
    Ended (following level pieces ++ ((lineBreak level').toList ++ rest)) := by
  cases pieces with
  | nil =>
    rw [lineBreak, String.toList_ofList]
    exact ended_cons (by decide) _
  | cons piece pieces => exact ended_cons (by decide) _

theorem length_le_following (level : Nat) (pieces : List (List Char)) :
    pieces.length ≤ (following level pieces).length := by
  induction pieces with
  | nil => exact Nat.le_refl _
  | cons piece pieces ih =>
    unfold following at ih ⊢
    simp only [List.flatMap_cons, List.length_append, List.length_cons]
    omega

/-! ## What stands between brackets -/

/-- Up to the closing character, what the reader reads follows each comma. -/
structure Separated {β : Type} (read : Reader β) (close : Char) (after : Nat → List β → Reader (List β)) : Prop where
  closed {n : Nat} {acc : List β} {cs rest : List Char} (h : skipSpace cs = close :: rest) :
    after (n + 1) acc cs = .ok (acc.reverse, rest)
  further {n : Nat} {acc : List β} {cs more : List Char} (h : skipSpace cs = ',' :: more) :
    after (n + 1) acc cs = read (skipSpace more) >>= fun p => after n (p.1 :: acc) p.2

theorem separated_items (item : Reader Json) : Separated item ']' (itemsAfter item) where
  closed h := by
    rw [itemsAfter, h]
    rfl
  further h := by
    rw [itemsAfter, h]
    rfl

theorem separated_members (item : Reader Json) (budget : Nat) :
    Separated (member item budget) '\x7d' (membersAfter item budget) where
  closed h := by
    rw [membersAfter, h]
    rfl
  further h := by
    rw [membersAfter, h]
    rfl

section Between
variable {α β : Type} {read : Reader β} {close : Char} {after : Nat → List β → Reader (List β)} {text : α → List Char}
  {value : α → β} {xs : List α} (level level' : Nat)

/-- What follows the first piece is read piece by piece. -/
theorem Separated.reads_following (hsep : Separated read close after) (hspace : isSpace close = false) {n : Nat}
    (hread : ∀ x ∈ xs, Reads read (text x) (value x)) (hopen : ∀ x ∈ xs, Opens (text x)) (hn : xs.length < n)
    (acc : List β) (rest : List Char) :
    after n acc (following level (xs.map text) ++ ((lineBreak level').toList ++ close :: rest)) =
      .ok (acc.reverse ++ xs.map value, rest) := by
  obtain ⟨m, rfl⟩ : ∃ m, n = m + 1 := ⟨n - 1, by omega⟩
  induction xs generalizing m acc with
  | nil =>
    have hskip : skipSpace ((lineBreak level').toList ++ close :: rest) = close :: rest := by
      rw [skipSpace_lineBreak, skipSpace_cons hspace]
    rw [List.map_nil, List.map_nil, List.append_nil]
    exact hsep.closed hskip
  | cons x xs ih =>
    rw [List.length_cons] at hn
    obtain ⟨k, rfl⟩ : ∃ k, m = k + 1 := ⟨m - 1, by omega⟩
    have hrest := ih (fun y hy => hread y (List.mem_cons_of_mem _ hy)) (fun y hy => hopen y (List.mem_cons_of_mem _ hy))
      (value x :: acc) k (by omega)
    have hx := hread x List.mem_cons_self _ (ended_following level level' (xs.map text) (close :: rest))
    have hfollowing : following level ((x :: xs).map text) ++ ((lineBreak level').toList ++ close :: rest) =
        ',' :: ((lineBreak level).toList ++ (text x ++ (following level (xs.map text) ++
          ((lineBreak level').toList ++ close :: rest)))) := by
      simp [following]
    rw [hfollowing, hsep.further (skipSpace_cons (by decide) _), skipSpace_lineBreak,
      (hopen x List.mem_cons_self).skipSpace, hx, ok_bind, hrest]
    simp

end Between

/-- All pieces, each on a line of its own, and the line break before the closing character. -/
def inside (level : Nat) : List (List Char) → List Char
  | [] => []
  | piece :: pieces =>
    (lineBreak (level + 1)).toList ++ (piece ++ (following (level + 1) pieces ++ (lineBreak level).toList))

section Inside
variable {item : Reader Json} {budget : Nat} (level : Nat)

theorem length_le_inside (level : Nat) (pieces : List (List Char)) : pieces.length ≤ (inside level pieces).length := by
  cases pieces with
  | nil => exact Nat.le_refl _
  | cons piece pieces =>
    have hbreak : 0 < (lineBreak (level + 1)).toList.length := by simp [lineBreak]
    have hpieces := length_le_following (level + 1) pieces
    simp only [inside, List.length_append, List.length_cons]
    omega

/-- Items are read up to the bracket. -/
theorem reads_items {text : Json → List Char} {xs : List Json} (hread : ∀ x ∈ xs, Reads item (text x) x.normal)
    (hopen : ∀ x ∈ xs, Opens (text x)) (hn : xs.length ≤ budget) (rest : List Char) :
    items item budget (inside level (xs.map text) ++ ']' :: rest) = .ok (xs.map normal, rest) := by
  cases xs with
  | nil =>
    rw [items, List.map_nil, inside, List.nil_append, skipSpace_cons (by decide)]
    rfl
  | cons x xs =>
    have hx := hread x List.mem_cons_self _ (ended_following (level + 1) level (xs.map text) (']' :: rest))
    have hrest := (separated_items item).reads_following (level + 1) level (by decide)
      (fun y hy => hread y (List.mem_cons_of_mem _ hy)) (fun y hy => hopen y (List.mem_cons_of_mem _ hy)) hn
      [x.normal] rest
    obtain ⟨c, cs, htext, -, hclose, -⟩ := hopen x List.mem_cons_self
    rw [items, List.map_cons, inside]
    simp only [List.append_assoc]
    rw [skipSpace_lineBreak, (hopen x List.mem_cons_self).skipSpace]
    split
    · rename_i heq
      rw [htext] at heq
      exact absurd (List.cons.inj heq).1 hclose
    · rw [hx, ok_bind]
      exact hrest

/-- Members are read up to the brace. -/
theorem reads_members {text : String × Json → List Char} {ms : List (String × Json)}
    (hread : ∀ m ∈ ms, Reads (member item budget) (text m) (normalMember m)) (hopen : ∀ m ∈ ms, Opens (text m))
    (hn : ms.length ≤ budget) (rest : List Char) :
    members item budget (inside level (ms.map text) ++ '\x7d' :: rest) = .ok (ms.map normalMember, rest) := by
  cases ms with
  | nil =>
    rw [members, List.map_nil, inside, List.nil_append, skipSpace_cons (by decide)]
    rfl
  | cons m ms =>
    have hm := hread m List.mem_cons_self _ (ended_following (level + 1) level (ms.map text) ('\x7d' :: rest))
    have hrest := (separated_members item budget).reads_following (level + 1) level (by decide)
      (fun y hy => hread y (List.mem_cons_of_mem _ hy)) (fun y hy => hopen y (List.mem_cons_of_mem _ hy)) hn
      [normalMember m] rest
    obtain ⟨c, cs, htext, -, -, hclose⟩ := hopen m List.mem_cons_self
    rw [members, List.map_cons, inside]
    simp only [List.append_assoc]
    rw [skipSpace_lineBreak, (hopen m List.mem_cons_self).skipSpace]
    split
    · rename_i heq
      rw [htext] at heq
      exact absurd (List.cons.inj heq).1 hclose
    · rw [hm, ok_bind]
      exact hrest

/-- A member is read from its name, a colon and its value. -/
theorem reads_member {m : String × Json} (hread : Reads item (prettyAt level m.2).toList m.2.normal)
    (hopen : Opens (prettyAt level m.2).toList) (hname : (literal m.1).toList.length ≤ budget) :
    Reads (member item budget) (prettyMember level m).toList (normalMember m) := by
  intro rest hrest
  obtain ⟨name, v⟩ := m
  have htext : (prettyMember level (name, v)).toList ++ rest =
      '"' :: (name.toList.flatMap escapeChar ++ '"' :: ':' :: ' ' :: ((prettyAt level v).toList ++ rest)) := by
    rw [prettyMember, String.toList_append, String.toList_append, literal_toList]
    simp
  rw [htext, member, reads_string hname, ok_bind]
  dsimp only
  rw [skipSpace_cons (by decide)]
  have hblank : skipSpace (' ' :: ((prettyAt level v).toList ++ rest)) = (prettyAt level v).toList ++ rest := by
    have hspace : isSpace ' ' = true := by decide
    exact (List.dropWhile_cons_of_pos hspace).trans (hopen.skipSpace rest)
  show (item (skipSpace (' ' :: ((prettyAt level v).toList ++ rest))) >>= _) = _
  rw [hblank, hread rest hrest]
  rfl

end Inside

/-! ## Values -/

theorem prettyAt_null_toList (level : Nat) : (prettyAt level .null).toList = ['n', 'u', 'l', 'l'] := by
  simp [prettyAt]

theorem prettyAt_bool_toList (level : Nat) (b : Bool) :
    (prettyAt level (.bool b)).toList = if b then ['t', 'r', 'u', 'e'] else ['f', 'a', 'l', 's', 'e'] := by
  cases b <;> simp [prettyAt]

theorem prettyItems_toList (level : Nat) (x : Json) (xs : List Json) : (prettyItems level (x :: xs)).toList =
    (lineBreak level).toList ++ ((prettyAt level x).toList ++
      following level (xs.map fun y => (prettyAt level y).toList)) := by
  induction xs generalizing x with
  | nil => simp [prettyItems, following]
  | cons y ys ih =>
    rw [prettyItems]
    simp [ih y, following]

theorem prettyMembers_toList (level : Nat) (m : String × Json) (ms : List (String × Json)) :
    (prettyMembers level (m :: ms)).toList = (lineBreak level).toList ++ ((prettyMember level m).toList ++
      following level (ms.map fun n => (prettyMember level n).toList)) := by
  induction ms generalizing m with
  | nil => simp [prettyMembers, following]
  | cons n ns ih =>
    rw [prettyMembers]
    simp [ih n, following]

theorem prettyAt_arr_toList (level : Nat) (xs : List Json) : (prettyAt level (.arr xs)).toList =
    '[' :: (inside level (xs.map fun x => (prettyAt (level + 1) x).toList) ++ [']']) := by
  cases xs with
  | nil => simp [prettyAt, inside]
  | cons x xs =>
    rw [prettyAt]
    simp [prettyItems_toList, inside]

theorem prettyAt_obj_toList (level : Nat) (ms : List (String × Json)) : (prettyAt level (.obj ms)).toList =
    '\x7b' :: (inside level (ms.map fun m => (prettyMember (level + 1) m).toList) ++ ['\x7d']) := by
  cases ms with
  | nil => simp [prettyAt, inside]
  | cons m ms =>
    rw [prettyAt]
    simp [prettyMembers_toList, inside]

theorem length_le_inside_of_mem (level : Nat) {pieces : List (List Char)} {piece : List Char} (h : piece ∈ pieces) :
    piece.length ≤ (inside level pieces).length := by
  have hfollowing : ∀ ps : List (List Char), piece ∈ ps → piece.length ≤ (following (level + 1) ps).length := by
    intro ps hps
    obtain ⟨before, later, rfl⟩ := List.append_of_mem hps
    simp only [following, List.flatMap_append, List.flatMap_cons, List.length_append, List.length_cons]
    omega
  cases pieces with
  | nil => cases h
  | cons first pieces =>
    simp only [inside, List.length_append]
    rcases List.mem_cons.1 h with rfl | h
    · omega
    · have hlater := hfollowing pieces h
      omega

theorem length_le_inside_map {α : Type} (level : Nat) (text : α → List Char) {x : α} {xs : List α} (h : x ∈ xs) :
    (text x).length ≤ (inside level (xs.map text)).length :=
  length_le_inside_of_mem level (List.mem_map_of_mem h)

/-- The text of a member has those of its name and its value in it. -/
theorem length_le_prettyMember (level : Nat) (m : String × Json) :
    (literal m.1).toList.length ≤ (prettyMember level m).toList.length ∧
      (prettyAt level m.2).toList.length ≤ (prettyMember level m).toList.length := by
  obtain ⟨name, v⟩ := m
  simp only [prettyMember, String.toList_append, List.length_append]
  omega

/-- What a digit is not. -/
theorem digit_ne {c : Char} (h : c.isDigit = true) :
    c ≠ 'n' ∧ c ≠ 't' ∧ c ≠ 'f' ∧ c ≠ '"' ∧ c ≠ '[' ∧ c ≠ '\x7b' ∧ c ≠ '-' ∧ c ≠ ']' ∧ c ≠ '\x7d' ∧ isSpace c = false := by
  refine ⟨?_, ?_, ?_, ?_, ?_, ?_, ?_, ?_, ?_, ?_⟩
  case refine_10 =>
    rw [← Bool.not_eq_true]
    intro hspace
    simp only [isSpace, Bool.or_eq_true, decide_eq_true_eq] at hspace
    rcases hspace with ((rfl | rfl) | rfl) | rfl <;> exact absurd h (by decide)
  all_goals
    rintro rfl
    exact absurd h (by decide)

theorem valueWith_digit (inner : Option (Reader Json)) (budget : Nat) {c : Char} (h : c.isDigit = true)
    (cs : List Char) : valueWith inner budget (c :: cs) = number false (c :: cs) := by
  obtain ⟨hn, ht, hf, hq, ha, ho, hm, -⟩ := digit_ne h
  rw [valueWith]
  · rw [if_pos h]
  all_goals assumption

section Value
variable {budget level : Nat} {inner : Option (Reader Json)}

theorem reads_int {n : Int} (h : Fits (.int n)) :
    Reads (valueWith inner budget) (intChars n) (.num (.int n)) := by
  intro rest hrest
  obtain ⟨hleast, hgreatest⟩ := h
  have hpower : Nat.pow 2 63 ≤ greatestNat := by decide
  by_cases hneg : n < 0
  · have hread := reads_number true (n := n.natAbs) (by omega) (fun _ => by omega) rest hrest
    have hvalue : -(n.natAbs : Int) = n := by omega
    rw [if_pos rfl, hvalue] at hread
    rw [intChars, if_pos hneg]
    exact hread
  · have hread := reads_number false (n := n.natAbs) (by omega) (absurd · Bool.false_ne_true) rest hrest
    have hvalue : (n.natAbs : Int) = n := by omega
    rw [if_neg (by decide), hvalue] at hread
    rw [intChars, if_neg hneg]
    obtain ⟨c, cs, hdigits, hc⟩ := exists_natChars_eq_cons n.natAbs
    rw [hdigits] at hread ⊢
    rw [List.cons_append, valueWith_digit inner budget hc]
    exact hread

theorem reads_str {s : String} (h : (literal s).toList.length ≤ budget) :
    Reads (valueWith inner budget) (literal s).toList (.str s) := by
  intro rest _
  have htext : (literal s).toList ++ rest = '"' :: (s.toList.flatMap escapeChar ++ '"' :: rest) := by
    rw [literal_toList]
    simp
  rw [htext]
  show (stringBody budget [] (s.toList.flatMap escapeChar ++ '"' :: rest) >>= _) = _
  rw [reads_string h]
  rfl

theorem opens_of_plain {depth : Nat} {j : Json} (h : Plain depth j) (level : Nat) : Opens (prettyAt level j).toList := by
  cases j with
  | null =>
    rw [prettyAt_null_toList]
    exact ⟨'n', _, rfl, by decide, by decide, by decide⟩
  | bool b =>
    rw [prettyAt_bool_toList]
    cases b with
    | true => exact ⟨'t', _, rfl, by decide, by decide, by decide⟩
    | false => exact ⟨'f', _, rfl, by decide, by decide, by decide⟩
  | str s =>
    rw [prettyAt, literal_toList]
    exact ⟨'"', _, rfl, by decide, by decide, by decide⟩
  | arr xs =>
    rw [prettyAt_arr_toList]
    exact ⟨'[', _, rfl, by decide, by decide, by decide⟩
  | obj ms =>
    rw [prettyAt_obj_toList]
    exact ⟨'\x7b', _, rfl, by decide, by decide, by decide⟩
  | num n =>
    cases n with
    | double x => cases depth <;> exact h.elim
    | int n =>
      rw [prettyAt, Number.text, String.toList_ofList, intChars]
      split
      · exact ⟨'-', _, rfl, by decide, by decide, by decide⟩
      · obtain ⟨c, cs, hdigits, hc⟩ := exists_natChars_eq_cons n.natAbs
        obtain ⟨-, -, -, -, -, -, -, hbracket, hbrace, hspace⟩ := digit_ne hc
        exact ⟨c, cs, hdigits, hspace, hbracket, hbrace⟩

/-- A value without items and members is read at any depth. -/
theorem reads_leaf {depth : Nat} {j : Json} (h : Plain depth j) (harr : ∀ xs, j ≠ .arr xs) (hobj : ∀ ms, j ≠ .obj ms)
    (hb : (prettyAt level j).toList.length ≤ budget) :
    Reads (valueWith inner budget) (prettyAt level j).toList j.normal := by
  cases j with
  | null =>
    rw [prettyAt_null_toList]
    exact fun rest _ => rfl
  | bool b =>
    rw [prettyAt_bool_toList]
    cases b <;> exact fun rest _ => rfl
  | str s => exact reads_str hb
  | arr xs => exact absurd rfl (harr xs)
  | obj ms => exact absurd rfl (hobj ms)
  | num n =>
    cases n with
    | double x => cases depth <;> exact h.elim
    | int n =>
      rw [prettyAt, Number.text, String.toList_ofList]
      refine reads_int ?_
      cases depth <;> exact h

/-- Brackets are read with what stands between them. -/
theorem reads_arr {item : Reader Json} {xs : List Json}
    (hread : ∀ x ∈ xs, Reads item (prettyAt (level + 1) x).toList x.normal)
    (hopen : ∀ x ∈ xs, Opens (prettyAt (level + 1) x).toList) (hb : (prettyAt level (.arr xs)).toList.length ≤ budget) :
    Reads (valueWith (some item) budget) (prettyAt level (.arr xs)).toList (Json.arr xs).normal := by
  intro rest _
  rw [prettyAt_arr_toList] at hb ⊢
  have hlength := length_le_inside level (xs.map fun x => (prettyAt (level + 1) x).toList)
  simp only [List.length_map, List.length_cons, List.length_append] at hlength hb
  have hlast : xs.length ≤ budget := by omega
  have hitems := reads_items level hread hopen hlast rest
  rw [normal, normalItems_eq_map, List.cons_append, List.append_assoc, List.singleton_append]
  show (items item budget _ >>= _) = _
  rw [hitems]
  rfl

theorem reads_obj {item : Reader Json} {ms : List (String × Json)}
    (hread : ∀ m ∈ ms, Reads item (prettyAt (level + 1) m.2).toList m.2.normal)
    (hopen : ∀ m ∈ ms, Opens (prettyAt (level + 1) m.2).toList) (hb : (prettyAt level (.obj ms)).toList.length ≤ budget) :
    Reads (valueWith (some item) budget) (prettyAt level (.obj ms)).toList (Json.obj ms).normal := by
  intro rest _
  rw [prettyAt_obj_toList] at hb ⊢
  have hlength := length_le_inside level (ms.map fun m => (prettyMember (level + 1) m).toList)
  simp only [List.length_map, List.length_cons, List.length_append] at hlength hb
  have hmember : ∀ m ∈ ms, Reads (member item budget) (prettyMember (level + 1) m).toList (normalMember m) := by
    intro m hm
    refine reads_member (level + 1) (hread m hm) (hopen m hm) ?_
    have hpiece := length_le_inside_map level (fun m => (prettyMember (level + 1) m).toList) hm
    obtain ⟨hname, -⟩ := length_le_prettyMember (level + 1) m
    omega
  have hopens : ∀ m ∈ ms, Opens (prettyMember (level + 1) m).toList := by
    rintro ⟨name, v⟩ -
    rw [prettyMember, String.toList_append, String.toList_append, literal_toList]
    exact ⟨'"', _, rfl, by decide, by decide, by decide⟩
  have hlast : ms.length ≤ budget := by omega
  have hmembers := reads_members level hmember hopens hlast rest
  rw [normal, normalMembers_eq_map, List.cons_append, List.append_assoc, List.singleton_append]
  show (members item budget _ >>= _) = _
  rw [hmembers]
  rfl

end Value

/-- A plain value is read from its text, whatever stands behind it. -/
theorem reads_value {depth : Nat} {j : Json} (h : Plain depth j) (level : Nat) {budget : Nat}
    (hb : (prettyAt level j).toList.length ≤ budget) : Reads (value budget depth) (prettyAt level j).toList j.normal := by
  induction depth generalizing j level with
  | zero => exact reads_leaf h (fun xs hxs => by subst hxs; exact h) (fun ms hms => by subst hms; exact h) hb
  | succ depth ih =>
    cases j with
    | arr xs =>
      refine reads_arr (fun x hx => ih (h x hx) (level + 1) ?_) (fun x hx => opens_of_plain (h x hx) _) hb
      have hpiece := length_le_inside_map level (fun x => (prettyAt (level + 1) x).toList) hx
      rw [prettyAt_arr_toList, List.length_cons, List.length_append] at hb
      omega
    | obj ms =>
      refine reads_obj (fun m hm => ih (h m hm) (level + 1) ?_) (fun m hm => opens_of_plain (h m hm) _) hb
      have hpiece := length_le_inside_map level (fun m => (prettyMember (level + 1) m).toList) hm
      obtain ⟨-, hvalue⟩ := length_le_prettyMember (level + 1) m
      rw [prettyAt_obj_toList, List.length_cons, List.length_append] at hb
      omega
    | _ => exact reads_leaf h nofun nofun hb

/-- **A plain value is read back from its text**, with the members of its objects in the order of their names. -/
theorem parse_pretty {j : Json} (h : Plain greatestDepth j) : parse (pretty j) = .ok j.normal := by
  have hread := reads_value h 0 (Nat.le_succ _) [] nofun
  have hskip := (opens_of_plain h 0).skipSpace []
  rw [List.append_nil] at hread hskip
  rw [parse, pretty, parseChars, hskip, hread]
  rfl

end ScanDelta.Json

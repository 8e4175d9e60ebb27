import ScanDelta.Proofs.Report.Lines
import ScanDelta.Proofs.Text.Split

/-!
# Texts read line by line

* `readLines s` : the lines of a text; `piecesOf line` : what is read where a line was written;
* `readLines_textOf` : what is read of a text is what is read of its lines, one after another;
* `length_readLines_textOf` : so many lines as were written, and one more for each line feed in them;
* `Unbroken line` : the line is read as it was written; `readLines_textOf_eq_iff` : a text is read as it was written exactly
  if all its lines are;
* `isLineBreak c`, `breaksIn s` : the characters at which a line may end, and those of them in a text; without them it is
  not broken (`unbroken_of_breaksIn`).
-/

set_option autoImplicit false

namespace ScanDelta.Report

open Text

/-! ## Reading -/

/-- A carriage return in front of a line feed belongs to the line feed. -/
def withoutReturn (cs : List Char) : List Char := if cs.getLast? = some '\r' then cs.dropLast else cs

/-- The pieces between line feeds as lines; what stands behind the last line feed is a line if it is not empty. -/
def readPieces : List (List Char) → List String
  | [] => []
  | [last] => if last.isEmpty then [] else [String.ofList last]
  | p :: q :: ps => String.ofList (withoutReturn p) :: readPieces (q :: ps)

/-- The lines of a text. -/
def readLines (s : String) : List String := readPieces (splitOn '\n' s.toList)

/-- What is read where this line was written. -/
def piecesOf (line : String) : List String := (splitOn '\n' line.toList).map fun p => String.ofList (withoutReturn p)

theorem readPieces_append (ps : List (List Char)) {qs : List (List Char)} (h : qs ≠ []) :
    readPieces (ps ++ qs) = (ps.map fun p => String.ofList (withoutReturn p)) ++ readPieces qs := by
  induction ps with
  | nil => rfl
  | cons p ps ih =>
    have hne : ps ++ qs ≠ [] := List.append_ne_nil_of_right_ne_nil ps h
    rw [List.map_cons, List.cons_append, List.cons_append, ← ih]
    cases hrest : ps ++ qs with
    | nil => exact absurd hrest hne
    | cons q rest => rfl

/-- The lines of a text are read one after another. -/
theorem readLines_textOf (ls : List String) : readLines (textOf ls) = ls.flatMap piecesOf := by
  induction ls with
  | nil => rfl
  | cons l ls ih =>
    have htext : (textOf (l :: ls)).toList = l.toList ++ '\n' :: (textOf ls).toList := by
      rw [textOf, List.map_cons, String.join_cons, String.toList_append, String.toList_append, List.append_assoc]
      rfl
    rw [List.flatMap_cons, ← ih, readLines, htext, splitOn_append, readPieces_append _ (splitOn_ne_nil '\n' _)]
    rfl

theorem readLines_textOf_append (xs ys : List String) :
    readLines (textOf (xs ++ ys)) = readLines (textOf xs) ++ readLines (textOf ys) := by
  rw [readLines_textOf, readLines_textOf, readLines_textOf, List.flatMap_append]

/-! ## How many lines are read -/

/-- The number of line feeds in a text. -/
def feeds (s : String) : Nat := s.toList.count '\n'

theorem feeds_append (s t : String) : feeds (s ++ t) = feeds s + feeds t := by
  rw [feeds, String.toList_append, List.count_append]
  rfl

theorem feeds_eq_zero_iff (s : String) : feeds s = 0 ↔ '\n' ∉ s.toList := List.count_eq_zero

theorem length_piecesOf (line : String) : (piecesOf line).length = feeds line + 1 := by
  rw [piecesOf, List.length_map, length_splitOn]
  rfl

/-- Each line feed in a line makes one more line. -/
theorem length_readLines_textOf (ls : List String) :
    (readLines (textOf ls)).length = ls.length + feeds (String.join ls) := by
  rw [readLines_textOf]
  induction ls with
  | nil => rfl
  | cons l ls ih =>
    rw [List.flatMap_cons, List.length_append, length_piecesOf, ih, List.length_cons, String.join_cons, feeds_append]
    omega

/-! ## Lines that are read as they were written -/

/-- No line feed stands in the line, and no carriage return at its end. -/
structure Unbroken (line : String) : Prop where
  noFeed : '\n' ∉ line.toList
  noReturn : line.toList.getLast? ≠ some '\r'

theorem unbroken_iff (line : String) : Unbroken line ↔ '\n' ∉ line.toList ∧ line.toList.getLast? ≠ some '\r' :=
  ⟨fun h => ⟨h.noFeed, h.noReturn⟩, fun h => ⟨h.1, h.2⟩⟩

instance (line : String) : Decidable (Unbroken line) := decidable_of_iff _ (unbroken_iff line).symm

/-- A text before the line changes nothing if it is unbroken itself. -/
theorem unbroken_append_iff {before : String} (h : Unbroken before) (line : String) :
    Unbroken (before ++ line) ↔ Unbroken line := by
  rw [unbroken_iff, unbroken_iff, String.toList_append, List.mem_append, List.getLast?_append]
  cases hlast : line.toList.getLast? with
  | none => simp [h.noFeed, h.noReturn]
  | some c => simp [h.noFeed]

theorem withoutReturn_eq_iff (cs : List Char) : withoutReturn cs = cs ↔ cs.getLast? ≠ some '\r' := by
  unfold withoutReturn
  split
  · rename_i hlast
    refine ⟨fun h => ?_, fun h => absurd hlast h⟩
    have hne : cs ≠ [] := by
      intro hnil
      rw [hnil] at hlast
      cases hlast
    have hlength := congrArg List.length h
    rw [List.length_dropLast] at hlength
    have hpos := List.length_pos_iff.2 hne
    omega
  · rename_i hlast
    exact ⟨fun _ => hlast, fun _ => rfl⟩

theorem piecesOf_eq_singleton_iff (line : String) : piecesOf line = [line] ↔ Unbroken line := by
  have hone : '\n' ∉ line.toList → piecesOf line = [String.ofList (withoutReturn line.toList)] := by
    intro hfeed
    rw [piecesOf, splitOn_eq, List.splitOn_eq_singleton hfeed]
    rfl
  constructor
  · intro h
    have hfeed : '\n' ∉ line.toList := by
      have hlength := length_piecesOf line
      rw [h, List.length_singleton] at hlength
      exact (feeds_eq_zero_iff line).1 (by omega)
    rw [hone hfeed] at h
    have hchars := congrArg String.toList (List.cons.inj h).1
    rw [String.toList_ofList] at hchars
    exact ⟨hfeed, (withoutReturn_eq_iff line.toList).1 hchars⟩
  · intro h
    rw [hone h.noFeed, (withoutReturn_eq_iff line.toList).2 h.noReturn, String.ofList_toList]

/-- A text is read as it was written exactly if each of its lines is. -/
theorem readLines_textOf_eq_iff (ls : List String) : readLines (textOf ls) = ls ↔ ∀ l ∈ ls, Unbroken l := by
  rw [readLines_textOf]
  induction ls with
  | nil => simp
  | cons l ls ih =>
    rw [List.flatMap_cons, List.forall_mem_cons, ← ih, ← piecesOf_eq_singleton_iff]
    constructor
    · intro h
      -- as many lines are read as there are: none of them is broken, the first is the first
      have hlength := length_readLines_textOf (l :: ls)
      rw [readLines_textOf, List.flatMap_cons, h, String.join_cons, feeds_append] at hlength
      have hone : (piecesOf l).length = 1 := by
        rw [length_piecesOf]
        omega
      have hcut : piecesOf l ++ ls.flatMap piecesOf = [l] ++ ls := h
      exact List.append_inj hcut hone
    · rintro ⟨hl, hls⟩
      rw [hl, hls]
      rfl

/-! ## Line breaks -/

/-- Line feed, vertical tab, form feed, carriage return, next line, line separator, paragraph separator. -/
def isLineBreak (c : Char) : Bool :=
  (0x0A ≤ c.toNat && c.toNat ≤ 0x0D) || c.toNat = 0x85 || c.toNat = 0x2028 || c.toNat = 0x2029

/-- The line breaks in a text, in order. -/
def breaksIn (s : String) : List Char := s.toList.filter isLineBreak

theorem breaksIn_append (s t : String) : breaksIn (s ++ t) = breaksIn s ++ breaksIn t := by
  rw [breaksIn, String.toList_append, List.filter_append]
  rfl

theorem breaksIn_join (ss : List String) : breaksIn (String.join ss) = ss.flatMap breaksIn := by
  induction ss with
  | nil => rfl
  | cons s ss ih => rw [String.join_cons, breaksIn_append, ih, List.flatMap_cons]

theorem isBlank_of_isLineBreak {c : Char} (h : isLineBreak c = true) : isBlank c = true := by
  simp only [isLineBreak, Bool.or_eq_true, Bool.and_eq_true, decide_eq_true_eq] at h
  simp only [isBlank, blankRanges, List.any_cons, List.any_nil, Bool.or_eq_true, Bool.and_eq_true, decide_eq_true_eq]
  omega

theorem mem_breaksIn_iff {c : Char} (h : isLineBreak c = true) (s : String) : c ∈ breaksIn s ↔ c ∈ s.toList := by
  rw [breaksIn, List.mem_filter, and_iff_left h]

theorem count_feed_breaksIn (s : String) : (breaksIn s).count '\n' = feeds s := List.count_filter rfl

/-- A text whose only blanks are spaces has no line breaks. -/
theorem breaksIn_eq_nil_of_spaces {s : String} (h : ∀ c ∈ s.toList, isBlank c = true → c = ' ') : breaksIn s = [] := by
  rw [breaksIn, List.filter_eq_nil_iff]
  intro c hc hbreak
  rw [h c hc (isBlank_of_isLineBreak hbreak)] at hbreak
  exact absurd hbreak (by decide)

theorem breaksIn_natText (n : Nat) : breaksIn (natText n) = [] := by
  refine breaksIn_eq_nil_of_spaces fun c hc hblank => ?_
  rw [natText, String.toList_ofList] at hc
  rw [isBlank_of_isDigit (isDigit_of_mem_natChars hc)] at hblank
  cases hblank

/-- A text without line breaks is not broken. -/
theorem unbroken_of_breaksIn {s : String} (h : breaksIn s = []) : Unbroken s := by
  have hnot : ∀ c, isLineBreak c = true → c ∉ s.toList := by
    intro c hc
    rw [← mem_breaksIn_iff hc, h]
    exact List.not_mem_nil
  exact ⟨hnot '\n' rfl, fun hlast => hnot '\r' rfl (List.mem_of_getLast? hlast)⟩

end ScanDelta.Report

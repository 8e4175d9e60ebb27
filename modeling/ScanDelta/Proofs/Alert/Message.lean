import ScanDelta.Alert.Message
import ScanDelta.Proofs.Text.Words

/-!
# What becomes of a message

* `OneLine s` : a text within the limit with no blanks but single spaces inside;
* `Shortened ws s` : what becomes of a message with these words;
* `exists_sanitize_eq` : a sanitized message consists of words with single spaces between them, within the limit;
* `sanitize_joinWith` : nothing becomes of a message that does, so that a second pass changes nothing
  (`sanitize_sanitize`);
* `sanitize_puts_words_on_one_line` : all of it, for every message.
-/

set_option autoImplicit false

namespace ScanDelta.Message

open Text

/-- Not empty, at most 220 characters, and no blanks but single spaces inside. -/
structure OneLine (s : String) : Prop where
  ne_empty : s ≠ ""
  length_le : s.length ≤ 220
  singleSpaced : SingleSpaced s.toList

/-- What becomes of a message with these words: the placeholder if there are none, else the words with single spaces
between them, of which only the first 217 characters and three dots are left if they are more than 220. -/
structure Shortened (ws : List (List Char)) (s : String) : Prop where
  placeholder : ws = [] → s = "(no message provided)"
  whole : ws ≠ [] → (joinWith ' ' ws).length ≤ 220 → s.toList = joinWith ' ' ws
  cut : 220 < (joinWith ' ' ws).length → s.toList = (joinWith ' ' ws).take 217 ++ ['.', '.', '.'] ∧ s.length = 220

/-! ## Cutting -/

theorem cut_of_le {cs : List Char} (h : cs.length ≤ limit) : cut cs = cs := by
  rw [cut, if_neg (Nat.not_lt.2 h)]

theorem cut_of_lt {cs : List Char} (h : limit < cs.length) : cut cs = cs.take 217 ++ ellipsis := by
  rw [cut, if_pos h]
  rfl

theorem length_cut_of_lt {cs : List Char} (h : limit < cs.length) : (cut cs).length = limit := by
  have hdots : ellipsis.length = 3 := rfl
  have hlimit : limit = 220 := rfl
  rw [cut_of_lt h, List.length_append, List.length_take, hdots]
  omega

theorem length_cut_le (cs : List Char) : (cut cs).length ≤ limit := by
  by_cases h : limit < cs.length
  · exact Nat.le_of_eq (length_cut_of_lt h)
  · rw [cut_of_le (Nat.not_lt.1 h)]
    exact Nat.not_lt.1 h

theorem isWord_ellipsis : IsWord ellipsis := by
  have hall : (ellipsis.all fun c => !isBlank c) = true := by decide
  exact ⟨List.cons_ne_nil _ _, by simpa using hall⟩

/-- A cut text of words consists of words: the dots make the last one longer or are one themselves. -/
theorem exists_cut_joinWith_eq {ws : List (List Char)} (h : ∀ w ∈ ws, IsWord w) (hne : ws ≠ []) :
    ∃ vs, vs ≠ [] ∧ (∀ v ∈ vs, IsWord v) ∧ cut (joinWith ' ' ws) = joinWith ' ' vs := by
  by_cases hlt : limit < (joinWith ' ' ws).length
  · rw [cut_of_lt hlt]
    exact exists_joinWith_eq_take_append h isWord_ellipsis 217
  · exact ⟨ws, hne, h, cut_of_le (Nat.not_lt.1 hlt)⟩

/-! ## Words and messages -/

theorem joinWith_ne_nil {ws : List (List Char)} (h : ∀ w ∈ ws, IsWord w) (hne : ws ≠ []) : joinWith ' ' ws ≠ [] := by
  obtain ⟨a, ha, -⟩ := exists_head?_joinWith h hne
  intro hnil
  rw [hnil] at ha
  cases ha

theorem sanitize_of_words_eq_nil {raw : Option String} (h : words (raw.getD "").toList = []) :
    sanitize raw = placeholder := by
  rw [sanitize, flatten, h]
  rfl

theorem sanitize_of_words_ne_nil {raw : Option String} (h : words (raw.getD "").toList ≠ []) :
    sanitize raw = String.ofList (cut (joinWith ' ' (words (raw.getD "").toList))) := by
  have hflat : ¬ (flatten (raw.getD "").toList).isEmpty = true := by
    rw [List.isEmpty_iff]
    exact joinWith_ne_nil (fun w => isWord_of_mem_words) h
  rw [sanitize, if_neg hflat]
  rfl

theorem shortened_sanitize (raw : Option String) : Shortened (words (raw.getD "").toList) (sanitize raw) := by
  constructor
  case placeholder => exact fun h => sanitize_of_words_eq_nil h
  case whole =>
    intro hne hle
    rw [sanitize_of_words_ne_nil hne, String.toList_ofList, cut_of_le hle]
  case cut =>
    intro hlt
    have hne : words (raw.getD "").toList ≠ [] := by
      intro hnil
      rw [hnil] at hlt
      simp [joinWith] at hlt
    rw [sanitize_of_words_ne_nil hne, String.toList_ofList, String.length_ofList]
    exact ⟨cut_of_lt hlt, length_cut_of_lt hlt⟩

/-- A message that consists of words with single spaces, within the limit, stays as it is. -/
theorem sanitize_joinWith {ws : List (List Char)} (h : ∀ w ∈ ws, IsWord w) (hne : ws ≠ [])
    (hle : (joinWith ' ' ws).length ≤ limit) :
    sanitize (some (String.ofList (joinWith ' ' ws))) = String.ofList (joinWith ' ' ws) := by
  have hread : words ((some (String.ofList (joinWith ' ' ws))).getD "").toList = ws := by
    rw [Option.getD_some, String.toList_ofList]
    exact words_joinWith h
  have hwords := hread.symm ▸ hne
  rw [sanitize_of_words_ne_nil hwords, hread, cut_of_le hle]

/-- Every sanitized message is such a message. -/
theorem exists_sanitize_eq (raw : Option String) :
    ∃ ws, ws ≠ [] ∧ (∀ w ∈ ws, IsWord w) ∧ (joinWith ' ' ws).length ≤ limit ∧
      sanitize raw = String.ofList (joinWith ' ' ws) := by
  by_cases hnil : words (raw.getD "").toList = []
  · refine ⟨words placeholder.toList, by decide, fun w => isWord_of_mem_words, by decide, ?_⟩
    rw [sanitize_of_words_eq_nil hnil]
    decide
  · obtain ⟨vs, hne, hwords, heq⟩ := exists_cut_joinWith_eq (fun w => isWord_of_mem_words) hnil
    refine ⟨vs, hne, hwords, ?_, ?_⟩
    · rw [← heq]
      exact length_cut_le _
    · rw [sanitize_of_words_ne_nil hnil, heq]

/-- Sanitizing a sanitized message changes nothing. -/
theorem sanitize_sanitize (raw : Option String) : sanitize (some (sanitize raw)) = sanitize raw := by
  obtain ⟨ws, hne, hwords, hle, heq⟩ := exists_sanitize_eq raw
  rw [heq]
  exact sanitize_joinWith hwords hne hle

theorem oneLine_sanitize (raw : Option String) : OneLine (sanitize raw) := by
  obtain ⟨ws, hne, hwords, hle, heq⟩ := exists_sanitize_eq raw
  rw [heq]
  constructor
  case ne_empty =>
    rw [ne_eq, String.ofList_eq_empty_iff]
    exact joinWith_ne_nil hwords hne
  case length_le =>
    rw [String.length_ofList]
    exact hle
  case singleSpaced =>
    rw [String.toList_ofList]
    exact singleSpaced_joinWith hwords

/-- **A message becomes its words on one line.** Whatever the message is, if there is one, it has words, the maximal runs
of characters that are not blank, and becomes what `Shortened` says of these. The result is on one line and stays as it
is when it is sanitized again. -/
theorem sanitize_puts_words_on_one_line (raw : Option String) :
    ∃ ws, (∀ vs, MadeOf (raw.getD "").toList vs ↔ vs = ws) ∧ Shortened ws (sanitize raw) ∧ OneLine (sanitize raw) ∧
      sanitize (some (sanitize raw)) = sanitize raw :=
  ⟨words (raw.getD "").toList, madeOf_iff _, shortened_sanitize raw, oneLine_sanitize raw, sanitize_sanitize raw⟩

example : sanitize (some "  multi\nline\t\tmessage  ") = "multi line message" := by decide

end ScanDelta.Message

import ScanDelta.Text.Blank
import ScanDelta.Text.Split

/-!
# The words of a text

* `IsWord w` : characters, at least one, none of them blank;
* `MadeOf cs ws` : the text consists of these words with blanks around them, at least one between any two;
* `madeOf_iff` : the words of a text are the ones it is made of, and no others;
* `words_joinWith` : words with single spaces between them are found again;
* `SingleSpaced cs` : every blank of the text is a space between two characters that are not blank;
* `exists_joinWith_eq_take_append` : words with single spaces, cut anywhere and with a word put behind the cut, are words
  with single spaces again.
-/

set_option autoImplicit false

namespace ScanDelta.Text

/-- Characters, at least one, none of them blank. -/
structure IsWord (w : List Char) : Prop where
  ne_nil : w ≠ []
  not_blank : ∀ c ∈ w, isBlank c = false

/-- The text consists of these words, with blanks around them. Behind a word is the end or a blank: words are as long as
they can be. -/
inductive MadeOf : List Char → List (List Char) → Prop
  | blanks {gap : List Char} (hgap : ∀ c ∈ gap, isBlank c = true) : MadeOf gap []
  | word {gap w rest : List Char} {ws : List (List Char)} (hgap : ∀ c ∈ gap, isBlank c = true) (hw : IsWord w)
      (hend : ∀ c ∈ rest.head?, isBlank c = true) (hrest : MadeOf rest ws) : MadeOf (gap ++ (w ++ rest)) (w :: ws)

/-! ## Reading words -/

theorem pieces_eq_splitOnP (cs : List Char) : pieces cs = cs.splitOnP isBlank := by
  induction cs with
  | nil => rfl
  | cons c cs ih =>
    rw [pieces, List.splitOnP_cons_eq_if_modifyHead, ih]
    by_cases hc : isBlank c = true
    · rw [if_pos hc, if_pos hc]
    · rw [if_neg hc, if_neg hc]
      cases hps : cs.splitOnP isBlank with
      | nil => exact absurd hps (List.splitOnP_ne_nil isBlank cs)
      | cons p ps => rfl

theorem words_cons_blank {c : Char} (hc : isBlank c = true) (cs : List Char) : words (c :: cs) = words cs := by
  rw [words, pieces, if_pos hc]
  rfl

theorem words_append_of_blanks {gap : List Char} (hgap : ∀ c ∈ gap, isBlank c = true) (cs : List Char) :
    words (gap ++ cs) = words cs := by
  induction gap with
  | nil => rfl
  | cons c gap ih =>
    rw [List.cons_append, words_cons_blank (hgap c List.mem_cons_self)]
    exact ih fun d hd => hgap d (List.mem_cons_of_mem c hd)

/-- A word that ends where the text ends or at a blank is read as a whole. -/
theorem words_append {w rest : List Char} (hw : IsWord w) (hend : ∀ c ∈ rest.head?, isBlank c = true) :
    words (w ++ rest) = w :: words rest := by
  have hkeep : ¬ w.isEmpty = true := fun h => hw.ne_nil (List.isEmpty_iff.1 h)
  cases rest with
  | nil =>
    rw [List.append_nil, words, pieces_eq_splitOnP, List.splitOnP_eq_singleton hw.not_blank,
      List.filter_cons_of_pos (by simpa using hkeep)]
    rfl
  | cons c rest =>
    have hc : isBlank c = true := hend c rfl
    rw [words_cons_blank hc, words, pieces_eq_splitOnP, List.splitOnP_append_cons_of_forall_mem hw.not_blank c hc,
      List.filter_cons_of_pos (by simpa using hkeep), words, pieces_eq_splitOnP]

theorem MadeOf.words_eq {cs : List Char} {ws : List (List Char)} (h : MadeOf cs ws) : words cs = ws := by
  induction h with
  | @blanks gap hgap =>
    have hnone := words_append_of_blanks hgap []
    rwa [List.append_nil] at hnone
  | word hgap hw hend _ ih => rw [words_append_of_blanks hgap, words_append hw hend, ih]

/-! ## Every text is made of words -/

theorem MadeOf.cons_blank {c : Char} {cs : List Char} {ws : List (List Char)} (h : MadeOf cs ws)
    (hc : isBlank c = true) : MadeOf (c :: cs) ws := by
  cases h with
  | blanks hgap => exact .blanks (List.forall_mem_cons.2 ⟨hc, hgap⟩)
  | word hgap hw hend hrest => exact .word (List.forall_mem_cons.2 ⟨hc, hgap⟩) hw hend hrest

theorem MadeOf.cons_word {w rest : List Char} {ws : List (List Char)} (h : MadeOf rest ws) (hw : IsWord w)
    (hend : ∀ c ∈ rest.head?, isBlank c = true) : MadeOf (w ++ rest) (w :: ws) :=
  @MadeOf.word [] w rest ws (by simp) hw hend h

/-- A character that is not blank begins a word of its own or makes the first word longer. -/
theorem MadeOf.exists_cons {c : Char} {cs : List Char} {ws : List (List Char)} (h : MadeOf cs ws)
    (hc : isBlank c = false) : ∃ vs, MadeOf (c :: cs) vs := by
  have hsingle : IsWord [c] := ⟨List.cons_ne_nil c [], by simpa using hc⟩
  have hbegin : (∀ d ∈ cs.head?, isBlank d = true) → MadeOf (c :: cs) ([c] :: ws) := h.cons_word hsingle
  cases h with
  | blanks hgap => exact ⟨_, hbegin fun d hd => hgap d (List.mem_of_head? hd)⟩
  | @word gap w rest ws hgap hw hend hrest =>
    cases gap with
    | nil =>
      have hlonger : IsWord (c :: w) := ⟨List.cons_ne_nil c w, List.forall_mem_cons.2 ⟨hc, hw.not_blank⟩⟩
      exact ⟨_, hrest.cons_word hlonger hend⟩
    | cons d gap =>
      refine ⟨_, hbegin fun d' hd' => ?_⟩
      obtain rfl := Option.some.inj hd'
      exact hgap d List.mem_cons_self

theorem exists_madeOf (cs : List Char) : ∃ ws, MadeOf cs ws := by
  induction cs with
  | nil => exact ⟨[], .blanks (by simp)⟩
  | cons c cs ih =>
    obtain ⟨ws, h⟩ := ih
    cases hc : isBlank c with
    | true => exact ⟨ws, h.cons_blank hc⟩
    | false => exact h.exists_cons hc

theorem madeOf_words (cs : List Char) : MadeOf cs (words cs) := by
  obtain ⟨ws, h⟩ := exists_madeOf cs
  rwa [h.words_eq]

/-- The words of a text are the maximal runs of characters that are not blank. -/
theorem madeOf_iff (cs : List Char) (ws : List (List Char)) : MadeOf cs ws ↔ ws = words cs := by
  constructor
  · intro h
    exact h.words_eq.symm
  · rintro rfl
    exact madeOf_words cs

theorem words_eq_nil_iff (cs : List Char) : words cs = [] ↔ ∀ c ∈ cs, isBlank c = true := by
  rw [eq_comm, ← madeOf_iff]
  constructor
  · intro h
    cases h with
    | blanks hgap => exact hgap
  · exact .blanks

theorem MadeOf.isWord {cs : List Char} {ws : List (List Char)} (h : MadeOf cs ws) : ∀ w ∈ ws, IsWord w := by
  induction h with
  | blanks => simp
  | word _ hw _ _ ih => exact List.forall_mem_cons.2 ⟨hw, ih⟩

theorem isWord_of_mem_words {cs w : List Char} (h : w ∈ words cs) : IsWord w := (madeOf_words cs).isWord w h

/-! ## Single spaces -/

theorem joinWith_singleton (sep : Char) (w : List Char) : joinWith sep [w] = w := List.intercalate_singleton

theorem joinWith_cons {ws : List (List Char)} (hne : ws ≠ []) (sep : Char) (w : List Char) :
    joinWith sep (w :: ws) = w ++ sep :: joinWith sep ws := by
  obtain ⟨v, vs, rfl⟩ := List.exists_cons_of_ne_nil hne
  rw [joinWith, List.intercalate_cons_cons, List.append_assoc]
  rfl

/-- Words with single spaces between them are found again. -/
theorem words_joinWith {ws : List (List Char)} (h : ∀ w ∈ ws, IsWord w) : words (joinWith ' ' ws) = ws := by
  induction ws with
  | nil => rfl
  | cons w ws ih =>
    obtain ⟨hw, hws⟩ := List.forall_mem_cons.1 h
    by_cases hne : ws = []
    · subst hne
      have hread : words (w ++ []) = w :: words [] := words_append hw (by simp)
      rw [List.append_nil] at hread
      rw [joinWith_singleton, hread]
      rfl
    · have hspace : isBlank ' ' = true := by decide
      rw [joinWith_cons hne, words_append hw (by simpa using hspace), words_cons_blank hspace, ih hws]

/-- Every blank is a space, and the characters before and behind it are there and not blank. -/
def SingleSpaced (cs : List Char) : Prop :=
  ∀ before c after, cs = before ++ c :: after → isBlank c = true →
    c = ' ' ∧ (∃ b ∈ before.getLast?, isBlank b = false) ∧ ∃ a ∈ after.head?, isBlank a = false

theorem IsWord.exists_getLast? {w : List Char} (h : IsWord w) : ∃ b ∈ w.getLast?, isBlank b = false :=
  ⟨w.getLast h.ne_nil, List.getLast?_eq_some_getLast h.ne_nil, h.not_blank _ (List.getLast_mem h.ne_nil)⟩

theorem exists_head?_joinWith {ws : List (List Char)} (h : ∀ w ∈ ws, IsWord w) (hne : ws ≠ []) :
    ∃ a ∈ (joinWith ' ' ws).head?, isBlank a = false := by
  obtain ⟨w, vs, rfl⟩ := List.exists_cons_of_ne_nil hne
  have hw := h w List.mem_cons_self
  obtain ⟨c, w, rfl⟩ := List.exists_cons_of_ne_nil hw.ne_nil
  have hhead : (joinWith ' ' ((c :: w) :: vs)).head? = some c := by
    by_cases hvs : vs = []
    · rw [hvs, joinWith_singleton]
      rfl
    · rw [joinWith_cons hvs]
      rfl
  exact ⟨c, hhead, hw.not_blank c List.mem_cons_self⟩

theorem singleSpaced_joinWith {ws : List (List Char)} (h : ∀ w ∈ ws, IsWord w) : SingleSpaced (joinWith ' ' ws) := by
  induction ws with
  | nil =>
    intro before c after hcs
    simp [joinWith] at hcs
  | cons w ws ih =>
    obtain ⟨hw, hws⟩ := List.forall_mem_cons.1 h
    intro before c after hcs hc
    -- A blank is not one of the characters of the first word.
    have hout : ∀ rest, w ≠ before ++ c :: rest := by
      rintro rest rfl
      simp [hw.not_blank c (by simp)] at hc
    by_cases hne : ws = []
    · rw [hne, joinWith_singleton] at hcs
      exact absurd hcs (hout after)
    · rw [joinWith_cons hne] at hcs
      rcases List.append_eq_append_iff.1 hcs with ⟨between, hbefore, hrest⟩ | ⟨behind, hw', hrest⟩
      · cases between with
        | nil =>
          obtain ⟨rfl, rfl⟩ := List.cons.inj hrest
          rw [hbefore, List.append_nil]
          exact ⟨rfl, hw.exists_getLast?, exists_head?_joinWith hws hne⟩
        | cons d between =>
          obtain ⟨rfl, hin⟩ := List.cons.inj hrest
          obtain ⟨hspace, ⟨b, hb, hblank⟩, hbehind⟩ := ih hws between c after hin hc
          refine ⟨hspace, ⟨b, ?_, hblank⟩, hbehind⟩
          rw [hbefore, List.getLast?_append, List.getLast?_cons, Option.mem_def.1 hb]
          rfl
      · cases behind with
        | nil =>
          obtain ⟨rfl, rfl⟩ := List.cons.inj hrest
          rw [List.append_nil] at hw'
          rw [← hw']
          exact ⟨rfl, hw.exists_getLast?, exists_head?_joinWith hws hne⟩
        | cons d behind =>
          obtain ⟨rfl, -⟩ := List.cons.inj hrest
          exact absurd hw' (hout behind)

/-- Words with single spaces, cut anywhere and with a word put behind the cut, are words with single spaces again: the
cut leaves a part of a word, which the new one makes longer, or a space, behind which the new one stands by itself. -/
theorem exists_joinWith_eq_take_append {ws : List (List Char)} (h : ∀ w ∈ ws, IsWord w) {tail : List Char}
    (htail : IsWord tail) (n : Nat) :
    ∃ vs, vs ≠ [] ∧ (∀ v ∈ vs, IsWord v) ∧ (joinWith ' ' ws).take n ++ tail = joinWith ' ' vs := by
  have hlonger : ∀ part : List Char, (∀ c ∈ part, isBlank c = false) → IsWord (part ++ tail) := fun part hpart =>
    ⟨by simp [htail.ne_nil], List.forall_mem_append.2 ⟨hpart, htail.not_blank⟩⟩
  induction ws generalizing n with
  | nil =>
    refine ⟨[tail], List.cons_ne_nil _ _, by simpa using htail, ?_⟩
    simp [joinWith]
  | cons w ws ih =>
    obtain ⟨hw, hws⟩ := List.forall_mem_cons.1 h
    have hpart := hlonger (w.take n) fun c hc => hw.not_blank c (List.mem_of_mem_take hc)
    by_cases hne : ws = []
    · refine ⟨[w.take n ++ tail], List.cons_ne_nil _ _, by simpa using hpart, ?_⟩
      rw [hne, joinWith_singleton, joinWith_singleton]
    · rw [joinWith_cons hne, List.take_append]
      by_cases hn : n ≤ w.length
      · refine ⟨[w.take n ++ tail], List.cons_ne_nil _ _, by simpa using hpart, ?_⟩
        rw [Nat.sub_eq_zero_of_le hn, List.take_zero, List.append_nil, joinWith_singleton]
      · obtain ⟨vs, hvs, hwords, heq⟩ := ih hws (n - w.length - 1)
        refine ⟨w :: vs, List.cons_ne_nil _ _, List.forall_mem_cons.2 ⟨hw, hwords⟩, ?_⟩
        have hmore : n - w.length = (n - w.length - 1) + 1 := by omega
        rw [hmore, List.take_succ_cons, List.take_of_length_le (by omega), joinWith_cons hvs, ← heq]
        simp only [List.append_assoc, List.cons_append]

end ScanDelta.Text

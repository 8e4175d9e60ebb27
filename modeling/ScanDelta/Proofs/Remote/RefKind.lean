import Mathlib.Data.List.TakeWhile
import ScanDelta.Proofs.Remote.OwnLines
import ScanDelta.Proofs.Remote.Refs

/-!
# The refs of pull requests

* `Unsigned.Denotes cs n` : the characters are a number of 64 bits, with a plus sign in front or without
  (`Unsigned.parseChars?_eq_some_iff`);
* `PullRef ref number` : the ref is that of this pull request; `PullStart ref` : it begins like one;
* `of_eq_pull_iff`, `of_eq_plain_iff`, `of_eq_malformed_iff` : what a ref is taken for;
* `metadata_follows_ref` : what a comparison asks and writes by the form of its ref.
-/

set_option autoImplicit false

namespace ScanDelta

/-! ## Numbers -/

namespace Unsigned

/-- Digits, at least one, behind a plus sign or nothing, whose value is this number of 64 bits. -/
def Denotes (cs : List Char) (n : Nat) : Prop :=
  ∃ ds, (cs = ds ∨ cs = '+' :: ds) ∧ ds ≠ [] ∧ (∀ d ∈ ds, '0' ≤ d ∧ d ≤ '9') ∧
    Nat.ofDigitChars 10 ds 0 = n ∧ n ≤ Nat.pow 2 64 - 1

theorem digitsValue_eq (ds : List Char) : digitsValue ds = Nat.ofDigitChars 10 ds 0 := by
  rw [digitsValue, Nat.ofDigitChars_eq_foldl]
  congr 1
  funext n c
  rw [Nat.mul_comm]

theorem isDigit_iff (d : Char) : d.isDigit = true ↔ '0' ≤ d ∧ d ≤ '9' := by
  rw [Char.isDigit, Bool.and_eq_true, decide_eq_true_iff, decide_eq_true_iff, Char.le_def, Char.le_def]

theorem parseChars?_eq_some_iff (cs : List Char) (n : Nat) : parseChars? cs = some n ↔ Denotes cs n := by
  -- a plus sign is no digit, so that there is one way to take it away
  have hdigits : ∀ ds : List Char, (ds ≠ [] ∧ ∀ d ∈ ds, '0' ≤ d ∧ d ≤ '9') →
      (cs = ds ∨ cs = '+' :: ds) → unsignedDigits cs = ds := by
    rintro ds ⟨hne, hall⟩ (rfl | rfl)
    · rw [unsignedDigits]
      rintro rest rfl
      exact absurd (hall '+' List.mem_cons_self) (by decide)
    · rfl
  have hcs : cs = unsignedDigits cs ∨ cs = '+' :: unsignedDigits cs := by
    unfold unsignedDigits
    split
    · exact .inr rfl
    · exact .inl rfl
  have hread : parseChars? cs = some n ↔ (unsignedDigits cs ≠ [] ∧ ∀ d ∈ unsignedDigits cs, d.isDigit = true) ∧
      digitsValue (unsignedDigits cs) = n ∧ n ≤ greatest := by
    rw [parseChars?, Option.ite_none_left_eq_some, Option.ite_none_right_eq_some, Option.some.injEq, Bool.or_eq_true, not_or,
      List.isEmpty_iff, Bool.not_eq_true', Bool.not_eq_false, List.all_eq_true]
    refine and_congr_right fun _ => ?_
    constructor
    · rintro ⟨hle, rfl⟩
      exact ⟨rfl, hle⟩
    · rintro ⟨rfl, hle⟩
      exact ⟨hle, rfl⟩
  rw [hread]
  simp only [isDigit_iff, digitsValue_eq]
  constructor
  · rintro ⟨⟨hne, hall⟩, hvalue, hle⟩
    exact ⟨unsignedDigits cs, hcs, hne, hall, hvalue, hle⟩
  · rintro ⟨ds, hform, hne, hall, hvalue, hle⟩
    rw [hdigits ds ⟨hne, hall⟩ hform]
    exact ⟨⟨hne, hall⟩, hvalue, hle⟩

end Unsigned

namespace Remote

/-! ## Refs -/

/-- The ref begins like that of a pull request. -/
def PullStart (ref : String) : Prop := "refs/pull/".toList <+: ref.toList

/-- The ref is `refs/pull/`, a segment without slashes that is this number, and nothing or a slash and anything. -/
def PullRef (ref : String) (number : Nat) : Prop :=
  ∃ segment rest, ref.toList = "refs/pull/".toList ++ (segment ++ rest) ∧ '/' ∉ segment ∧
    (rest = [] ∨ ∃ more, rest = '/' :: more) ∧ Unsigned.Denotes segment number

/-- The segment in front of the first slash, or of the end. -/
theorem takeWhile_eq_iff (cs segment : List Char) : cs.takeWhile (· ≠ '/') = segment ↔
    ∃ rest, cs = segment ++ rest ∧ '/' ∉ segment ∧ (rest = [] ∨ ∃ more, rest = '/' :: more) := by
  constructor
  · rintro rfl
    refine ⟨cs.dropWhile (· ≠ '/'), List.takeWhile_append_dropWhile.symm, ?_, ?_⟩
    · intro hmem
      exact absurd (List.mem_takeWhile_imp hmem) (by decide)
    · have hhead := List.head?_dropWhile_not (fun c => decide (c ≠ '/')) cs
      cases hrest : cs.dropWhile (· ≠ '/') with
      | nil => exact .inl rfl
      | cons c more =>
        rw [hrest] at hhead
        obtain rfl : c = '/' := by simpa using hhead
        exact .inr ⟨more, rfl⟩
  · rintro ⟨rest, rfl, hsegment, hrest⟩
    have hkeep : ∀ c ∈ segment, decide (c ≠ '/') = true := by
      intro c hc
      refine decide_eq_true ?_
      rintro rfl
      exact hsegment hc
    rw [List.takeWhile_append_of_pos hkeep]
    rcases hrest with rfl | ⟨more, rfl⟩
    · exact List.append_nil segment
    · rw [List.takeWhile_cons_of_neg (by decide), List.append_nil]

theorem of_eq_plain_iff (ref : String) : RefKind.of ref = .plain ↔ ¬ PullStart ref := by
  have hstart : PullStart ref ↔ pullStart.isPrefixOf ref.toList = true := List.isPrefixOf_iff_prefix.symm
  rw [hstart, RefKind.of]
  split
  · rename_i h
    refine iff_of_false ?_ (not_not_intro h)
    split <;> exact nofun
  · rename_i h
    exact iff_of_true rfl h

/-- A ref with the beginning of a pull request is that of one if its segment is a number. -/
theorem of_of_start {ref : String} {cs : List Char} (h : ref.toList = "refs/pull/".toList ++ cs) :
    RefKind.of ref = (Unsigned.parseChars? (cs.takeWhile (· ≠ '/'))).elim .malformed .pull := by
  have hstart : pullStart.isPrefixOf ref.toList = true := by
    rw [h]
    exact List.isPrefixOf_iff_prefix.2 (List.prefix_append _ _)
  have hdrop : ref.toList.drop pullStart.length = cs := by
    rw [h]
    exact List.drop_left
  rw [RefKind.of, if_pos hstart, hdrop]
  cases Unsigned.parseChars? (cs.takeWhile (· ≠ '/')) <;> rfl

theorem of_eq_pull_iff (ref : String) (number : Nat) : RefKind.of ref = .pull number ↔ PullRef ref number := by
  constructor
  · intro h
    have hstart : PullStart ref := by
      by_contra hnot
      rw [(of_eq_plain_iff ref).2 hnot] at h
      cases h
    obtain ⟨cs, hcs⟩ := hstart
    rw [of_of_start hcs.symm] at h
    cases hparse : Unsigned.parseChars? (cs.takeWhile (· ≠ '/')) with
    | none =>
      rw [hparse] at h
      cases h
    | some n =>
      rw [hparse] at h
      cases h
      obtain ⟨rest, hsplit, hsegment, hrest⟩ := (takeWhile_eq_iff cs _).1 rfl
      refine ⟨_, rest, ?_, hsegment, hrest, (Unsigned.parseChars?_eq_some_iff _ _).1 hparse⟩
      rw [← hsplit, hcs]
  · rintro ⟨segment, rest, href, hsegment, hrest, hnumber⟩
    have htake := (takeWhile_eq_iff (segment ++ rest) segment).2 ⟨rest, rfl, hsegment, hrest⟩
    rw [of_of_start href, htake, (Unsigned.parseChars?_eq_some_iff _ _).2 hnumber]
    rfl

theorem of_ne_pull_iff (ref : String) :
    (∀ number, RefKind.of ref ≠ .pull number) ↔ ∀ number, ¬ PullRef ref number :=
  forall_congr' fun number => not_congr (of_eq_pull_iff ref number)

theorem of_eq_malformed_iff (ref : String) :
    RefKind.of ref = .malformed ↔ PullStart ref ∧ ∀ number, ¬ PullRef ref number := by
  have hplain := of_eq_plain_iff ref
  simp only [← of_eq_pull_iff]
  cases hkind : RefKind.of ref with
  | plain =>
    rw [hkind] at hplain
    exact iff_of_false nofun fun h => hplain.1 rfl h.1
  | malformed =>
    have hstart : PullStart ref := by
      by_contra hnot
      rw [hplain.2 hnot] at hkind
      cases hkind
    exact iff_of_true rfl ⟨hstart, nofun⟩
  | pull number => exact iff_of_false nofun fun h => h.2 number rfl

/-- A ref is that of one pull request. -/
theorem PullRef.unique {ref : String} {number number' : Nat} (h : PullRef ref number) (h' : PullRef ref number') :
    number = number' := by
  rw [← of_eq_pull_iff] at h h'
  rw [h] at h'
  exact RefKind.pull.inj h'

/-! ## What is asked and written -/

section
variable {s : Service} {ref : String}

/-- Behind two primary listings that end, what is asked beside alerts is asked for the pull request. -/
theorem mem_calls_iff_mem_metadataCalls {xs ys : List Json} (hx : EndsWith (s.alertAnswers (some ref)) xs)
    (hy : EndsWith (s.alertAnswers none) ys) {c : Call} (hc : ∀ r page, c ≠ .alerts r page) :
    c ∈ calls (trace (compare s ref)) ↔ c ∈ metadataCalls s ref := by
  have halerts : ∀ r, c ∉ alertCalls s r := by
    intro r hmem
    obtain ⟨page, -, heq⟩ := List.mem_map.1 hmem
    exact hc r page heq.symm
  have hfurther : ∀ target, c ∉ furtherCalls s target := by
    intro target hmem
    cases target with
    | none => cases hmem
    | some t => exact halerts (some t) hmem
  rw [calls_compare, readAll_of_endsWith hx, readAll_of_endsWith hy, laterCalls]
  simp only [List.mem_append, halerts, hfurther, false_or, or_false]

theorem pull_mem_metadataCalls_iff (number : Nat) : .pull number ∈ metadataCalls s ref ↔ PullRef ref number := by
  rw [← of_eq_pull_iff, metadataCalls]
  cases RefKind.of ref with
  | plain | malformed =>
    refine iff_of_false List.not_mem_nil ?_
    intro h
    cases h
  | pull n => simp [eq_comm]

theorem commits_mem_metadataCalls_iff (number : Nat) :
    (∃ page, .commits number page ∈ metadataCalls s ref) ↔ PullRef ref number := by
  rw [← of_eq_pull_iff, metadataCalls]
  cases RefKind.of ref with
  | plain | malformed =>
    refine iff_of_false ?_ ?_
    · rintro ⟨page, hpage⟩
      cases hpage
    · intro h
      cases h
  | pull n =>
    constructor
    · rintro ⟨page, hpage⟩
      rcases List.mem_cons.1 hpage with heq | hpage
      · cases heq
      · obtain ⟨page', -, heq⟩ := List.mem_map.1 hpage
        cases heq
        rfl
    · intro h
      cases h
      exact ⟨1, List.mem_cons_of_mem _ (List.mem_map_of_mem (one_mem_pagesRead _))⟩

/-- Without a pull request, only the two primary listings are asked for. -/
theorem calls_of_not_pullRef (h : ∀ number, ¬ PullRef ref number) {c : Call}
    (hc : c ∈ calls (trace (compare s ref))) : ∃ page, c = .alerts (some ref) page ∨ c = .alerts none page := by
  have hpull := (of_ne_pull_iff ref).2 h
  obtain ⟨r, page, rfl⟩ := alerts_of_mem_calls hpull hc
  have hasked := (asked_iff s ref r).1 ⟨page, hc⟩
  cases hasked with
  | subject => exact ⟨page, .inl rfl⟩
  | default => exact ⟨page, .inr rfl⟩
  | previous _ _ hprevious =>
    obtain ⟨number, -, -, hn, -⟩ := hprevious
    exact absurd hn (hpull number)
  | base _ _ hbase =>
    rw [baseTarget?, value_pullRefs_of_ne_pull hpull] at hbase
    cases hbase

theorem clear_malformedLabel : Clear malformedLabel := by decide

theorem linesWith_malformedLabel {xs ys : List Json} (hx : EndsWith (s.alertAnswers (some ref)) xs)
    (hy : EndsWith (s.alertAnswers none) ys) :
    linesWith malformedLabel (trace (compare s.silent ref)) = malformedLines ref := by
  have hunlocated := filter_unlocatedLines_of_apart (show Apart apiLabel malformedLabel by decide)
  rw [linesWith_compare s clear_malformedLabel, remarks, readAll_of_endsWith hx, readAll_of_endsWith hy]
  simp only [List.filter_append, hunlocated, filter_malformedLines, List.nil_append, List.append_nil]

theorem malformedLines_of_malformed (hstart : PullStart ref) (h : ∀ number, ¬ PullRef ref number) :
    malformedLines ref = [malformedLine ref] := by
  rw [malformedLines, (of_eq_malformed_iff ref).2 ⟨hstart, h⟩]

theorem malformedLines_of_pullRef {number : Nat} (h : PullRef ref number) : malformedLines ref = [] := by
  rw [malformedLines, (of_eq_pull_iff ref number).2 h]

theorem malformedLines_of_not_pullStart (h : ¬ PullStart ref) : malformedLines ref = [] := by
  rw [malformedLines, (of_eq_plain_iff ref).2 h]

end

/-- **The form of a ref decides what is asked of pull requests.** Behind two primary listings that end, a pull request
and its commits are asked for exactly if the ref is that of one, with the number in it. Otherwise nothing but the two
listings is asked for, and there are no further comparisons; one line says so if the ref begins like that of a pull
request, and nothing is left of the ref if it does not. -/
theorem metadata_follows_ref {s : Service} {ref : String} {xs ys : List Json}
    (hx : EndsWith (s.alertAnswers (some ref)) xs) (hy : EndsWith (s.alertAnswers none) ys) :
    (∀ number, .pull number ∈ calls (trace (compare s ref)) ↔ PullRef ref number) ∧
    (∀ number, (∃ page, .commits number page ∈ calls (trace (compare s ref))) ↔ PullRef ref number) ∧
    (∀ number number', PullRef ref number → PullRef ref number' → number = number') ∧
    ((∀ number, ¬ PullRef ref number) →
      (∀ c ∈ calls (trace (compare s ref)), ∃ page, c = .alerts (some ref) page ∨ c = .alerts none page) ∧
      ∃ c, result (compare s ref) = .ok c ∧ c.vsPreviousCommit = none ∧ c.vsBranchPoint = none) ∧
    (PullStart ref → (∀ number, ¬ PullRef ref number) →
      linesWith "Could not determine PR base/previous commit for ref " (trace (compare s.silent ref)) =
        ["Could not determine PR base/previous commit for ref " ++ ref ++ ": malformed pull request ref"]) ∧
    (∀ number, PullRef ref number →
      linesWith "Could not determine PR base/previous commit for ref " (trace (compare s.silent ref)) = []) ∧
    (¬ PullStart ref → (pullRefs s ref).events = [] ∧
      linesWith "Could not determine PR base/previous commit for ref " (trace (compare s.silent ref)) = []) ∧
    trace (compare s ref) = withNotes s (trace (compare s.silent ref)) ∧
    ∀ (c : Client) repo, s = c.service repo →
      linesWith "Could not determine PR base/previous commit for ref " (trace (compare s ref)) =
        linesWith "Could not determine PR base/previous commit for ref " (trace (compare s.silent ref)) := by
  have hlines := linesWith_malformedLabel hx hy
  refine ⟨?_, ?_, fun _ _ => PullRef.unique, ?_, ?_, ?_, ?_, trace_compare_silent s ref, ?_⟩
  · intro number
    have hquestion : ∀ r page, Call.pull number ≠ .alerts r page := nofun
    rw [mem_calls_iff_mem_metadataCalls hx hy hquestion]
    exact pull_mem_metadataCalls_iff number
  · intro number
    have hquestion : ∀ page r page', Call.commits number page ≠ .alerts r page' := nofun
    rw [← commits_mem_metadataCalls_iff (s := s)]
    exact exists_congr fun page => mem_calls_iff_mem_metadataCalls hx hy (hquestion page)
  · intro h
    have hpull := (of_ne_pull_iff ref).2 h
    refine ⟨fun c => calls_of_not_pullRef h, _, (compare_eq_ok_iff s ref _).2 ⟨xs, ys, hx, hy, rfl⟩, ?_, ?_⟩
    · rw [vsPreviousCommit_comparisonOf, value_pullRefs_of_ne_pull hpull]
      rfl
    · rw [vsBranchPoint_comparisonOf, value_pullRefs_of_ne_pull hpull]
      rfl
  · intro hstart h
    exact hlines.trans (malformedLines_of_malformed hstart h)
  · intro number h
    exact hlines.trans (malformedLines_of_pullRef h)
  · intro h
    refine ⟨?_, hlines.trans (malformedLines_of_not_pullStart h)⟩
    rw [pullRefs, (of_eq_plain_iff ref).2 h]
    rfl
  · rintro c repo rfl
    exact linesWith_compare_client c clear_malformedLabel repo ref

/-- A pull request, and a ref with a number that does not fit into 64 bits. -/
theorem metadata_follows_ref_twoCommitPages :
    (EndsWith (twoCommitPages.alertAnswers (some "refs/pull/7/merge")) [rawAlert "b"] ∧
      EndsWith (twoCommitPages.alertAnswers none) [rawAlert "a"] ∧ PullRef "refs/pull/7/merge" 7 ∧
      .pull 7 ∈ calls (trace (compare twoCommitPages "refs/pull/7/merge"))) ∧
    EndsWith (twoCommitPages.alertAnswers (some "refs/pull/18446744073709551616")) [rawAlert "b"] ∧
    linesWith "Could not determine PR base/previous commit for ref "
        (trace (compare twoCommitPages.silent "refs/pull/18446744073709551616")) =
      ["Could not determine PR base/previous commit for ref " ++ "refs/pull/18446744073709551616" ++
        ": malformed pull request ref"] := by
  have hlisted : ∀ ref : String, EndsWith (twoCommitPages.alertAnswers (some ref)) [rawAlert "b"] := fun ref =>
    ⟨[[rawAlert "b"]], ⟨rfl, List.cons_ne_nil _ _, trivial⟩, by decide, rfl, rfl⟩
  have hdefault : EndsWith (twoCommitPages.alertAnswers none) [rawAlert "a"] :=
    ⟨[[rawAlert "a"]], ⟨rfl, List.cons_ne_nil _ _, trivial⟩, by decide, rfl, rfl⟩
  have hpull : PullRef "refs/pull/7/merge" 7 := (of_eq_pull_iff _ _).1 (by decide)
  obtain ⟨hstart, hnone⟩ := (of_eq_malformed_iff "refs/pull/18446744073709551616").1 (by decide)
  have hasked := (metadata_follows_ref (hlisted "refs/pull/7/merge") hdefault).1 7
  have hmalformed := (metadata_follows_ref (hlisted "refs/pull/18446744073709551616") hdefault).2.2.2.2.1
  exact ⟨⟨hlisted _, hdefault, hpull, hasked.2 hpull⟩, hlisted _, hmalformed hstart hnone⟩

end Remote

end ScanDelta

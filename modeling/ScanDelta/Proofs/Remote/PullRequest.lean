import ScanDelta.Proofs.Remote.Comparison

/-!
# The further refs of a pull request

* `nonempty? t` : a text, if it is there and not empty; `penultimate? shas` : the commit before the last one;
* `value_pullBaseOf`, `value_previousCommitOf`, `value_pullRefs` : the refs, from the answers of the service;
* `compare_pull_request` : what a comparison says of a pull request beside its first three lists.
-/

set_option autoImplicit false

namespace ScanDelta.Remote

/-! ## Base -/

/-- The text, if it is not empty. -/
def nonempty? (t : Option String) : Option String := t.filter fun r => !r.isEmpty

theorem nonempty?_ne_some_empty (t : Option String) : nonempty? t ≠ some "" := by
  intro h
  have hkept := (Option.filter_eq_some_iff.1 h).2
  cases hkept

theorem value_pullBaseOf (s : Service) (ref : String) (number : Nat) :
    (pullBaseOf s ref number).value = match s.pullAnswer number with
      | .ok b => ⟨nonempty? b.ref, nonempty? b.sha⟩
      | .error _ => ⟨none, none⟩ := by
  rw [pullBaseOf, Traced.bind_value, value_attempt, result_bind, askPull, result_ask]
  simp only [result_decoded]
  show _ = match (s.pull number).value >>= decodedAnswer pullBase with | .ok b => _ | .error _ => _
  cases (s.pull number).value >>= decodedAnswer pullBase <;> rfl

/-! ## Commits -/

/-- The commit before the last one. -/
def penultimate? (shas : List String) : Option String :=
  match shas.reverse with
  | _ :: previous :: _ => some previous
  | _ => none

theorem penultimate?_append (older : List String) (previous last : String) :
    penultimate? (older ++ [previous, last]) = some previous := by
  simp [penultimate?]

theorem penultimate?_eq_some_iff (shas : List String) (t : String) :
    penultimate? shas = some t ↔ ∃ older last, shas = older ++ [t, last] := by
  constructor
  · intro h
    rw [penultimate?] at h
    rcases hr : shas.reverse with _ | ⟨last, _ | ⟨previous, older⟩⟩
    · rw [hr] at h
      cases h
    · rw [hr] at h
      cases h
    · rw [hr] at h
      cases h
      refine ⟨older.reverse, last, ?_⟩
      rw [← List.reverse_reverse shas, hr, List.reverse_cons, List.reverse_cons, List.append_assoc]
      rfl
  · rintro ⟨older, last, rfl⟩
    exact penultimate?_append older t last

theorem penultimate?_eq_none_iff (shas : List String) : penultimate? shas = none ↔ shas.length < 2 := by
  rw [penultimate?, ← List.length_reverse]
  rcases shas.reverse with _ | ⟨last, _ | ⟨previous, older⟩⟩
  · simp
  · simp
  · simp

theorem result_pullCommits (s : Service) (number : Nat) :
    result (pullCommits s number) = readAll (s.commitAnswers number) := by
  rw [pullCommits, result_bind, result_commitsFrom]
  show readAll (s.commitAnswers number) >>= _ = _
  cases readAll (s.commitAnswers number) <;> rfl

theorem value_previousCommitOf (s : Service) (ref : String) (number : Nat) :
    (previousCommitOf s ref number).value = (listed? (s.commitAnswers number)).bind penultimate? := by
  rw [previousCommitOf, Traced.bind_value, value_attempt, result_pullCommits, listed?]
  cases readAll (s.commitAnswers number) with
  | error e => rfl
  | ok shas =>
    show _ = penultimate? shas
    dsimp only
    rw [penultimate?]
    rcases shas.reverse with _ | ⟨last, _ | ⟨previous, older⟩⟩ <;> rfl

/-- The commit before the last one is missing only if there are too few commits or a page of them is. -/
theorem previous_eq_none_iff {s : Service} {number : Nat} (hc : Stops (s.commitAnswers number)) :
    (listed? (s.commitAnswers number)).bind penultimate? = none ↔
      (∃ shas, EndsWith (s.commitAnswers number) shas ∧ shas.length < 2) ∨
        ∃ e, FailsWith (s.commitAnswers number) e := by
  rcases hc with ⟨shas, h⟩ | ⟨e, he⟩
  · rw [(listed?_eq_some_iff _ shas).2 h, Option.bind_some, penultimate?_eq_none_iff]
    constructor
    · intro hlt
      exact .inl ⟨shas, h, hlt⟩
    · rintro (⟨shas', h', hlt⟩ | ⟨e, he⟩)
      · rwa [h.unique h']
      · exact absurd he (h.not_failsWith e)
  · rw [listed?, readAll_of_failsWith he]
    exact ⟨fun _ => .inr ⟨e, he⟩, fun _ => rfl⟩

/-! ## Both -/

theorem value_pullRefs {s : Service} {ref : String} {number : Nat} (h : RefKind.of ref = .pull number) :
    (pullRefs s ref).value = match s.pullAnswer number with
      | .ok b => ⟨nonempty? b.ref, nonempty? b.sha, (listed? (s.commitAnswers number)).bind penultimate?⟩
      | .error _ => ⟨none, none, (listed? (s.commitAnswers number)).bind penultimate?⟩ := by
  rw [pullRefs, h]
  dsimp only
  rw [Traced.bind_value, Traced.bind_value, value_pullBaseOf, value_previousCommitOf]
  cases s.pullAnswer number <;> rfl

/-- Nothing is known of a ref that is none of a pull request. -/
theorem value_pullRefs_of_ne_pull {ref : String} (h : ∀ number, RefKind.of ref ≠ .pull number) (s : Service) :
    (pullRefs s ref).value = ⟨none, none, none⟩ := by
  rw [pullRefs]
  cases href : RefKind.of ref with
  | plain | malformed => rfl
  | pull number => exact absurd href (h number)

/-- The refs depend on two answers: the pull request, and the list of its commits. -/
theorem value_pullRefs_congr {s s' : Service} {ref : String} (h : ∀ number, RefKind.of ref = .pull number →
      s.pullAnswer number = s'.pullAnswer number ∧
        listed? (s.commitAnswers number) = listed? (s'.commitAnswers number)) :
    (pullRefs s ref).value = (pullRefs s' ref).value := by
  cases href : RefKind.of ref with
  | plain => rw [pullRefs, pullRefs, href]
  | malformed => rw [pullRefs, pullRefs, href]
  | pull number =>
    obtain ⟨hpull, hcommits⟩ := h number href
    rw [value_pullRefs href, value_pullRefs href, hpull, hcommits]

/-- What the base of a pull request is compared by, if it is known. -/
def baseTarget? (s : Service) (ref : String) : Option String := (pullRefs s ref).value.baseTarget

theorem pullRefs_eq_of_agree {s s' : Service} {ref : String} {number : Nat} (h : RefKind.of ref = .pull number)
    (hpull : s'.pullAnswer number = s.pullAnswer number)
    (hcommits : Agree (s.commitAnswers number) (s'.commitAnswers number)) :
    (pullRefs s' ref).value = (pullRefs s ref).value := by
  refine value_pullRefs_congr fun number' h' => ?_
  cases h.symm.trans h'
  exact ⟨hpull, hcommits.listed?_eq.symm⟩

/-! ## Further comparisons -/

/-- The listing of the target ends and has alerts, and `x` is the subject against them. -/
def ComparedWith (s : Service) (subject : AlertSet) (target : Option String) (x : Secondary) : Prop :=
  ∃ t items, target = some t ∧ EndsWith (s.alertAnswers (some t)) items ∧ items ≠ [] ∧
    x = ⟨t, (subject.diff (setOf items)).new, (subject.diff (setOf items)).fixed⟩

theorem comparedWith_iff (s : Service) (subject : AlertSet) (target : Option String) (x : Secondary) :
    ComparedWith s subject target x ↔ furtherOf s subject target = some x := by
  rw [furtherOf, Option.bind_eq_some_iff]
  simp only [versus?_eq_some_iff, listed?_eq_some_iff]
  constructor
  · rintro ⟨t, items, ht, hi, hne, hx⟩
    exact ⟨t, ht, items, hi, hne, hx⟩
  · rintro ⟨t, ht, items, hi, hne, hx⟩
    exact ⟨t, items, ht, hi, hne, hx⟩

/-- **What a comparison says of a pull request** beside its first three lists: the base, the commit before the last
one, and the comparisons with these two, each of which depends on nothing but its own listing. -/
theorem compare_pull_request {s : Service} {ref : String} {number : Nat} {xs ys : List Json}
    (href : RefKind.of ref = .pull number) (hx : EndsWith (s.alertAnswers (some ref)) xs)
    (hy : EndsWith (s.alertAnswers none) ys) (hc : Stops (s.commitAnswers number)) :
    ∃ c, result (compare s ref) = .ok c ∧
      (∀ b, s.pullAnswer number = .ok b → c.baseSha = nonempty? b.sha ∧
        baseTarget? s ref = (c.baseSha <|> nonempty? b.ref)) ∧
      (∀ e, s.pullAnswer number = .error e → c.baseSha = none ∧ baseTarget? s ref = none) ∧
      (∀ older previous last, EndsWith (s.commitAnswers number) (older ++ [previous, last]) →
        c.previousCommit = some previous) ∧
      (c.previousCommit = none ↔
        (∃ shas, EndsWith (s.commitAnswers number) shas ∧ shas.length < 2) ∨
          ∃ e, FailsWith (s.commitAnswers number) e) ∧
      (∀ x, c.vsPreviousCommit = some x ↔ ComparedWith s (setOf xs) c.previousCommit x) ∧
      (∀ x, c.vsBranchPoint = some x ↔ ComparedWith s (setOf xs) (baseTarget? s ref) x) ∧
      ∀ s' : Service, EndsWith (s'.alertAnswers (some ref)) xs → EndsWith (s'.alertAnswers none) ys →
        s'.pullAnswer number = s.pullAnswer number →
        Agree (s.commitAnswers number) (s'.commitAnswers number) →
        ∃ c', result (compare s' ref) = .ok c' ∧ c'.primary = c.primary ∧
          c'.baseSha = c.baseSha ∧ baseTarget? s' ref = baseTarget? s ref ∧
          c'.previousCommit = c.previousCommit ∧
          ((∀ t, c.previousCommit = some t → Agree (s.alertAnswers (some t)) (s'.alertAnswers (some t))) →
            c'.vsPreviousCommit = c.vsPreviousCommit) ∧
          ((∀ t, baseTarget? s ref = some t → Agree (s.alertAnswers (some t)) (s'.alertAnswers (some t))) →
            c'.vsBranchPoint = c.vsBranchPoint) := by
  have hprevious : (pullRefs s ref).value.previousCommit = (listed? (s.commitAnswers number)).bind penultimate? := by
    rw [value_pullRefs href]
    cases s.pullAnswer number <;> rfl
  refine ⟨comparisonOf s ref (setOf xs) (setOf ys), (compare_eq_ok_iff s ref _).2 ⟨xs, ys, hx, hy, rfl⟩,
    ?_, ?_, ?_, ?_, ?_, ?_, ?_⟩
  · intro b hb
    rw [baseSha_comparisonOf, baseTarget?, PullRefs.baseTarget, value_pullRefs href, hb]
    exact ⟨rfl, rfl⟩
  · intro e he
    rw [baseSha_comparisonOf, baseTarget?, PullRefs.baseTarget, value_pullRefs href, he]
    exact ⟨rfl, rfl⟩
  · intro older previous last h
    rw [previousCommit_comparisonOf, hprevious, (listed?_eq_some_iff _ _).2 h, Option.bind_some,
      penultimate?_append]
  · rw [previousCommit_comparisonOf, hprevious]
    exact previous_eq_none_iff hc
  · intro x
    rw [comparedWith_iff, vsPreviousCommit_comparisonOf, previousCommit_comparisonOf]
  · intro x
    rw [comparedWith_iff, vsBranchPoint_comparisonOf, baseTarget?]
  · intro s' hx' hy' hpull hcommits
    have hrefs := pullRefs_eq_of_agree href hpull hcommits
    refine ⟨comparisonOf s' ref (setOf xs) (setOf ys), (compare_eq_ok_iff s' ref _).2 ⟨xs, ys, hx', hy', rfl⟩,
      ?_, ?_, ?_, ?_, ?_, ?_⟩
    · rw [primary_comparisonOf, primary_comparisonOf]
    · rw [baseSha_comparisonOf, baseSha_comparisonOf, hrefs]
    · rw [baseTarget?, baseTarget?, hrefs]
    · rw [previousCommit_comparisonOf, previousCommit_comparisonOf, hrefs]
    · intro hagree
      rw [vsPreviousCommit_comparisonOf, vsPreviousCommit_comparisonOf, hrefs]
      exact furtherOf_eq_of_agree _ hagree
    · intro hagree
      rw [vsBranchPoint_comparisonOf, vsBranchPoint_comparisonOf, hrefs]
      exact furtherOf_eq_of_agree _ hagree

/-- A service with a pull request whose base has a name and an empty hash, and three commits on two pages. -/
def twoCommitPages : Service where
  alertPage ref page := pure <| .ok <|
    if page = 1 then [rawAlert (if ref = none then "a" else "b")] else []
  pull _ := pure (.ok (.obj [("base", .obj [("ref", .str "main"), ("sha", .str "")])]))
  commitPage _ page := pure <| .ok <| .arr <|
    if page = 1 then [.obj [("sha", .str "c1")], .obj [("sha", .str "c2")]]
    else if page = 2 then [.obj [("sha", .str "c3")]] else []

theorem compare_twoCommitPages :
    RefKind.of "refs/pull/7/merge" = .pull 7 ∧
    EndsWith (twoCommitPages.alertAnswers (some "refs/pull/7/merge")) [rawAlert "b"] ∧
    EndsWith (twoCommitPages.alertAnswers none) [rawAlert "a"] ∧
    EndsWith (twoCommitPages.commitAnswers 7) ["c1", "c2", "c3"] ∧
    ∃ c, result (compare twoCommitPages "refs/pull/7/merge") = .ok c ∧ c.baseSha = none ∧
      baseTarget? twoCommitPages "refs/pull/7/merge" = some "main" ∧ c.previousCommit = some "c2" ∧
      (c.vsPreviousCommit.map (·.against)) = some "c2" := by
  have href : RefKind.of "refs/pull/7/merge" = .pull 7 := by decide
  have hx : EndsWith (twoCommitPages.alertAnswers (some "refs/pull/7/merge")) [rawAlert "b"] :=
    ⟨[[rawAlert "b"]], ⟨rfl, List.cons_ne_nil _ _, trivial⟩, by decide, rfl, rfl⟩
  have hy : EndsWith (twoCommitPages.alertAnswers none) [rawAlert "a"] :=
    ⟨[[rawAlert "a"]], ⟨rfl, List.cons_ne_nil _ _, trivial⟩, by decide, rfl, rfl⟩
  have hz : EndsWith (twoCommitPages.alertAnswers (some "c2")) [rawAlert "b"] :=
    ⟨[[rawAlert "b"]], ⟨rfl, List.cons_ne_nil _ _, trivial⟩, by decide, rfl, rfl⟩
  have hc : EndsWith (twoCommitPages.commitAnswers 7) ["c1", "c2", "c3"] :=
    ⟨[["c1", "c2"], ["c3"]], ⟨rfl, List.cons_ne_nil _ _, rfl, List.cons_ne_nil _ _, trivial⟩, by decide, rfl, rfl⟩
  obtain ⟨c, h, hbase, -, hprevious, -, hvs, -⟩ := compare_pull_request href hx hy (.inl ⟨_, hc⟩)
  have hsha := (hbase ⟨some "main", some ""⟩ rfl).1
  have htarget := (hbase ⟨some "main", some ""⟩ rfl).2
  have hc2 := hprevious ["c1"] "c2" "c3" hc
  rw [hsha] at htarget
  have hx2 := (hvs _).2 ⟨"c2", _, hc2, hz, List.cons_ne_nil _ _, rfl⟩
  refine ⟨href, hx, hy, hc, c, h, hsha.trans (by decide), htarget.trans (by decide), hc2, ?_⟩
  rw [hx2, Option.map_some]

end ScanDelta.Remote

import ScanDelta.Proofs.Remote.RefKind

/-!
# The form of metadata

* `IsPull j b`, `IsCommitPage j shas` : the value tells of a pull request with this base, of commits with these hashes;
* `Decodes decode Form` : decoding accepts the values of this form, with what they say, and no others;
* `base_eq_ok_iff`, `single_eq_ok_iff`, `commits_eq_ok_iff` : the decoders, by the forms they read;
* `TakesMetadata s ref number` : what a comparison takes from the answers about a pull request;
* `metadata_is_decoded` : just the values of these forms are decoded, and nothing of any other value is used.
-/

set_option autoImplicit false

namespace ScanDelta.Remote

/-! ## Forms -/

/-- The value is this string. -/
inductive IsString : Json → String → Prop
  | str (s : String) : IsString (.str s) s

/-- There is no value, or null, or this string. -/
inductive MayBeString : Option Json → Option String → Prop
  | missing : MayBeString none none
  | null : MayBeString (some .null) none
  | str (s : String) : MayBeString (some (.str s)) (some s)

/-- The base of a pull request: an object in which either ref may be missing, or an array of the two. -/
inductive IsBase : Json → Base → Prop
  | object {ms : List (String × Json)} {ref sha : Option String} (href : MayBeString ((Json.obj ms).get? "ref") ref)
    (hsha : MayBeString ((Json.obj ms).get? "sha") sha) : IsBase (.obj ms) ⟨ref, sha⟩
  | array {x y : Json} {ref sha : Option String} (href : MayBeString (some x) ref)
    (hsha : MayBeString (some y) sha) : IsBase (.arr [x, y]) ⟨ref, sha⟩

/-- An object with a value of this form under the name, or an array of such a value alone. -/
inductive Wraps {α : Type} (name : String) (Form : Json → α → Prop) : Json → α → Prop
  | object {ms : List (String × Json)} {v : Json} {a : α} (hv : (Json.obj ms).get? name = some v) (ha : Form v a) :
    Wraps name Form (.obj ms) a
  | array {v : Json} {a : α} (ha : Form v a) : Wraps name Form (.arr [v]) a

/-- A pull request with this base. -/
def IsPull : Json → Base → Prop := Wraps "base" IsBase

/-- A commit with this hash. -/
def IsCommit : Json → String → Prop := Wraps "sha" IsString

/-- A page of commits with these hashes, in order. -/
inductive IsCommitPage : Json → List String → Prop
  | array {xs : List Json} {shas : List String} (h : List.Forall₂ IsCommit xs shas) : IsCommitPage (.arr xs) shas

/-! ## Decoders -/

section Decoders

theorem text_eq_ok_iff (j : Json) (s : String) : text j = .ok s ↔ IsString j s := by
  constructor
  · intro h
    cases j with
    | str t =>
      cases h
      exact .str s
    | _ => cases h
  · rintro ⟨⟩
    rfl

theorem optional_eq_ok_iff (j : Json) (o : Option String) : optional text j = .ok o ↔ MayBeString (some j) o := by
  constructor
  · intro h
    cases j with
    | null =>
      cases h
      exact .null
    | str s =>
      cases h
      exact .str s
    | _ => cases h
  · rintro ⟨⟩ <;> rfl

theorem optionalMember_eq_ok_iff (name : String) (j : Json) (o : Option String) :
    optionalMember name j = .ok o ↔ MayBeString (j.get? name) o := by
  rw [optionalMember]
  cases j.get? name with
  | some v => exact optional_eq_ok_iff v o
  | none =>
    constructor
    · intro h
      cases h
      exact .missing
    · rintro ⟨⟩
      rfl

theorem base_eq_ok_iff (j : Json) (b : Base) : base j = .ok b ↔ IsBase j b := by
  constructor
  · intro h
    match j with
    | .obj ms =>
      obtain ⟨ref, href, hrest⟩ := (bind_eq_ok_iff _ _ _).1 h
      obtain ⟨sha, hsha, heq⟩ := (bind_eq_ok_iff _ _ _).1 hrest
      cases heq
      exact .object ((optionalMember_eq_ok_iff _ _ _).1 href) ((optionalMember_eq_ok_iff _ _ _).1 hsha)
    | .arr [] => cases h
    | .arr [x] =>
      -- one item is too few, whatever it is
      obtain ⟨ref, -, hthrow⟩ := (bind_eq_ok_iff _ _ _).1 h
      cases hthrow
    | .arr [x, y] =>
      obtain ⟨ref, href, hrest⟩ := (bind_eq_ok_iff _ _ _).1 h
      obtain ⟨sha, hsha, heq⟩ := (bind_eq_ok_iff _ _ _).1 hrest
      cases heq
      exact .array ((optional_eq_ok_iff _ _).1 href) ((optional_eq_ok_iff _ _).1 hsha)
    | .arr (x :: y :: z :: more) =>
      obtain ⟨ref, -, hrest⟩ := (bind_eq_ok_iff _ _ _).1 h
      obtain ⟨sha, -, hthrow⟩ := (bind_eq_ok_iff _ _ _).1 hrest
      cases hthrow
    | .null | .bool _ | .num _ | .str _ => cases h
  · intro h
    cases h with
    | object href hsha =>
      rw [base, (optionalMember_eq_ok_iff _ _ _).2 href, (optionalMember_eq_ok_iff _ _ _).2 hsha]
      rfl
    | array href hsha =>
      rw [base, (optional_eq_ok_iff _ _).2 href, (optional_eq_ok_iff _ _).2 hsha]
      rfl

variable {α : Type} {decode : Decoder α} {Form : Json → α → Prop}

theorem single_eq_ok_iff (h : ∀ j a, decode j = .ok a ↔ Form j a) (object name : String) (j : Json) (a : α) :
    single object name decode j = .ok a ↔ Wraps name Form j a := by
  constructor
  · intro hdecode
    match j with
    | .obj ms =>
      rw [single] at hdecode
      split at hdecode
      · cases hdecode
      · rename_i v hv
        exact .object hv ((h v a).1 hdecode)
    | .arr [] => cases hdecode
    | .arr [x] =>
      obtain ⟨a', ha, heq⟩ := (bind_eq_ok_iff _ _ _).1 hdecode
      cases heq
      exact .array ((h x a).1 ha)
    | .arr (x :: y :: more) =>
      obtain ⟨a', -, hthrow⟩ := (bind_eq_ok_iff _ _ _).1 hdecode
      cases hthrow
    | .null | .bool _ | .num _ | .str _ => cases hdecode
  · intro hform
    cases hform with
    | object hv ha =>
      rw [single, hv]
      exact (h _ a).2 ha
    | array ha =>
      rw [single, (h _ a).2 ha]
      rfl

theorem mapM_eq_ok_iff (h : ∀ j a, decode j = .ok a ↔ Form j a) (xs : List Json) (as : List α) :
    xs.mapM decode = .ok as ↔ List.Forall₂ Form xs as := by
  induction xs generalizing as with
  | nil =>
    rw [List.forall₂_nil_left_iff]
    exact ⟨fun h => (Except.ok.inj h).symm, fun h => congrArg Except.ok h.symm⟩
  | cons x xs ih =>
    rw [List.mapM_cons, bind_eq_ok_iff]
    simp only [bind_eq_ok_iff, h, ih]
    constructor
    · rintro ⟨a, ha, as', has, heq⟩
      cases heq
      exact .cons ha has
    · rintro (_ | ⟨ha, has⟩)
      exact ⟨_, ha, _, has, rfl⟩

theorem pullBase_eq_ok_iff (j : Json) (b : Base) : pullBase j = .ok b ↔ IsPull j b :=
  single_eq_ok_iff base_eq_ok_iff "PullRequest" "base" j b

theorem commit_eq_ok_iff (j : Json) (sha : String) : commit j = .ok sha ↔ IsCommit j sha :=
  single_eq_ok_iff text_eq_ok_iff "PullCommit" "sha" j sha

theorem commits_eq_ok_iff (j : Json) (shas : List String) : commits j = .ok shas ↔ IsCommitPage j shas := by
  constructor
  · intro h
    cases j with
    | arr xs => exact .array ((mapM_eq_ok_iff commit_eq_ok_iff xs shas).1 h)
    | _ => cases h
  · rintro ⟨h⟩
    exact (mapM_eq_ok_iff commit_eq_ok_iff _ shas).2 h

/-- Decoding accepts the values of this form, with what they say; any other value is an unexpected response. -/
structure Decodes (decode : Decoder α) (Form : Json → α → Prop) : Prop where
  ok (j : Json) (a : α) : result (decoded decode j) = .ok a ↔ Form j a
  error {j : Json} (h : ∀ a, ¬ Form j a) : ∃ text, result (decoded decode j) = .error (.unexpectedResponse text)

theorem decodedAnswer_eq_ok_iff (decode : Decoder α) (j : Json) (a : α) :
    decodedAnswer decode j = .ok a ↔ decode j = .ok a := by
  rw [decodedAnswer]
  cases decode j <;> simp [Except.mapError]

theorem decodes_of_iff (h : ∀ j a, decode j = .ok a ↔ Form j a) : Decodes decode Form where
  ok j a := by rw [result_decoded, decodedAnswer_eq_ok_iff, h]
  error {j} hnot := by
    rw [result_decoded, decodedAnswer]
    cases hj : decode j with
    | ok a => exact absurd ((h j a).1 hj) (hnot a)
    | error e => exact ⟨e.message, rfl⟩

/-- Of an object, a decoder for one field looks at that field alone. -/
theorem single_congr (object name : String) (decode : Decoder α) {ms ms' : List (String × Json)}
    (h : (Json.obj ms).get? name = (Json.obj ms').get? name) :
    single object name decode (.obj ms) = single object name decode (.obj ms') := by
  rw [single, single, h]

theorem base_congr {ms ms' : List (String × Json)} (href : (Json.obj ms).get? "ref" = (Json.obj ms').get? "ref")
    (hsha : (Json.obj ms).get? "sha" = (Json.obj ms').get? "sha") : base (.obj ms) = base (.obj ms') := by
  rw [base, base, optionalMember, optionalMember, optionalMember, optionalMember, href, hsha]

end Decoders

/-! ## What is used of the answers -/

/-- What a comparison takes from the answers about a pull request, and that it takes nothing from an answer of another
form. -/
structure TakesMetadata (s : Service) (ref : String) (number : Nat) : Prop where
  base {j : Json} {b : Base} (hj : (s.pull number).value = .ok j) (hb : IsPull j b) :
    (pullRefs s ref).value.baseRef = nonempty? b.ref ∧ (pullRefs s ref).value.baseSha = nonempty? b.sha
  noBase {j : Json} (hj : (s.pull number).value = .ok j) (hb : ∀ b, ¬ IsPull j b) :
    (pullRefs s ref).value.baseRef = none ∧ (pullRefs s ref).value.baseSha = none ∧
      ∀ c, result (compare s ref) = .ok c → c.baseSha = none ∧ c.vsBranchPoint = none
  page (page : Nat) (shas : List String) : s.commitAnswers number page = .ok shas ↔
    ∃ j, (s.commitPage number page).value = .ok j ∧ IsCommitPage j shas
  previous {shas : List String} (h : EndsWith (s.commitAnswers number) shas) :
    (pullRefs s ref).value.previousCommit = penultimate? shas
  /-- Pages before the one of another form do not help. -/
  noPrevious {page : Nat} {j : Json} (hlast : page < Pages.lastPage)
    (hfull : ∀ i < page, IsFull (s.commitAnswers number (1 + i))) (hj : (s.commitPage number (1 + page)).value = .ok j)
    (hpage : ∀ shas, ¬ IsCommitPage j shas) :
    (pullRefs s ref).value.previousCommit = none ∧
      ∀ c, result (compare s ref) = .ok c → c.previousCommit = none ∧ c.vsPreviousCommit = none

section Used
variable {s : Service} {ref : String} {number : Nat}

theorem pullAnswer_of_value {j : Json} (hj : (s.pull number).value = .ok j) :
    s.pullAnswer number = decodedAnswer pullBase j := by
  rw [Service.pullAnswer, hj]
  rfl

theorem commitAnswers_eq_ok_iff (page : Nat) (shas : List String) : s.commitAnswers number page = .ok shas ↔
    ∃ j, (s.commitPage number page).value = .ok j ∧ IsCommitPage j shas := by
  rw [Service.commitAnswers, bind_eq_ok_iff]
  simp only [decodedAnswer_eq_ok_iff, commits_eq_ok_iff]

theorem takesMetadata (h : PullRef ref number) : TakesMetadata s ref number := by
  have href := (of_eq_pull_iff ref number).2 h
  have hrefs := value_pullRefs (s := s) href
  have hprevious : (pullRefs s ref).value.previousCommit = (listed? (s.commitAnswers number)).bind penultimate? := by
    rw [hrefs]
    cases s.pullAnswer number <;> rfl
  constructor
  case base =>
    intro j b hj hb
    rw [hrefs, pullAnswer_of_value hj, (decodedAnswer_eq_ok_iff _ _ _).2 ((pullBase_eq_ok_iff j b).2 hb)]
    exact ⟨rfl, rfl⟩
  case noBase =>
    intro j hj hb
    have hanswer : ∃ e, s.pullAnswer number = .error e := by
      obtain ⟨text, htext⟩ := (decodes_of_iff pullBase_eq_ok_iff).error hb
      rw [result_decoded] at htext
      exact ⟨_, (pullAnswer_of_value hj).trans htext⟩
    obtain ⟨e, he⟩ := hanswer
    rw [he] at hrefs
    refine ⟨by rw [hrefs], by rw [hrefs], ?_⟩
    intro c hc
    obtain ⟨xs, ys, -, -, rfl⟩ := (compare_eq_ok_iff s ref c).1 hc
    rw [baseSha_comparisonOf, vsBranchPoint_comparisonOf, hrefs]
    exact ⟨rfl, rfl⟩
  case page => exact commitAnswers_eq_ok_iff
  case previous =>
    intro shas hshas
    rw [hprevious, (listed?_eq_some_iff _ shas).2 hshas, Option.bind_some]
  case noPrevious =>
    intro page j hlast hfull hj hpage
    obtain ⟨pages, rfl, hpages⟩ := exists_fullFrom hfull
    obtain ⟨text, htext⟩ := (decodes_of_iff commits_eq_ok_iff).error hpage
    have hanswer : s.commitAnswers number (pages.length + 1) = .error (.unexpectedResponse text) := by
      rw [Nat.add_comm, Service.commitAnswers, hj, ← htext, result_decoded]
      rfl
    have hlisted : listed? (s.commitAnswers number) = none := by
      rw [listed?, readAll_of_failsWith ⟨pages, hpages, hlast, hanswer⟩]
      rfl
    have hnone : (pullRefs s ref).value.previousCommit = none := by
      rw [hprevious, hlisted]
      rfl
    refine ⟨hnone, ?_⟩
    intro c hc
    obtain ⟨xs, ys, -, -, rfl⟩ := (compare_eq_ok_iff s ref c).1 hc
    rw [previousCommit_comparisonOf, vsPreviousCommit_comparisonOf, hnone]
    exact ⟨rfl, rfl⟩

end Used

/-- **Metadata is decoded by its form, and nothing is used of any other.** A pull request decodes just if it has, or is
an array of, one base, which is an object with up to two refs or an array of two; a page of commits just if each of them
has, or is an array of, a hash. Other members count for nothing. The refs, and the hash before the last, come from
there; of a base that does not decode neither ref is used, and of commits none if one of their pages does not. -/
theorem metadata_is_decoded :
    Decodes pullBase IsPull ∧ Decodes commits IsCommitPage ∧
    (∀ ms ms' : List (String × Json), (Json.obj ms).get? "base" = (Json.obj ms').get? "base" →
      pullBase (.obj ms) = pullBase (.obj ms')) ∧
    (∀ ms ms' : List (String × Json), (Json.obj ms).get? "ref" = (Json.obj ms').get? "ref" →
      (Json.obj ms).get? "sha" = (Json.obj ms').get? "sha" → base (.obj ms) = base (.obj ms')) ∧
    (∀ ms ms' : List (String × Json), (Json.obj ms).get? "sha" = (Json.obj ms').get? "sha" →
      commit (.obj ms) = commit (.obj ms')) ∧
    ∀ (s : Service) (ref : String) (number : Nat), PullRef ref number → TakesMetadata s ref number :=
  ⟨decodes_of_iff pullBase_eq_ok_iff, decodes_of_iff commits_eq_ok_iff,
    fun _ _ => single_congr "PullRequest" "base" base, fun _ _ => base_congr,
    fun _ _ => single_congr "PullCommit" "sha" text, fun _ _ _ => takesMetadata⟩

/-- A service with a pull request whose base has a hash behind a name that is none, and a commit without a hash on the
second page. -/
def illTyped : Service where
  alertPage ref page := twoCommitPages.alertPage ref page
  pull _ := pure (.ok (.obj [("base", .arr [.bool true, .str "c0"])]))
  commitPage _ page := pure <| .ok <| .arr <|
    if page = 1 then [.obj [("sha", .str "c1")], .arr [.str "c2"]] else [.obj [("message", .str "c3")]]

theorem metadata_is_decoded_illTyped :
    PullRef "refs/pull/7/merge" 7 ∧ (pullRefs twoCommitPages "refs/pull/7/merge").value.baseRef = some "main" ∧
    (pullRefs illTyped "refs/pull/7/merge").value.baseSha = none ∧
    illTyped.commitAnswers 7 1 = .ok ["c1", "c2"] ∧
    (pullRefs illTyped "refs/pull/7/merge").value.previousCommit = none := by
  have hpull : PullRef "refs/pull/7/merge" 7 := (of_eq_pull_iff _ _).1 (by decide)
  have htakes : ∀ s, TakesMetadata s "refs/pull/7/merge" 7 := fun s => metadata_is_decoded.2.2.2.2.2 s _ _ hpull
  have hmain : IsBase (.obj [("ref", .str "main"), ("sha", .str "")]) ⟨some "main", some ""⟩ :=
    .object (.str "main") (.str "")
  have hnone : ∀ b, ¬ IsPull (.obj [("base", .arr [.bool true, .str "c0"])]) b := by
    rintro b ⟨hv, hb⟩
    cases hv
    cases hb with
    | array href hsha => cases href
  have hfirst : IsCommitPage (.arr [.obj [("sha", .str "c1")], .arr [.str "c2"]]) ["c1", "c2"] :=
    .array (.cons (.object rfl (.str "c1")) (.cons (.array (.str "c2")) .nil))
  have hsecond : ∀ shas, ¬ IsCommitPage (.arr [.obj [("message", .str "c3")]]) shas := by
    rintro shas ⟨hcommits⟩
    cases hcommits with
    | cons hcommit _ =>
      cases hcommit with
      | object hv _ => cases hv
  have hpage : illTyped.commitAnswers 7 1 = .ok ["c1", "c2"] := ((htakes illTyped).page 1 _).2 ⟨_, rfl, hfirst⟩
  have hfull : ∀ i < 1, IsFull (illTyped.commitAnswers 7 (1 + i)) := by
    intro i hi
    obtain rfl : i = 0 := by omega
    exact ⟨_, hpage, List.cons_ne_nil _ _⟩
  refine ⟨hpull, ?_, ((htakes illTyped).noBase rfl hnone).2.1, hpage, ?_⟩
  · exact ((htakes twoCommitPages).base rfl (.object rfl hmain)).1
  · exact ((htakes illTyped).noPrevious (by decide) hfull rfl hsecond).1

end ScanDelta.Remote

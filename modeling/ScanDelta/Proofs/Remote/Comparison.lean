import ScanDelta.Proofs.Alert.Identities
import ScanDelta.Proofs.Remote.Listing

/-!
# What a comparison comes to

* `setOf items` : the set of the alerts of raw objects; `identityOf raw` : the identity of the alert of one;
* `versus subject target items` : a subject against the alerts of raw objects;
* `result_fetchSet` : a listing as a set; `furtherOf s subject target` : a further comparison;
* `comparisonOf`, `result_compare` : the comparison of two sets that have been read;
* `compare_depends_on_primary_listings` : only the listings of the subject and of the default branch can make a
  comparison fail, and its first three lists are those of the diff of the two.
-/

set_option autoImplicit false

namespace ScanDelta.Remote

/-! ## Sets of alerts -/

/-- The alerts of raw objects as a set. -/
def setOf (items : List Json) : AlertSet := AlertSet.ofList (items.map plainAlertOf)

theorem value_alertsOf (items : List Json) : (alertsOf items).value = items.map plainAlertOf := by
  induction items with
  | nil => rfl
  | cons raw more ih =>
    rw [alertsOf, Traced.bind_value, Traced.bind_value, ih, value_alertOf]
    rfl

theorem isEmpty_setOf (items : List Json) : (setOf items).isEmpty = true ↔ items = [] := by
  rw [setOf, AlertSet.isEmpty_ofList, List.map_eq_nil_iff]

/-- The identity of the alert of a raw object. -/
def identityOf (raw : Json) : Identity := (plainAlertOf raw).identity

theorem map_identity_plainAlertOf (items : List Json) :
    (items.map plainAlertOf).map Alert.identity = items.map identityOf := List.map_map

theorem identities_setOf_congr {xs ys : List Json} (h : xs.map identityOf = ys.map identityOf) :
    (setOf xs).identities = (setOf ys).identities := by
  refine AlertSet.identities_ofList_congr ?_
  rw [map_identity_plainAlertOf, map_identity_plainAlertOf, h]

theorem setOf_eq_of_rearranged {xs ys : List Json} (h : AlertSet.Rearranged identityOf xs ys) :
    setOf xs = setOf ys :=
  AlertSet.ofList_eq_of_rearranged h.map

theorem result_fetchSet (s : Service) (ref : Option String) (label : String) :
    result (fetchSet s ref label) = setOf <$> readAll (s.alertAnswers ref) := by
  rw [fetchSet, result_bind, result_listing]
  cases readAll (s.alertAnswers ref) with
  | error e => rfl
  | ok items =>
    rw [ok_bind, result_bind, result_noted, ok_bind, value_alertsOf]
    rfl

/-! ## A further comparison -/

/-- A subject against the alerts of raw objects. -/
def versus (subject : AlertSet) (target : String) (items : List Json) : Secondary :=
  ⟨target, (subject.diff (setOf items)).new, (subject.diff (setOf items)).fixed⟩

/-- What a further comparison comes to after a listing with these items, if there is one. -/
def versus? (subject : AlertSet) (target : String) : Option (List Json) → Option Secondary
  | some (x :: xs) => some (versus subject target (x :: xs))
  | _ => none

theorem value_secondary (s : Service) (subject : AlertSet) (label target : String) :
    (secondary s subject label target).value =
      versus? subject target (listed? (s.alertAnswers (some target))) := by
  rw [secondary, Traced.bind_value, value_attempt, result_fetchSet, listed?]
  rcases readAll (s.alertAnswers (some target)) with e | (_ | ⟨x, xs⟩)
  · rfl
  · rfl
  · have hne : (setOf (x :: xs)).isEmpty = false := by
      rw [← Bool.not_eq_true, isEmpty_setOf]
      exact List.cons_ne_nil x xs
    show (if (setOf (x :: xs)).isEmpty = true then _ else _ : Traced Event (Option Secondary)).value = _
    rw [hne]
    rfl

theorem versus?_eq_some_iff (subject : AlertSet) (target : String) (r : Option (List Json)) (x : Secondary) :
    versus? subject target r = some x ↔ ∃ items, r = some items ∧ items ≠ [] ∧ x = versus subject target items := by
  rcases r with _ | (_ | ⟨y, ys⟩) <;> simp [versus?, eq_comm]

/-- The further comparison with a target that may be absent. -/
def furtherOf (s : Service) (subject : AlertSet) (target : Option String) : Option Secondary :=
  target.bind fun t => versus? subject t (listed? (s.alertAnswers (some t)))

theorem value_secondaryIf (s : Service) (subject : AlertSet) (label : String) (target : Option String) :
    (secondaryIf s subject label target).value = furtherOf s subject target := by
  cases target with
  | none => rfl
  | some t => rw [secondaryIf, value_secondary, furtherOf, Option.bind_some]

/-- It depends on the listing of its target alone. -/
theorem furtherOf_eq_of_agree {s s' : Service} (subject : AlertSet) {target : Option String}
    (h : ∀ t, target = some t → Agree (s.alertAnswers (some t)) (s'.alertAnswers (some t))) :
    furtherOf s' subject target = furtherOf s subject target := by
  cases target with
  | none => rw [furtherOf, furtherOf, Option.bind_none, Option.bind_none]
  | some t => rw [furtherOf, furtherOf, Option.bind_some, Option.bind_some, (h t rfl).listed?_eq]

/-! ## The comparison -/

/-- The first three lists of a comparison. -/
def Comparison.primary (c : Comparison) : Diff := ⟨c.new, c.fixed, c.matched⟩

/-- The comparison of a subject with the default branch, once both have been read. -/
def comparisonOf (s : Service) (ref : String) (subject default : AlertSet) : Comparison :=
  let refs := (pullRefs s ref).value
  { new := (subject.diff default).new
    fixed := (subject.diff default).fixed
    matched := (subject.diff default).matched
    vsPreviousCommit := furtherOf s subject refs.previousCommit
    vsBranchPoint := furtherOf s subject refs.baseTarget
    baseSha := refs.baseSha
    previousCommit := refs.previousCommit }

section
variable (s : Service) (ref : String) (subject default : AlertSet)

@[simp] theorem primary_comparisonOf : (comparisonOf s ref subject default).primary = subject.diff default := rfl

@[simp] theorem baseSha_comparisonOf :
    (comparisonOf s ref subject default).baseSha = (pullRefs s ref).value.baseSha := rfl

@[simp] theorem previousCommit_comparisonOf :
    (comparisonOf s ref subject default).previousCommit = (pullRefs s ref).value.previousCommit := rfl

@[simp] theorem vsPreviousCommit_comparisonOf : (comparisonOf s ref subject default).vsPreviousCommit =
    furtherOf s subject (pullRefs s ref).value.previousCommit := rfl

@[simp] theorem vsBranchPoint_comparisonOf : (comparisonOf s ref subject default).vsBranchPoint =
    furtherOf s subject (pullRefs s ref).value.baseTarget := rfl

end

/-- Nothing behind the first two listings fails. -/
theorem result_compare (s : Service) (ref : String) :
    result (compare s ref) = do
      let xs ← readAll (s.alertAnswers (some ref))
      let ys ← readAll (s.alertAnswers none)
      return comparisonOf s ref (setOf xs) (setOf ys) := by
  rw [compare, result_bind, result_noted, ok_bind, result_bind, result_fetchSet]
  cases readAll (s.alertAnswers (some ref)) with
  | error e => rfl
  | ok xs =>
    show (Except.ok (setOf xs) >>= _) = _
    rw [ok_bind, ok_bind, result_bind, result_fetchSet]
    cases readAll (s.alertAnswers none) with
    | error e => rfl
    | ok ys =>
      show (Except.ok (setOf ys) >>= _) = _
      simp only [ok_bind, result_bind, result_noted, result_traced, result_pure, value_secondaryIf]
      rfl

theorem compare_eq_ok_iff (s : Service) (ref : String) (c : Comparison) :
    result (compare s ref) = .ok c ↔ ∃ xs ys, EndsWith (s.alertAnswers (some ref)) xs ∧
      EndsWith (s.alertAnswers none) ys ∧ c = comparisonOf s ref (setOf xs) (setOf ys) := by
  rw [result_compare, bind_eq_ok_iff]
  simp only [bind_eq_ok_iff, readAll_eq_ok_iff]
  constructor
  · rintro ⟨xs, hx, ys, hy, h⟩
    exact ⟨xs, ys, hx, hy, (Except.ok.inj h).symm⟩
  · rintro ⟨xs, ys, hx, hy, rfl⟩
    exact ⟨xs, hx, ys, hy, rfl⟩

/-- The failure of a comparison is that of its first listing, else that of its second one. -/
theorem compare_eq_error_iff {s : Service} {ref : String} (hs : Stops (s.alertAnswers (some ref)))
    (hd : ∀ xs, EndsWith (s.alertAnswers (some ref)) xs → Stops (s.alertAnswers none)) (e : Failure) :
    result (compare s ref) = .error e ↔ FailsWith (s.alertAnswers (some ref)) e ∨
      ((∃ xs, EndsWith (s.alertAnswers (some ref)) xs) ∧ FailsWith (s.alertAnswers none) e) := by
  rw [result_compare, bind_eq_error_iff, readAll_eq_error_iff hs]
  refine or_congr_right ?_
  simp only [bind_eq_error_iff, readAll_eq_ok_iff]
  constructor
  · rintro ⟨xs, hx, he | ⟨ys, -, h⟩⟩
    · exact ⟨⟨xs, hx⟩, (readAll_eq_error_iff (hd xs hx) e).1 he⟩
    · cases h
  · rintro ⟨⟨xs, hx⟩, he⟩
    exact ⟨xs, hx, .inl (readAll_of_failsWith he)⟩

theorem primary_compare (s : Service) (ref : String) :
    Comparison.primary <$> result (compare s ref) = do
      let xs ← readAll (s.alertAnswers (some ref))
      let ys ← readAll (s.alertAnswers none)
      return (setOf xs).diff (setOf ys) := by
  rw [result_compare]
  cases readAll (s.alertAnswers (some ref)) with
  | error e => rfl
  | ok xs => cases readAll (s.alertAnswers none) <;> rfl

/-- **Only the two primary listings count** for whether a comparison succeeds, for the failure it ends with, and
for its first three lists. Nothing is assumed of the other answers of the service. -/
theorem compare_depends_on_primary_listings (s : Service) (ref : String)
    (hs : Stops (s.alertAnswers (some ref)))
    (hd : ∀ xs, EndsWith (s.alertAnswers (some ref)) xs → Stops (s.alertAnswers none)) :
    ((∃ c, result (compare s ref) = .ok c) ↔
      (∃ xs, EndsWith (s.alertAnswers (some ref)) xs) ∧ ∃ ys, EndsWith (s.alertAnswers none) ys) ∧
    (∀ e, result (compare s ref) = .error e ↔ FailsWith (s.alertAnswers (some ref)) e ∨
      ((∃ xs, EndsWith (s.alertAnswers (some ref)) xs) ∧ FailsWith (s.alertAnswers none) e)) ∧
    (∀ c, result (compare s ref) = .ok c → ∃ xs ys, EndsWith (s.alertAnswers (some ref)) xs ∧
      EndsWith (s.alertAnswers none) ys ∧
      c.primary = (AlertSet.ofList (xs.map plainAlertOf)).diff (AlertSet.ofList (ys.map plainAlertOf))) ∧
    (∀ s' : Service, Agree (s.alertAnswers (some ref)) (s'.alertAnswers (some ref)) →
      Agree (s.alertAnswers none) (s'.alertAnswers none) →
      Comparison.primary <$> result (compare s' ref) = Comparison.primary <$> result (compare s ref)) := by
  refine ⟨?_, compare_eq_error_iff hs hd, ?_, ?_⟩
  · simp only [compare_eq_ok_iff]
    constructor
    · rintro ⟨c, xs, ys, hx, hy, -⟩
      exact ⟨⟨xs, hx⟩, ys, hy⟩
    · rintro ⟨⟨xs, hx⟩, ys, hy⟩
      exact ⟨_, xs, ys, hx, hy, rfl⟩
  · intro c hc
    obtain ⟨xs, ys, hx, hy, rfl⟩ := (compare_eq_ok_iff s ref c).1 hc
    exact ⟨xs, ys, hx, hy, rfl⟩
  · intro s' hsubject hdefault
    rw [primary_compare, primary_compare, ← hsubject.readAll_eq hs]
    cases hx : readAll (s.alertAnswers (some ref)) with
    | error e => rw [error_bind, error_bind]
    | ok xs => rw [← hdefault.readAll_eq (hd xs ((readAll_eq_ok_iff _ xs).1 hx))]

/-- An alert of which the service tells the fingerprint alone. -/
def rawAlert (key : String) : Json := .obj [("analysis_key", .str key)]

/-- A service that lists the alerts of one ref and of the default branch; all other answers are failures or have no
form that is known. -/
def unhelpful (ref : String) : Service where
  alertPage r page := pure <|
    if r = none then .ok (if page = 1 then [rawAlert "b"] else [])
    else if r = some ref then
      .ok (if page = 1 then [rawAlert "a", rawAlert "b"] else if page = 2 then [rawAlert "c"] else [])
    else .error (.remote "GET" "/alerts" 500 "")
  pull _ := pure (.ok (.arr []))
  commitPage _ _ := pure (.ok (.str "commits"))

theorem compare_unhelpful_succeeds :
    Stops ((unhelpful "refs/pull/7/merge").alertAnswers (some "refs/pull/7/merge")) ∧
    Stops ((unhelpful "refs/pull/7/merge").alertAnswers none) ∧
    ∃ c, result (compare (unhelpful "refs/pull/7/merge") "refs/pull/7/merge") = .ok c := by
  have hx : EndsWith ((unhelpful "refs/pull/7/merge").alertAnswers (some "refs/pull/7/merge"))
      [rawAlert "a", rawAlert "b", rawAlert "c"] :=
    ⟨[[rawAlert "a", rawAlert "b"], [rawAlert "c"]],
      ⟨rfl, List.cons_ne_nil _ _, rfl, List.cons_ne_nil _ _, trivial⟩, by decide, rfl, rfl⟩
  have hy : EndsWith ((unhelpful "refs/pull/7/merge").alertAnswers none) [rawAlert "b"] :=
    ⟨[[rawAlert "b"]], ⟨rfl, List.cons_ne_nil _ _, trivial⟩, by decide, rfl, rfl⟩
  have h := compare_depends_on_primary_listings (unhelpful "refs/pull/7/merge") "refs/pull/7/merge"
    (.inl ⟨_, hx⟩) fun _ _ => .inl ⟨_, hy⟩
  exact ⟨.inl ⟨_, hx⟩, .inl ⟨_, hy⟩, h.1.2 ⟨⟨_, hx⟩, _, hy⟩⟩

end ScanDelta.Remote

import ScanDelta.Proofs.Remote.PullRequest

/-!
# The order of alerts and the cut into pages

* `Service.commitItems` : the objects on the pages of commits; `hashesOf` : the hashes of such objects;
* `listed?_commitAnswers` : reading decoded pages is decoding all that the pages hold;
* `SameUpToOrder s s'` : two services list the same, cut into pages anyhow, and alerts in any order that keeps those of
  one identity in order;
* `compare_eq_of_sameUpToOrder` : a comparison cannot tell such services apart.
-/

set_option autoImplicit false

namespace ScanDelta

namespace Remote

/-! ## Commits -/

/-- The objects on a page of commits, before they are decoded. -/
def commitObjects : Decoder (List Json)
  | .arr xs => .ok xs
  | j => .error (.invalidType j "a sequence")

/-- The hashes of commits. -/
def hashesOf (objects : List Json) : Except Failure (List String) :=
  (objects.mapM commit).mapError fun e => .unexpectedResponse e.message

theorem toOption_map {α β : Type} (f : α → β) (r : Except Failure α) : (f <$> r).toOption = r.toOption.map f := by
  cases r <;> rfl

theorem toOption_hashesOf_append (xs ys : List Json) : (hashesOf (xs ++ ys)).toOption =
    (hashesOf xs).toOption.bind fun us => (hashesOf ys).toOption.map fun vs => us ++ vs := by
  rw [hashesOf, hashesOf, hashesOf, List.mapM_append]
  cases xs.mapM commit with
  | error e => rfl
  | ok us => cases ys.mapM commit <;> rfl

theorem hashesOf_cons_ne_nil (x : Json) (xs : List Json) : hashesOf (x :: xs) ≠ .ok [] := by
  rw [hashesOf, List.mapM_cons]
  cases commit x with
  | error e => exact nofun
  | ok u => cases xs.mapM commit <;> exact nofun

end Remote

/-- The objects on the pages of the commits of a pull request. -/
def Service.commitItems (s : Service) (number page : Nat) : Except Failure (List Json) :=
  (s.commitPage number page).value >>= Remote.decodedAnswer Remote.commitObjects

namespace Remote

theorem commitAnswers_eq (s : Service) (number : Nat) :
    s.commitAnswers number = fun page => s.commitItems number page >>= hashesOf := by
  funext page
  rw [Service.commitAnswers, Service.commitItems]
  cases (s.commitPage number page).value with
  | error e => rfl
  | ok j => cases j <;> rfl

/-- Pages can be decoded one by one or all at once, unless the listing fails anyway. -/
theorem toOption_readFrom_hashesOf (answers : Nat → Except Failure (List Json)) (budget page : Nat) :
    (readFrom (fun p => answers p >>= hashesOf) budget page).toOption =
      (readFrom answers budget page).toOption.bind fun objects => (hashesOf objects).toOption := by
  induction budget generalizing page with
  | zero => rfl
  | succ budget ih =>
    have hrest := ih (page + 1)
    rw [readFrom, readFrom]
    rcases answers page with e | (_ | ⟨x, xs⟩)
    · rfl
    · rfl
    · rw [ok_bind]
      dsimp only
      rw [toOption_map, Option.bind_map]
      -- the hashes of this page stand in front of those of the rest, if both can be decoded
      have hboth : (readFrom answers budget (page + 1)).toOption.bind
            (fun objects => (hashesOf ((x :: xs) ++ objects)).toOption) =
          (hashesOf (x :: xs)).toOption.bind fun us =>
            (readFrom (fun p => answers p >>= hashesOf) budget (page + 1)).toOption.map fun vs => us ++ vs := by
        rw [hrest]
        simp only [toOption_hashesOf_append]
        cases (readFrom answers budget (page + 1)).toOption with
        | none => cases (hashesOf (x :: xs)).toOption <;> rfl
        | some objects => rfl
      refine Eq.trans ?_ hboth.symm
      cases hpage : hashesOf (x :: xs) with
      | error e => rfl
      | ok us =>
        have hne : us ≠ [] := fun h => hashesOf_cons_ne_nil x xs (h ▸ hpage)
        obtain ⟨u, us, rfl⟩ := List.exists_cons_of_ne_nil hne
        exact toOption_map _ _

theorem listed?_commitAnswers (s : Service) (number : Nat) :
    listed? (s.commitAnswers number) =
      (listed? (s.commitItems number)).bind fun objects => (hashesOf objects).toOption := by
  rw [commitAnswers_eq]
  exact toOption_readFrom_hashesOf (s.commitItems number) Pages.lastPage 1

/-! ## Services that list the same -/

/-- The services list the same alerts and commits on pages that may be cut otherwise. The alerts may be in another
order, but in the same order where they have the same identity. -/
structure SameUpToOrder (s s' : Service) : Prop where
  alerts (ref : Option String) : ∃ xs ys, EndsWith (s.alertAnswers ref) xs ∧ EndsWith (s'.alertAnswers ref) ys ∧
    AlertSet.Rearranged identityOf xs ys
  pull (number : Nat) : (s.pull number).value = (s'.pull number).value
  commits (number : Nat) (objects : List Json) :
    EndsWith (s.commitItems number) objects ↔ EndsWith (s'.commitItems number) objects

variable {s s' : Service}

theorem SameUpToOrder.value_pullRefs_eq (h : SameUpToOrder s s') (ref : String) :
    (pullRefs s ref).value = (pullRefs s' ref).value := by
  refine value_pullRefs_congr fun number _ => ⟨?_, ?_⟩
  · rw [Service.pullAnswer, Service.pullAnswer, h.pull]
  · rw [listed?_commitAnswers, listed?_commitAnswers, listed?_congr (h.commits number)]

theorem versus?_eq_of_rearranged (subject : AlertSet) (target : String) {xs ys : List Json}
    (h : AlertSet.Rearranged identityOf xs ys) : versus? subject target (some xs) = versus? subject target (some ys) := by
  have hset := setOf_eq_of_rearranged h
  cases xs with
  | nil => rw [h.perm.nil_eq]
  | cons x xs =>
    cases ys with
    | nil => exact absurd h.perm.eq_nil (List.cons_ne_nil x xs)
    | cons y ys => rw [versus?, versus?, versus, versus, hset]

theorem SameUpToOrder.furtherOf_eq (h : SameUpToOrder s s') (subject : AlertSet) (target : Option String) :
    furtherOf s subject target = furtherOf s' subject target := by
  cases target with
  | none => rw [furtherOf, furtherOf, Option.bind_none, Option.bind_none]
  | some t =>
    obtain ⟨xs, ys, hx, hy, hxy⟩ := h.alerts (some t)
    rw [furtherOf, furtherOf, Option.bind_some, Option.bind_some, (listed?_eq_some_iff _ xs).2 hx,
      (listed?_eq_some_iff _ ys).2 hy]
    exact versus?_eq_of_rearranged subject t hxy

/-- **Neither the order of alerts nor the cut into pages shows** in a comparison, in none of its parts. -/
theorem compare_eq_of_sameUpToOrder (h : SameUpToOrder s s') (ref : String) :
    ∃ c, result (compare s ref) = .ok c ∧ result (compare s' ref) = .ok c := by
  obtain ⟨xs, xs', hx, hx', hsubject⟩ := h.alerts (some ref)
  obtain ⟨ys, ys', hy, hy', hdefault⟩ := h.alerts none
  have heq : comparisonOf s ref (setOf xs) (setOf ys) = comparisonOf s' ref (setOf xs') (setOf ys') := by
    rw [comparisonOf, comparisonOf, setOf_eq_of_rearranged hsubject, setOf_eq_of_rearranged hdefault,
      h.value_pullRefs_eq ref]
    simp only [h.furtherOf_eq]
  refine ⟨comparisonOf s ref (setOf xs) (setOf ys), ?_, ?_⟩
  · exact (compare_eq_ok_iff s ref _).2 ⟨xs, ys, hx, hy, rfl⟩
  · exact (compare_eq_ok_iff s' ref _).2 ⟨xs', ys', hx', hy', heq⟩

/-- An alert with a fingerprint and a number. -/
def numberedAlert (key : String) (number : Nat) : Json := .obj [("fingerprint", .str key), ("number", .nat number)]

/-- Two pages of alerts, of which two have the same identity, and one page of commits. -/
def onTwoPages : Service :=
  .ofPages (fun ref => if ref = none then [[numberedAlert "a" 1]]
      else [[numberedAlert "a" 1, numberedAlert "b" 2], [numberedAlert "a" 3]])
    (rawPull "main") [[rawCommit "c1", rawCommit "c2", rawCommit "c3"]]

/-- The same on three pages, beginning with another alert, and with the commits on two pages. -/
def onThreePages : Service :=
  .ofPages (fun ref => if ref = none then [[numberedAlert "a" 1]]
      else [[numberedAlert "b" 2], [numberedAlert "a" 1], [numberedAlert "a" 3]])
    (rawPull "main") [[rawCommit "c1"], [rawCommit "c2", rawCommit "c3"]]

theorem sameUpToOrder_onTwoPages : SameUpToOrder onTwoPages onThreePages where
  alerts ref := by
    cases ref with
    | none =>
      refine ⟨[numberedAlert "a" 1], [numberedAlert "a" 1], ?_, ?_, .refl _, fun _ => rfl⟩
      · exact Service.endsWith_ofPages _ _ _ none (by simp) (by decide)
      · exact Service.endsWith_ofPages _ _ _ none (by simp) (by decide)
    | some t =>
      refine ⟨[numberedAlert "a" 1, numberedAlert "b" 2, numberedAlert "a" 3],
        [numberedAlert "b" 2, numberedAlert "a" 1, numberedAlert "a" 3], ?_, ?_, ?_⟩
      · exact Service.endsWith_ofPages _ _ _ (some t) (by simp) (by simp; decide)
      · exact Service.endsWith_ofPages _ _ _ (some t) (by simp) (by simp; decide)
      · exact AlertSet.Rearranged.swap (by decide) [numberedAlert "a" 3]
  pull number := rfl
  commits number objects := by
    have htwo : EndsWith (onTwoPages.commitItems number) [rawCommit "c1", rawCommit "c2", rawCommit "c3"] :=
      endsWith_of_pages [[rawCommit "c1", rawCommit "c2", rawCommit "c3"]] (by simp) (by decide) fun _ => rfl
    have hthree : EndsWith (onThreePages.commitItems number) [rawCommit "c1", rawCommit "c2", rawCommit "c3"] :=
      endsWith_of_pages [[rawCommit "c1"], [rawCommit "c2", rawCommit "c3"]] (by simp) (by decide) fun _ => rfl
    constructor
    · intro h
      rwa [h.unique htwo]
    · intro h
      rwa [h.unique hthree]

theorem compare_onTwoPages_eq : SameUpToOrder onTwoPages onThreePages ∧
    ∃ c, result (compare onTwoPages "refs/pull/7/merge") = .ok c ∧
      result (compare onThreePages "refs/pull/7/merge") = .ok c :=
  ⟨sameUpToOrder_onTwoPages, compare_eq_of_sameUpToOrder sameUpToOrder_onTwoPages "refs/pull/7/merge"⟩

end Remote

end ScanDelta

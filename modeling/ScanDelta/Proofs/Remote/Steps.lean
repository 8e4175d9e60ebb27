import ScanDelta.Proofs.Run
import ScanDelta.Remote.Comparison

/-!
# The steps of a comparison

* `SameSteps s s' t t'` : the runs take the same steps, one through the service `s`, the other through `s'`;
* `sameSteps_compare` : so do the comparisons of a ref through two services;
* `SameSteps.leaves`, `tokens_compare` : what they leave are notes and questions.

All that a comparison does is to take notes, to put questions and to go on with what it has got. What holds of these
steps for some relation of two runs, or for one run with itself, holds of comparisons by induction on `SameSteps`.
-/

set_option autoImplicit false

namespace ScanDelta.Remote

/-- Notes are taken alike, the same questions are put to the two services, and the runs go on alike with every value. -/
inductive SameSteps (s s' : Service) : {α : Type} → Traced Event α → Traced Event α → Prop
  | noted {α : Type} (t : Traced Note α) : SameSteps s s' (t.lift .note) (t.lift .note)
  | alerts (ref : Option String) (page : Nat) : SameSteps s s' (askAlerts s ref page).run (askAlerts s' ref page).run
  | pull (number : Nat) : SameSteps s s' (askPull s number).run (askPull s' number).run
  | commits (number page : Nat) : SameSteps s s' (askCommits s number page).run (askCommits s' number page).run
  | bind {α β : Type} {t t' : Traced Event α} {f f' : α → Traced Event β} (ht : SameSteps s s' t t')
    (hf : ∀ a, SameSteps s s' (f a) (f' a)) : SameSteps s s' (t >>= f) (t' >>= f')

namespace SameSteps

variable {s s' : Service} {α β : Type}

theorem pure (a : α) : SameSteps s s' (Pure.pure a) (Pure.pure a) := .noted (Pure.pure a)

theorem runBind {r r' : Run α} {f f' : α → Run β} (hr : SameSteps s s' r.run r'.run)
    (hf : ∀ a, SameSteps s s' (f a).run (f' a).run) : SameSteps s s' (r >>= f).run (r' >>= f').run := by
  rw [ExceptT.run_bind, ExceptT.run_bind]
  refine hr.bind fun x => ?_
  cases x with
  | ok a => exact hf a
  | error e => exact .pure _

theorem runTraced {t t' : Traced Event α} (h : SameSteps s s' t t') :
    SameSteps s s' (liftM t : Run α).run (liftM t' : Run α).run :=
  h.bind fun _ => .pure _

theorem runNoted (t : Traced Note α) : SameSteps s s' (liftM t : Run α).run (liftM t : Run α).run :=
  .noted (Except.ok <$> t)

end SameSteps

variable (s s' : Service)

/-! ## Listings -/

theorem sameSteps_next (p : Pages) : SameSteps s s' (p.next s) (p.next s') := by
  rw [Pages.next, Pages.next]
  split
  · exact .pure _
  · refine SameSteps.bind (.alerts p.ref p.nextPage) fun x => ?_
    split <;> exact .pure _

theorem sameSteps_drain (budget : Nat) (p : Pages) : SameSteps s s' (p.drain s budget).run (p.drain s' budget).run := by
  induction budget generalizing p with
  | zero => exact .pure _
  | succ budget ih =>
    rw [Pages.drain, Pages.drain]
    refine SameSteps.runBind (sameSteps_next s s' p).runTraced fun x => ?_
    rcases x with ⟨_ | (e | items), p'⟩
    · exact .pure _
    · exact .pure _
    · exact SameSteps.runBind (ih p') fun _ => .pure _

theorem sameSteps_fetchSet (ref : Option String) (label : String) :
    SameSteps s s' (fetchSet s ref label).run (fetchSet s' ref label).run := by
  rw [fetchSet, fetchSet]
  refine SameSteps.runBind (sameSteps_drain s s' _ (.start ref)) fun _ => ?_
  refine SameSteps.runBind (.runNoted _) fun _ => ?_
  refine SameSteps.runBind (.runNoted _) fun _ => ?_
  exact SameSteps.runBind (.runNoted _) fun _ => .pure _

theorem sameSteps_decoded {α : Type} (decode : Decoder α) (j : Json) :
    SameSteps s s' (decoded decode j).run (decoded decode j).run := by
  unfold decoded
  split <;> exact .pure _

theorem sameSteps_commitsFrom (number budget page : Nat) :
    SameSteps s s' (commitsFrom s number budget page).run (commitsFrom s' number budget page).run := by
  induction budget generalizing page with
  | zero => exact .pure _
  | succ budget ih =>
    rw [commitsFrom, commitsFrom]
    refine SameSteps.runBind (.commits number page) fun j => ?_
    refine SameSteps.runBind (sameSteps_decoded s s' commits j) fun shas => ?_
    split
    · exact .pure _
    · exact SameSteps.runBind (ih (page + 1)) fun _ => .pure _

/-! ## Further comparisons -/

theorem sameSteps_secondaryIf (subject : AlertSet) (label : String) (target : Option String) :
    SameSteps s s' (secondaryIf s subject label target) (secondaryIf s' subject label target) := by
  cases target with
  | none => exact .pure _
  | some t =>
    rw [secondaryIf, secondaryIf, secondary, secondary]
    refine SameSteps.bind (sameSteps_fetchSet s s' (some t) _) fun x => ?_
    split
    · exact SameSteps.bind (.noted _) fun _ => .pure _
    · split
      · exact SameSteps.bind (.noted _) fun _ => .pure _
      · exact .pure _

theorem sameSteps_pullBaseOf (ref : String) (number : Nat) :
    SameSteps s s' (pullBaseOf s ref number) (pullBaseOf s' ref number) := by
  rw [pullBaseOf, pullBaseOf]
  refine SameSteps.bind ?_ fun x => ?_
  · exact SameSteps.runBind (.pull number) (sameSteps_decoded s s' pullBase)
  · split
    · exact .pure _
    · exact SameSteps.bind (.noted _) fun _ => .pure _

theorem sameSteps_previousCommitOf (ref : String) (number : Nat) :
    SameSteps s s' (previousCommitOf s ref number) (previousCommitOf s' ref number) := by
  rw [previousCommitOf, previousCommitOf]
  refine SameSteps.bind ?_ fun x => ?_
  · refine SameSteps.runBind (sameSteps_commitsFrom s s' number _ 1) fun shas => ?_
    exact SameSteps.runBind (.runNoted _) fun _ => .pure _
  · split
    · split
      · exact .pure _
      · exact SameSteps.bind (.noted _) fun _ => .pure _
    · exact SameSteps.bind (.noted _) fun _ => .pure _

theorem sameSteps_pullRefs (ref : String) : SameSteps s s' (pullRefs s ref) (pullRefs s' ref) := by
  rw [pullRefs, pullRefs]
  split
  · exact .pure _
  · exact SameSteps.bind (.noted _) fun _ => .pure _
  · rename_i number _
    refine (sameSteps_pullBaseOf s s' ref number).bind fun _ => ?_
    exact (sameSteps_previousCommitOf s s' ref number).bind fun _ => .pure _

/-! ## The comparison -/

theorem sameSteps_compare (ref : String) : SameSteps s s' (compare s ref).run (compare s' ref).run := by
  rw [compare, compare]
  refine SameSteps.runBind (.runNoted _) fun _ => ?_
  refine SameSteps.runBind (sameSteps_fetchSet s s' _ _) fun subject => ?_
  refine SameSteps.runBind (sameSteps_fetchSet s s' _ _) fun default => ?_
  refine SameSteps.runBind (.runNoted _) fun _ => ?_
  refine SameSteps.runBind (sameSteps_pullRefs s s' ref).runTraced fun refs => ?_
  refine SameSteps.runBind (sameSteps_secondaryIf s s' subject _ _).runTraced fun _ => ?_
  exact SameSteps.runBind (sameSteps_secondaryIf s s' subject _ _).runTraced fun _ => .pure _

/-! ## What a comparison leaves -/

theorem SameSteps.leaves {α : Type} {P : Event → Prop} (hn : ∀ n, P (.note n)) (hc : ∀ c, P (.call c)) {s : Service}
    {t t' : Traced Event α} (h : SameSteps s s t t') : Leaves P t := by
  induction h with
  | noted t => exact .noted hn t
  | alerts | pull | commits => exact .ask hn (hc _) _
  | bind _ _ ih ihf => exact ih.bind (ihf _)

/-- A comparison hands no token to a connector: it takes notes and puts questions. -/
@[simp] theorem tokens_compare (s : Service) (ref : String) : tokens (trace (compare s ref)) = [] :=
  List.filterMap_eq_nil_iff.2
    ((sameSteps_compare s s ref).leaves (P := fun e => e.token? = none) (fun _ => rfl) fun _ => rfl)

end ScanDelta.Remote

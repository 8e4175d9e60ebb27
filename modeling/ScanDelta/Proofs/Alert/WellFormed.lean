import ScanDelta.Proofs.Alert.Message
import ScanDelta.Proofs.Remote.Fields
import ScanDelta.Sarif.Result

/-!
# Alerts are well-formed

* `Alert.WellFormed a` : no text of the alert is empty, and its message is a sanitized one;
* `Filled o` : a text that may be missing, but is not empty; it is kept by the ways in which texts are looked for;
* `Sarif.FromScan a` : well-formed, and without what is known of alerts from the remote listing only;
* `Remote.FromListing raw a` : well-formed, with a fingerprint and a number exactly if the raw object has them;
* `alerts_are_wellFormed` : the alerts of all results and of all raw objects are such alerts.
-/

set_option autoImplicit false

namespace ScanDelta

/-- Rule and location are not empty, the message is a sanitized one, and every other text is missing or not empty. -/
structure Alert.WellFormed (a : Alert) : Prop where
  ruleId : a.ruleId ≠ ""
  location : a.location ≠ ""
  sanitized : Message.sanitize (some a.message) = a.message
  oneLine : Message.OneLine a.message
  texts : ∀ o ∈ [a.htmlUrl, a.ruleName, a.helpUri, a.securitySeverity, a.dismissedReason, a.analysisKey], o ≠ some ""

/-! ## Texts that are not empty -/

/-- A text that is missing or not empty. -/
def Filled (o : Option String) : Prop := o ≠ some ""

section Filled
variable {α : Type}

@[simp] theorem filled_none : Filled none := nofun

theorem Filled.orElse {o o' : Option String} (h : Filled o) (h' : Filled o') : Filled (o <|> o') := by
  cases o with
  | none => exact h'
  | some t => exact h

theorem Filled.getD_ne_empty {o : Option String} (h : Filled o) {default : String} (hdefault : default ≠ "") :
    o.getD default ≠ "" := by
  cases o with
  | none => exact hdefault
  | some t => exact fun ht => h (congrArg some ht)

theorem filled_bind {f : α → Option String} (h : ∀ x, Filled (f x)) (o : Option α) : Filled (o.bind f) := by
  cases o with
  | none => exact filled_none
  | some x => exact h x

theorem filled_findSome? {f : α → Option String} (h : ∀ x, Filled (f x)) (xs : List α) : Filled (xs.findSome? f) := by
  intro hempty
  obtain ⟨-, x, -, -, hx, -⟩ := List.findSome?_eq_some_iff.1 hempty
  exact h x hx

theorem filled_text? (j : Json) : Filled j.text? := fun h => ((j.text?_eq_some_iff "").1 h).ne_empty rfl

theorem filled_textAt? (name : String) (j : Json) : Filled (j.textAt? name) := filled_bind filled_text? _

theorem filled_textUnder? (path : List String) (j : Json) : Filled (j.textUnder? path) := filled_bind filled_text? _

theorem filled_firstText? (names : List String) (j : Json) : Filled (j.firstText? names) :=
  filled_findSome? (fun name => filled_textAt? name j) names

end Filled

/-! ## Locations -/

theorem joined_ne_empty {path : String} (h : path ≠ "") (line column : Option String) :
    Sarif.Location.joined path line column ≠ "" := by
  unfold Sarif.Location.joined
  split <;> simp [h]

theorem Filled.map_joined {o : Option String} (h : Filled o) (line column : Option String) :
    Filled (o.map fun path => Sarif.Location.joined path line column) := by
  cases o with
  | none => exact filled_none
  | some path => exact fun hempty => joined_ne_empty (fun hp => h (congrArg some hp)) line column (Option.some.inj hempty)

theorem filled_physicalOf? (owner : Json) : Filled (Sarif.Location.physicalOf? owner) := by
  rw [Sarif.Location.physicalOf?_eq, Sarif.Location.physicalUnder?]
  exact ((filled_textUnder? _ owner).orElse (filled_textUnder? _ owner)).map_joined _ _

theorem filled_flatLocation? (loc : Json) : Filled (Remote.flatLocation? loc) := by
  rw [Remote.flatLocation?_eq]
  exact (filled_textUnder? _ loc).map_joined _ _

theorem filled_ofResult? (result : Json) : Filled (Sarif.Location.ofResult? result) := by
  have hphysical : ∀ owners, Filled (Sarif.Location.firstPhysical? owners) := filled_findSome? filled_physicalOf?
  have hlogical : ∀ logical, Filled (Sarif.Location.logical? logical) := filled_firstText? _
  have hstep : ∀ step : Json, Filled ((step.member? "location").bind Sarif.Location.physicalOf?) := fun step =>
    filled_bind filled_physicalOf? _
  exact (hphysical _).orElse ((hphysical _).orElse ((filled_findSome? hlogical _).orElse (filled_findSome? hstep _)))

theorem filled_locationOf? (raw : Json) : Filled (Remote.locationOf? raw) := by
  have hinstance : ∀ inst, Filled (Remote.instanceLocation? inst) := fun inst =>
    filled_bind (fun loc => (filled_physicalOf? loc).orElse (filled_flatLocation? loc)) _
  exact (hinstance _).orElse (filled_findSome? hinstance _)

/-! ## Alerts from scans -/

theorem Sarif.wellFormed_plainAlertOf (rules : Sarif.Rules) (result : Json) :
    (Sarif.plainAlertOf rules result).WellFormed := by
  have hseverity : ∀ owner, Filled (Sarif.severityIn? owner) := fun owner => filled_bind (filled_firstText? _) _
  constructor
  case ruleId => exact (filled_textAt? "ruleId" result).getD_ne_empty (by decide)
  case location => exact (filled_ofResult? result).getD_ne_empty (by decide)
  case sanitized => exact Message.sanitize_sanitize _
  case oneLine => exact Message.oneLine_sanitize _
  case texts =>
    intro o ho
    simp only [Sarif.plainAlertOf, List.mem_cons, List.not_mem_nil, or_false] at ho
    rcases ho with rfl | rfl | rfl | rfl | rfl | rfl
    · exact filled_none
    · exact filled_bind (filled_textAt? "name") _
    · exact filled_bind (filled_textAt? "helpUri") _
    · exact (hseverity result).orElse (filled_bind hseverity _)
    · exact filled_none
    · exact filled_none

/-- A well-formed alert that has neither number nor address, was never dismissed and is told apart by rule and
location. -/
structure Sarif.FromScan (a : Alert) : Prop where
  wellFormed : a.WellFormed
  number : a.number = none
  htmlUrl : a.htmlUrl = none
  dismissedReason : a.dismissedReason = none
  analysisKey : a.analysisKey = none
  identity : a.identity = .ruleAt a.ruleId a.location

/-! ## Alerts from the remote listing -/

namespace Remote

theorem wellFormed_plainAlertOf (raw : Json) : (plainAlertOf raw).WellFormed := by
  have hseverity : ∀ owner, Filled (severityIn? owner) := fun owner => filled_bind (filled_firstText? _) _
  constructor
  case ruleId => exact (filled_textAt? "id" _).getD_ne_empty (by decide)
  case location => exact (filled_locationOf? raw).getD_ne_empty (by decide)
  case sanitized => exact Message.sanitize_sanitize _
  case oneLine => exact Message.oneLine_sanitize _
  case texts =>
    intro o ho
    simp only [plainAlertOf, List.mem_cons, List.not_mem_nil, or_false] at ho
    rcases ho with rfl | rfl | rfl | rfl | rfl | rfl
    · exact filled_textAt? "html_url" raw
    · exact filled_textAt? "name" _
    · exact filled_firstText? _ _
    · exact (hseverity _).orElse (hseverity _)
    · exact filled_firstText? _ raw
    · exact (filled_textAt? "analysis_key" _).orElse (filled_firstText? _ raw)

/-- A well-formed alert that is told apart by a fingerprint exactly if the raw object has one, and then by one that is not
empty; its number is the whole number of 64 bits, if it is one, that the raw object has. -/
structure FromListing (raw : Json) (a : Alert) : Prop where
  wellFormed : a.WellFormed
  fingerprint : a.identity.isFingerprint = true ↔ ∃ path ∈ [["most_recent_instance", "analysis_key"], ["analysis_key"],
    ["fingerprint"]], ∃ text, raw.HasTextAt path text
  fingerprint_ne_empty : a.identity ≠ .fingerprint ""
  number (n : Nat) : a.number = some n ↔ raw.get? "number" = some (.num (.int n)) ∧ n < Nat.pow 2 64

theorem isFingerprint_identity (a : Alert) : a.identity.isFingerprint = true ↔ ∃ key, a.analysisKey = some key := by
  rw [Alert.identity]
  cases a.analysisKey with
  | none => simp [Identity.isFingerprint]
  | some key => simp [Identity.isFingerprint]

theorem exists_fingerprintOf?_iff (raw : Json) : (∃ key, fingerprintOf? raw = some key) ↔
    ∃ path ∈ fingerprintPaths, ∃ text, raw.HasTextAt path text := by
  rw [fingerprintOf?_eq, firstFingerprint?, ← Option.isSome_iff_exists, List.findSome?_isSome_iff]
  simp only [Option.isSome_iff_exists, Json.textUnder?_eq_some_iff]

theorem nat?_eq_some_iff (j : Json) (n : Nat) : j.nat? = some n ↔ j = .num (.int n) ∧ n < Nat.pow 2 64 := by
  have hgreatest : (Json.greatestNat : Int) = 18446744073709551615 := by decide
  have hpow : Nat.pow 2 64 = 18446744073709551616 := by decide
  rw [hpow]
  constructor
  · intro h
    cases j with
    | num number =>
      cases number with
      | int value =>
        rw [Json.nat?, hgreatest] at h
        split at h
        · rename_i hrange
          have hvalue := Option.some.inj h
          have hcast : value = (n : Int) := by omega
          rw [hcast] at hrange ⊢
          exact ⟨rfl, by omega⟩
        · cases h
      | double value => cases h
    | _ => cases h
  · rintro ⟨rfl, hlt⟩
    rw [Json.nat?, hgreatest, if_pos (by omega), Int.toNat_natCast]

end Remote

/-- **Every alert is well-formed**, whatever the result and the rules of its run or the raw object are. -/
theorem alerts_are_wellFormed :
    (∀ (rules : Sarif.Rules) (result : Json), Sarif.FromScan (Sarif.alertOf rules result).value) ∧
      ∀ raw : Json, Remote.FromListing raw (Remote.alertOf raw).value := by
  constructor
  · intro rules result
    rw [Sarif.value_alertOf]
    exact ⟨Sarif.wellFormed_plainAlertOf rules result, rfl, rfl, rfl, rfl, rfl⟩
  · intro raw
    rw [Remote.value_alertOf]
    have hwell := Remote.wellFormed_plainAlertOf raw
    constructor
    case wellFormed => exact hwell
    case fingerprint =>
      rw [Remote.isFingerprint_identity]
      exact Remote.exists_fingerprintOf?_iff raw
    case fingerprint_ne_empty =>
      have hkey := hwell.texts (Remote.plainAlertOf raw).analysisKey (by simp)
      intro hempty
      rw [Alert.identity] at hempty
      split at hempty
      · rename_i key heq
        exact hkey (heq.trans (congrArg some (Identity.fingerprint.inj hempty)))
      · cases hempty
    case number =>
      intro n
      show (raw.get? "number").bind Json.nat? = some n ↔ _
      simp only [Option.bind_eq_some_iff, Remote.nat?_eq_some_iff]
      constructor
      · rintro ⟨v, hget, rfl, hlt⟩
        exact ⟨hget, hlt⟩
      · rintro ⟨hget, hlt⟩
        exact ⟨_, hget, rfl, hlt⟩

end ScanDelta

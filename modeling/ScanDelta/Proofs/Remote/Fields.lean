import ScanDelta.Proofs.Remote.KeyData

/-!
# Where the fields of an alert come from

* `securityPaths`, `messagePaths` : where raw objects have a security severity and a message;
* `Offer`, `offers raw` : the locations that the instances of a raw object offer, in the order in which they are tried;
* `FirstUsable raw a` : every field of the alert is the first usable one of its candidates;
* `severityIn?_getOrNull`, `messageText?_eq`, `locationOf?_eq` : the readers of the fields, by their candidates;
* `fields_are_first_usable` : so it is for the alert of every raw object.
-/

set_option autoImplicit false

namespace ScanDelta.Remote

open Sarif.Location (Joins PhysicalText)

/-! ## Candidates -/

/-- The four names under the properties of the rule, and only then those of the latest instance. -/
def securityPaths : List (List String) :=
  [["rule", "properties", "security-severity"], ["rule", "properties", "securitySeverity"],
    ["rule", "properties", "problem.severity"], ["rule", "properties", "problemSeverity"],
    ["most_recent_instance", "properties", "security-severity"],
    ["most_recent_instance", "properties", "securitySeverity"],
    ["most_recent_instance", "properties", "problem.severity"],
    ["most_recent_instance", "properties", "problemSeverity"]]

/-- The message, that of the latest instance, and the name of the rule. -/
def messagePaths : List (List String) :=
  [["message", "text"], ["most_recent_instance", "message", "text"], ["rule", "name"]]

/-- A location that an instance offers: a physical one, or a flat one. -/
inductive Offer where
  | physical (inst : Json)
  | flat (inst : Json)

namespace Offer

/-- What an offer shows. -/
def Shows : Offer → String → Prop
  | physical inst, text => PhysicalText inst ["location", "physicalLocation"] text
  | flat inst, text => ∃ path, inst.HasTextAt ["location", "path"] path ∧
      Joins path (inst.HasTextAt ["location", "start_line"]) (inst.HasTextAt ["location", "start_column"]) text

/-- The same as a function. -/
def text? : Offer → Option String
  | physical inst => (inst.member? "location").bind Sarif.Location.physicalOf?
  | flat inst => (inst.member? "location").bind flatLocation?

theorem text?_eq_some_iff (o : Offer) (text : String) : o.text? = some text ↔ o.Shows text := by
  cases o with
  | physical inst => exact Sarif.Location.physicalOf?_member?_eq_some_iff "location" inst text
  | flat inst =>
    have htext := inst.textUnder?_eq_some_iff
    rw [Offer.text?, Json.bind_member? flatLocation? rfl, flatLocation?_eq]
    simp only [← Json.textUnder?_cons, Option.map_eq_some_iff, htext,
      Sarif.Location.joined_eq_iff (htext _) (htext _), Shows]

end Offer

/-- The latest instance is asked first, then all instances in order, each for its physical location and then for the flat
one. -/
def offers (raw : Json) : List Offer :=
  (raw.getOrNull "most_recent_instance" :: raw.list "instances").flatMap fun inst => [.physical inst, .flat inst]

/-- Each field of the alert is the first usable one of its candidates. -/
structure FirstUsable (raw : Json) (a : Alert) : Prop where
  htmlUrl : Chosen raw.HasTextAt [["html_url"]] a.htmlUrl
  ruleName : Chosen raw.HasTextAt [["rule", "name"]] a.ruleName
  helpUri : Chosen raw.HasTextAt [["rule", "helpUri"], ["rule", "help_uri"]] a.helpUri
  securitySeverity : Chosen raw.HasTextAt securityPaths a.securitySeverity
  dismissedReason : Chosen raw.HasTextAt [["dismissed_reason"], ["dismissedReason"]] a.dismissedReason
  analysisKey : Chosen raw.HasTextAt fingerprintPaths a.analysisKey
  ruleId : ∃ o, Chosen raw.HasTextAt [rulePath] o ∧ a.ruleId = o.getD "(rule id unavailable)"
  location : ∃ o, Chosen Offer.Shows (offers raw) o ∧ a.location = o.getD "(location unavailable)"
  message : ∃ o, Chosen raw.HasTextAt messagePaths o ∧ a.message = Message.sanitize o
  /-- The first usable one counts, whether it is the name of a level or not. -/
  level : ∃ o, Chosen raw.HasTextAt [["severity"], ["rule", "severity"]] o ∧
    a.level = (o.bind Level.parse?).getD .warning

/-! ## Readers -/

section Readers
variable (raw : Json)

theorem messageText?_eq (owner : Json) : messageText? owner = owner.textUnder? ["message", "text"] := by
  rw [messageText?, Json.bind_member? (Json.textAt? "text") rfl, Json.textUnder?_cons, Json.textUnder?_singleton]

theorem severityIn?_getOrNull (name : String) : severityIn? (raw.getOrNull name) =
    (severityNames.map ([name, "properties", ·])).findSome? fun path => raw.textUnder? path := by
  rw [severityIn?, Json.bind_member? (Json.firstText? severityNames) rfl, Json.firstText?, List.findSome?_map]
  simp only [Function.comp_def, Json.textUnder?_cons _ (_ :: _), Json.textUnder?_singleton]

theorem instanceLocation?_eq_or (inst : Json) :
    instanceLocation? inst = ((Offer.physical inst).text?).or (Offer.flat inst).text? := by
  rw [instanceLocation?, Offer.text?, Offer.text?]
  cases inst.member? "location" with
  | none => rfl
  | some loc =>
    rw [Option.bind_some, Option.bind_some, Option.bind_some, Option.orElse_eq_orElse, Option.orElse_eq_or]

theorem locationOf?_eq : locationOf? raw = (offers raw).findSome? Offer.text? := by
  have hlist : ∀ is : List Json, is.findSome? instanceLocation? =
      (is.flatMap fun inst => [Offer.physical inst, Offer.flat inst]).findSome? Offer.text? := by
    intro is
    induction is with
    | nil => rfl
    | cons inst is ih =>
      rw [List.flatMap_cons, List.findSome?_append, ← ih, Json.findSome?_pair, Option.orElse_eq_orElse, Option.orElse_eq_or,
        ← instanceLocation?_eq_or, List.findSome?_cons]
      cases instanceLocation? inst <;> rfl
  rw [offers, ← hlist, List.findSome?_cons, locationOf?, latestInstance_eq]
  cases instanceLocation? (raw.getOrNull "most_recent_instance") <;> rfl

/-- What the reader finds is chosen. -/
theorem chosen_of_findSome? {paths : List (List String)} {o : Option String}
    (h : (paths.findSome? fun path => raw.textUnder? path) = o) : Chosen raw.HasTextAt paths o :=
  (chosen_iff raw.textUnder?_eq_some_iff paths o).2 h

theorem chosen_ruleField (name : String) : Chosen raw.HasTextAt [["rule", name]] ((ruleOf raw).textAt? name) := by
  refine chosen_of_findSome? raw ?_
  rw [textAt?_ruleOf, List.findSome?_singleton]

theorem chosen_helpUri : Chosen raw.HasTextAt [["rule", "helpUri"], ["rule", "help_uri"]]
    ((ruleOf raw).firstText? ["helpUri", "help_uri"]) := by
  refine chosen_of_findSome? raw ?_
  rw [Json.findSome?_pair, Json.firstText?_pair, textAt?_ruleOf, textAt?_ruleOf]

theorem securityPaths_eq : securityPaths =
    severityNames.map (["rule", "properties", ·]) ++ severityNames.map (["most_recent_instance", "properties", ·]) := rfl

theorem chosen_securitySeverity : Chosen raw.HasTextAt securityPaths
    (severityIn? (ruleOf raw) <|> severityIn? (latestInstance raw)) := by
  refine chosen_of_findSome? raw ?_
  rw [securityPaths_eq, List.findSome?_append, ← severityIn?_getOrNull, ← severityIn?_getOrNull, ruleOf, Json.getD_member?,
    latestInstance_eq, Option.orElse_eq_orElse, Option.orElse_eq_or]

theorem chosen_dismissedReason : Chosen raw.HasTextAt [["dismissed_reason"], ["dismissedReason"]]
    (raw.firstText? ["dismissed_reason", "dismissedReason"]) := by
  refine chosen_of_findSome? raw ?_
  rw [Json.findSome?_pair, Json.firstText?_pair, Json.textUnder?_singleton, Json.textUnder?_singleton]

theorem chosen_message : Chosen raw.HasTextAt messagePaths
    (messageText? raw <|> messageText? (latestInstance raw) <|> (ruleOf raw).textAt? "name") := by
  refine chosen_of_findSome? raw ?_
  rw [textAt?_ruleOf, messageText?_eq, messageText?_eq, latestInstance_eq, ← Json.textUnder?_cons, messagePaths,
    List.findSome?_cons, Json.findSome?_pair]
  cases raw.textUnder? ["message", "text"] <;> rfl

theorem chosen_level : Chosen raw.HasTextAt [["severity"], ["rule", "severity"]]
    (raw.textAt? "severity" <|> (ruleOf raw).textAt? "severity") := by
  refine chosen_of_findSome? raw ?_
  rw [Json.findSome?_pair, textAt?_ruleOf, Json.textUnder?_singleton]

end Readers

/-- **Every field of an alert is the first usable one of its candidates**, whatever the raw object is: candidates that are
no usable texts, of whatever type, do not hide one behind them, and what stands behind the first usable one does not
count. -/
theorem fields_are_first_usable (raw : Json) : FirstUsable raw (alertOf raw).value := by
  rw [value_alertOf]
  constructor
  case htmlUrl =>
    refine chosen_of_findSome? raw ?_
    rw [List.findSome?_singleton, Json.textUnder?_singleton]
    rfl
  case ruleName => exact chosen_ruleField raw "name"
  case helpUri => exact chosen_helpUri raw
  case securitySeverity => exact chosen_securitySeverity raw
  case dismissedReason => exact chosen_dismissedReason raw
  case analysisKey => exact chosen_of_findSome? raw (fingerprintOf?_eq raw).symm
  case ruleId => exact ⟨_, chosen_ruleField raw "id", rfl⟩
  case location => exact ⟨_, (chosen_iff Offer.text?_eq_some_iff _ _).2 (locationOf?_eq raw).symm, rfl⟩
  case message => exact ⟨_, chosen_message raw, rfl⟩
  case level => exact ⟨_, chosen_level raw, rfl⟩

end ScanDelta.Remote

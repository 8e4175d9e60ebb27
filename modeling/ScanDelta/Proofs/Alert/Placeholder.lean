import ScanDelta.Proofs.Alert.Message
import ScanDelta.Proofs.Json.Compact
import ScanDelta.Proofs.Remote.Fields
import ScanDelta.Sarif.Result

/-!
# When there is no message to show

* `Message.Wordless t` : the text is blank; `Message.SaysNone t` : it has the words of the placeholder;
* `Message.sanitize_eq_placeholder_iff` : these are the texts that become the placeholder;
* `Sarif.ArgumentShows a t` : the text of an argument; `Sarif.argumentText_eq_iff` : it is the one that is taken;
* `Sarif.MessageSource` : where a result has a message, and what it shows there (`Sarif.chosen_rawMessage`);
* `Message.FollowsFirst Shows xs message` : the placeholder stands for the first usable text among `xs`, or for none;
* `Message.placeholder_follows_first_usable` : so it is for results and for raw objects; texts behind it do not count.
-/

set_option autoImplicit false

namespace ScanDelta

/-! ## Texts that become the placeholder -/

namespace Message

open Text

/-- There is nothing but blanks. -/
def Wordless (t : String) : Prop := ∀ c ∈ t.toList, isBlank c = true

/-- The words of the text are those of the placeholder. -/
def SaysNone (t : String) : Prop := MadeOf t.toList ["(no".toList, "message".toList, "provided)".toList]

theorem words_placeholder :
    words placeholder.toList = ["(no".toList, "message".toList, "provided)".toList] := by decide

/-- A text within the limit is not cut, and the placeholder is shorter than a text that was. -/
theorem cut_joinWith_eq_placeholder_iff {ws : List (List Char)} (h : ∀ w ∈ ws, IsWord w) :
    String.ofList (cut (joinWith ' ' ws)) = placeholder ↔ words placeholder.toList = ws := by
  constructor
  · intro heq
    have hcut : cut (joinWith ' ' ws) = placeholder.toList := by rw [← heq, String.toList_ofList]
    have hle : (joinWith ' ' ws).length ≤ limit := by
      by_contra hlt
      have hlength := length_cut_of_lt (Nat.not_le.1 hlt)
      rw [hcut] at hlength
      exact absurd hlength (by decide)
    rw [cut_of_le hle] at hcut
    rw [← hcut, words_joinWith h]
  · rintro rfl
    decide

theorem sanitize_eq_placeholder_iff (raw : Option String) :
    sanitize raw = placeholder ↔ Wordless (raw.getD "") ∨ SaysNone (raw.getD "") := by
  by_cases hnil : words (raw.getD "").toList = []
  · rw [sanitize_of_words_eq_nil hnil]
    exact iff_of_true rfl (.inl ((words_eq_nil_iff _).1 hnil))
  · have hwordless : ¬ Wordless (raw.getD "") := fun h => hnil ((words_eq_nil_iff _).2 h)
    rw [or_iff_right hwordless, SaysNone, madeOf_iff, sanitize_of_words_ne_nil hnil, ← words_placeholder]
    exact cut_joinWith_eq_placeholder_iff fun w => isWord_of_mem_words

theorem wordless_empty : Wordless "" := by
  intro c hc
  cases hc

/-- Texts with spaces between them are blank together. -/
theorem wordless_join_iff (texts : List String) : Wordless (Text.join " " texts) ↔ ∀ t ∈ texts, Wordless t := by
  induction texts with
  | nil => exact iff_of_true wordless_empty nofun
  | cons t texts ih =>
    cases texts with
    | nil =>
      rw [Text.join, String.intercalate_singleton, List.forall_mem_singleton]
    | cons second texts =>
      have hspace : ∀ c ∈ " ".toList, isBlank c = true := by
        rw [show " ".toList = [' '] from rfl, List.forall_mem_singleton]
        rfl
      rw [Text.join, String.intercalate_cons_cons, ← Text.join, List.forall_mem_cons, ← ih, Wordless,
        String.toList_append, String.toList_append, List.forall_mem_append, List.forall_mem_append,
        and_iff_left hspace]
      rfl

/-! ## The first usable text decides -/

/-- The message is the placeholder if there is no usable text, and where there is one, exactly if the first of them is
blank or says the same. -/
structure FollowsFirst {α : Type} (Shows : α → String → Prop) (xs : List α) (message : String) : Prop where
  nothing : (∀ x ∈ xs, ∀ t, ¬ Shows x t) → message = "(no message provided)"
  first : ∀ before x after t, xs = before ++ x :: after → (∀ y ∈ before, ∀ u, ¬ Shows y u) → Shows x t →
    (message = "(no message provided)" ↔ Wordless t ∨ SaysNone t)

theorem followsFirst_of_chosen {α : Type} {Shows : α → String → Prop} {xs : List α} {o : Option String}
    (h : Chosen Shows xs o) : FollowsFirst Shows xs (sanitize o) := by
  constructor
  case nothing =>
    intro hnone
    rw [h.none hnone]
    exact (sanitize_eq_placeholder_iff none).2 (.inl wordless_empty)
  case first =>
    intro before x after t hxs hbefore ht
    rw [h.first before x after t hxs hbefore ht]
    exact sanitize_eq_placeholder_iff (some t)

end Message

/-! ## The messages of a result -/

namespace Sarif

/-- A string stands for itself as an argument, any other value for its text without blanks. -/
inductive ArgumentShows : Json → String → Prop
  | str (s : String) : ArgumentShows (.str s) s
  | other {j : Json} {text : List Char} (hj : ∀ s, j ≠ .str s) (h : j.WrittenAs text) :
    ArgumentShows j (String.ofList text)

theorem argumentText_of_ne_str {j : Json} (hj : ∀ s, j ≠ .str s) : argumentText j = j.compact := by
  cases j with
  | str s => exact absurd rfl (hj s)
  | _ => rfl

theorem argumentText_eq_iff (a : Json) (t : String) : argumentText a = t ↔ ArgumentShows a t := by
  constructor
  · rintro rfl
    by_cases hstr : ∃ s, a = .str s
    · obtain ⟨s, rfl⟩ := hstr
      exact .str s
    · have ha : ∀ s, a ≠ .str s := fun s hs => hstr ⟨s, hs⟩
      rw [argumentText_of_ne_str ha, ← String.ofList_toList (s := a.compact)]
      exact .other ha ((Json.compact_eq_iff a _).1 rfl)
  · intro h
    cases h with
    | str => rfl
    | other hj htext => rw [argumentText_of_ne_str hj, ← (Json.compact_eq_iff a _).2 htext, String.ofList_toList]

/-- Where a result has a message. -/
inductive MessageSource where
  | markdown
  | plain
  | arguments
  deriving DecidableEq, Repr

namespace MessageSource

/-- They are tried in this order. -/
def all : List MessageSource := [markdown, plain, arguments]

/-- What a result shows there: a usable text, or the texts of all arguments with spaces between them. -/
def Shows (result : Json) : MessageSource → String → Prop
  | markdown, t => result.HasTextAt ["message", "markdown"] t
  | plain, t => result.HasTextAt ["message", "text"] t
  | arguments, t => ∃ args, result.under? ["message", "arguments"] = some (.arr args) ∧ args ≠ [] ∧
      t = Text.join " " (args.map argumentText)

/-- The texts of all arguments, if there are any. -/
def joined? (message : Json) : Option String :=
  match message.list "arguments" with
  | [] => none
  | args => some (Text.join " " (args.map argumentText))

/-- The same as a function. -/
def text? (result : Json) : MessageSource → Option String
  | markdown => result.textUnder? ["message", "markdown"]
  | plain => result.textUnder? ["message", "text"]
  | arguments => joined? (result.getOrNull "message")

theorem joined?_eq_some_iff (message : Json) (t : String) : joined? message = some t ↔
    ∃ args, message.get? "arguments" = some (.arr args) ∧ args ≠ [] ∧ t = Text.join " " (args.map argumentText) := by
  rw [joined?, Json.list]
  cases message.get? "arguments" with
  | none => simp
  | some v =>
    cases v with
    | arr args => cases args <;> simp [Json.items?, eq_comm]
    | _ => simp [Json.items?]

theorem under?_message (result : Json) (name : String) :
    result.under? ["message", name] = (result.getOrNull "message").get? name := by
  rw [Json.under?, Json.getOrNull]
  cases result.get? "message" with
  | none => rfl
  | some v => simp [Json.under?]

theorem text?_eq_some_iff (result : Json) (x : MessageSource) (t : String) :
    x.text? result = some t ↔ x.Shows result t := by
  cases x with
  | markdown | plain => exact result.textUnder?_eq_some_iff _ t
  | arguments =>
    rw [text?, joined?_eq_some_iff, Shows, under?_message]

end MessageSource

theorem rawMessage?_eq (result : Json) :
    rawMessage? result = MessageSource.all.findSome? (MessageSource.text? result) := by
  rw [rawMessage?, Json.bind_member? _ rfl, Json.firstText?_pair, MessageSource.all, List.findSome?_cons,
    Json.findSome?_pair]
  simp only [MessageSource.text?, Json.textUnder?_cons _ [_], Json.textUnder?_singleton]
  cases (result.getOrNull "message").textAt? "markdown" <;> rfl

theorem chosen_rawMessage (result : Json) :
    Chosen (fun x => MessageSource.Shows result x) MessageSource.all (rawMessage? result) :=
  (chosen_iff (MessageSource.text?_eq_some_iff result) _ _).2 (rawMessage?_eq result).symm

end Sarif

/-! ## Messages of alerts -/

namespace Message

/-- **The first usable text decides whether there is a message.** The message of a result is looked for in the markdown,
the plain text and the arguments, that of a raw object in its own message, that of the latest instance and the name of
the rule. It is the placeholder if none of them is a usable text. If one is, the message is the placeholder exactly if the
first of them is blank or says the same: a blank text counts as usable, and hides the texts behind it. Arguments are
blank together; a string stands for itself among them. -/
theorem placeholder_follows_first_usable (rules : Sarif.Rules) (result raw : Json) :
    FollowsFirst (fun x => Sarif.MessageSource.Shows result x) Sarif.MessageSource.all
      (Sarif.alertOf rules result).value.message ∧
    (∀ args : List Json, Wordless (Text.join " " (args.map Sarif.argumentText)) ↔
      ∀ a ∈ args, Wordless (Sarif.argumentText a)) ∧
    (∀ a t, Sarif.argumentText a = t ↔ Sarif.ArgumentShows a t) ∧
    FollowsFirst raw.HasTextAt Remote.messagePaths (Remote.alertOf raw).value.message := by
  refine ⟨?_, ?_, Sarif.argumentText_eq_iff, ?_⟩
  · rw [Sarif.value_alertOf]
    exact followsFirst_of_chosen (Sarif.chosen_rawMessage result)
  · intro args
    rw [wordless_join_iff, List.forall_mem_map]
  · rw [Remote.value_alertOf]
    exact followsFirst_of_chosen (Remote.chosen_message raw)

/-- A result with a plain text, in front of which stands a blank markdown. -/
def blankMarkdown : Json := .obj [("message", .obj [("markdown", .str " "), ("text", .str "t")])]

/-- The plain text has words, none of the texts says the same as the placeholder, and yet that is the message. -/
theorem message_blankMarkdown :
    blankMarkdown.HasTextAt ["message", "text"] "t" ∧ ¬ Wordless "t" ∧
    (∀ x t, Sarif.MessageSource.Shows blankMarkdown x t → ¬ SaysNone t) ∧
    (Sarif.alertOf [] blankMarkdown).value.message = "(no message provided)" := by
  refine ⟨⟨.str "t", rfl, .str (by decide)⟩, ?_, ?_, by decide⟩
  · intro h
    exact absurd (h 't' (by decide)) (by decide)
  · intro x t hx hsays
    have hwords := hsays.words_eq
    have htext := (Sarif.MessageSource.text?_eq_some_iff blankMarkdown x t).2 hx
    cases x with
    | markdown =>
      obtain rfl : " " = t := Option.some.inj htext
      exact absurd hwords (by decide)
    | plain =>
      obtain rfl : "t" = t := Option.some.inj htext
      exact absurd hwords (by decide)
    | arguments => cases htext

end Message

end ScanDelta

import ScanDelta.Json.Printer
import ScanDelta.Http.Basic

/-!
# Traces

A `Traced ε α` is a value together with what was noted on the way to it, in order. The pure parts of a run
leave `Note`s: messages for the console, lines for the diagnostic log and requests that were sent.
-/

set_option autoImplicit false

namespace ScanDelta

structure Traced (ε α : Type) where
  events : List ε
  value : α
  deriving Repr

namespace Traced

variable {ε δ α β : Type}

def tell (e : ε) : Traced ε Unit := ⟨[e], ()⟩

def tellAll (es : List ε) : Traced ε Unit := ⟨es, ()⟩

instance : Monad (Traced ε) where
  pure a := ⟨[], a⟩
  bind t f := ⟨t.events ++ (f t.value).events, (f t.value).value⟩

@[simp] theorem pure_events (a : α) : (pure a : Traced ε α).events = [] := rfl
@[simp] theorem bind_events (t : Traced ε α) (f : α → Traced ε β) :
    (t >>= f).events = t.events ++ (f t.value).events := rfl

@[simp] theorem bind_value (t : Traced ε α) (f : α → Traced ε β) :
    (t >>= f).value = (f t.value).value := rfl

@[simp] theorem map_events (f : α → β) (t : Traced ε α) : (f <$> t).events = t.events :=
  List.append_nil _

@[simp] theorem map_value (f : α → β) (t : Traced ε α) : (f <$> t).value = f t.value := rfl

instance : LawfulMonad (Traced ε) :=
  LawfulMonad.mk' _ (fun t => congrArg (Traced.mk · t.value) (List.append_nil _)) (fun _ _ => rfl)
    (fun _ _ _ => congrArg (Traced.mk · _) (List.append_assoc ..))

/-- The same value with its events seen as events of another kind. -/
def lift (f : ε → δ) (t : Traced ε α) : Traced δ α := ⟨t.events.map f, t.value⟩

@[simp] theorem lift_events (f : ε → δ) (t : Traced ε α) : (t.lift f).events = t.events.map f := rfl
end Traced

/-! ## Notes -/

/-- How much a message for the console matters. -/
inductive Severity where
  | debug
  | info
  | warn
  | error
  deriving DecidableEq, Repr

inductive Note where
  | console (severity : Severity) (text : String)
  /-- A line of the diagnostic log. -/
  | line (text : String)
  | request (r : Http.Request)
  deriving DecidableEq, Repr

namespace Note

def line? : Note → Option String
  | line text => some text
  | _ => none

/-- How much of a JSON snippet a line of the log takes. -/
def snippetLimit : Nat := 4000

/-- A label and the text of a JSON value, cut to the limit. -/
def snippet (label : String) (value : Json) : String :=
  label ++ ": " ++ String.ofList ((Json.compact value).toList.take snippetLimit)

end Note

def info (text : String) : Traced Note Unit := .tell (.console .info text)

def debug (text : String) : Traced Note Unit := .tell (.console .debug text)

def warn (text : String) : Traced Note Unit := .tell (.console .warn text)

/-- A line of the log that the console shows as well. -/
def record (text : String) : Traced Note Unit := .tellAll [.console .debug text, .line text]

/-- A JSON snippet in the log, not shown on the console. -/
def recordSnippet (label : String) (value : Json) : Traced Note Unit :=
  .tell (.line (Note.snippet label value))

end ScanDelta

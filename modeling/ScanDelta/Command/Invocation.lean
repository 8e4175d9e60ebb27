import ScanDelta.Command.Options

/-!
# Reading the command line

`Invocation.parse` reads the words of a command line from left to right. A value is looked at only when the
next option or the end shows that it is complete, so an unknown word after it is refused first. A word that
begins with a hyphen is never the value of the option before it, unless it is a hyphen alone.
-/

set_option autoImplicit false

namespace ScanDelta.Command

/-! ## Words -/

inductive Word where
  /-- Two hyphens, after which no word is an option. -/
  | escape
  | long (name : String) (value : Option String)
  /-- Letters after one hyphen. -/
  | letters (cs : List Char)
  | plain (text : String)
  deriving DecidableEq, Repr

def Word.ofString (s : String) : Word :=
  match s.toList with
  | ['-', '-'] => .escape
  | '-' :: '-' :: cs =>
    match Text.splitFirst '=' cs with
    | some (name, value) => .long (String.ofList name) (some (String.ofList value))
    | none => .long (String.ofList cs) none
  | '-' :: c :: cs => .letters (c :: cs)
  | _ => .plain s

/-! ## Options -/

/-- The options that are known at one place of a command line. -/
structure Scope where
  parameters : List Parameter
  switches : List Switch

namespace Scope

def parameter? (s : Scope) (name : String) : Option Parameter :=
  s.parameters.find? fun p => p.name = name

def switch? (s : Scope) (name : String) : Option Switch :=
  s.switches.find? fun w => w.names.contains name

def parameterOfLetter? (s : Scope) (c : Char) : Option Parameter :=
  s.parameters.find? fun p => p.letter? = some c

def switchOfLetter? (s : Scope) (c : Char) : Option Switch :=
  s.switches.find? fun w => w.letter? = some c

end Scope

/-- What has been read so far. -/
structure Reading where
  values : List (Parameter × String)
  switches : List Switch
  /-- The last parameter and its value, until it is known to be complete. -/
  pending : Option (Parameter × Option String)
  deriving DecidableEq, Repr

namespace Reading

def empty : Reading := ⟨[], [], none⟩

def value? (r : Reading) (p : Parameter) : Option String :=
  (r.values.find? fun e => e.1 = p).map (·.2)

/-- Keeps a value, the only one of its parameter. -/
def store (r : Reading) (p : Parameter) (value : String) : Except Refusal Reading :=
  if (r.value? p).isSome then .error .repeatedOption
  else (p.kind.check value).map fun _ => { r with values := r.values ++ [(p, value)] }

/-- Keeps the pending value, if any. -/
def settle (r : Reading) : Except Refusal Reading :=
  match r.pending with
  | none => .ok r
  | some (_, none) => .error .missingValue
  | some (p, some value) => { r with pending := none }.store p value

def turnOn (r : Reading) (w : Switch) : Except Refusal Reading := do
  let r ← r.settle
  match w with
  | .help => .error .help
  | .version => .error .version
  | w => if w ∈ r.switches then .error .repeatedOption else .ok { r with switches := r.switches ++ [w] }

/-- Takes the value that is attached to a parameter, or waits for the next word. -/
def take (r : Reading) (p : Parameter) (attached : Option String) : Except Refusal Reading := do
  let r ← r.settle
  match attached with
  | some value => r.store p value
  | none => .ok { r with pending := some (p, none) }

def long (r : Reading) (scope : Scope) (name : String) (value : Option String) :
    Except Refusal Reading :=
  match scope.parameter? name, scope.switch? name with
  | some p, _ => r.take p value
  | none, some w => if value.isSome then .error .needlessValue else r.turnOn w
  | none, none => .error .unknownArgument

/-- What follows the letter of a parameter is its value, an equals sign in front of it left out. -/
def attachedTo : List Char → Option String
  | [] => none
  | '=' :: cs => some (String.ofList cs)
  | cs => some (String.ofList cs)

def letters (r : Reading) (scope : Scope) : List Char → Except Refusal Reading
  | [] => .ok r
  | c :: cs =>
    match scope.parameterOfLetter? c, scope.switchOfLetter? c with
    | some p, _ => r.take p (attachedTo cs)
    | none, some w => do (← r.turnOn w).letters scope cs
    | none, none => .error .unknownArgument

/-- Reads the words after the name of a command. -/
def words (r : Reading) (scope : Scope) : List String → Except Refusal Reading
  | [] => r.settle
  | w :: ws =>
    match Word.ofString w with
    | .escape => if ws.isEmpty then r.settle else .error .unknownArgument
    | .long name value => do (← r.long scope name value).words scope ws
    | .letters cs => do (← r.letters scope cs).words scope ws
    | .plain text =>
      match r.pending with
      | some (p, none) => { r with pending := some (p, some text) }.words scope ws
      | _ => .error .unknownArgument

end Reading

/-! ## Commands -/

inductive CommandName where
  | check
  | init
  | help
  deriving DecidableEq, Repr

namespace CommandName

def ofString? : String → Option CommandName
  | "check" => some check
  | "init" => some init
  | "help" => some help
  | _ => none

def scope : CommandName → Scope
  | check => ⟨Parameter.all, [.noConfig, .verbose, .quiet, .help]⟩
  | init => ⟨[], [.verbose, .quiet, .help]⟩
  | help => ⟨[], []⟩

/-- Whether help about these words is refused or given. -/
def helpAbout : List String → Refusal
  | [] => .help
  | [w] => if (ofString? w).isSome then .help else .unknownCommand
  | _ :: _ :: _ => .unknownCommand

end CommandName

/-- What is known before the name of a command. -/
def topScope : Scope := ⟨[], [.verbose, .quiet, .help, .version]⟩

/-- There is no command: is there anything at all? -/
def noCommand (r : Reading) : Refusal := if r.switches.isEmpty then .nothingGiven else .missingCommand

/-- Reads the words up to the name of a command. -/
def splitCommand (r : Reading) : List String → Except Refusal (Reading × CommandName × List String)
  | [] => .error (noCommand r)
  | w :: ws =>
    match Word.ofString w with
    | .escape =>
      match ws with
      | [] => .error (noCommand r)
      | w :: _ => .error (if (CommandName.ofString? w).isSome then .unknownArgument else .unknownCommand)
    | .long name value => do splitCommand (← r.long topScope name value) ws
    | .letters cs => do splitCommand (← r.letters topScope cs) ws
    | .plain text =>
      match CommandName.ofString? text with
      | some name => .ok (r, name, ws)
      | none => .error .unknownCommand

inductive Action where
  | check (arguments : CheckArguments)
  | init
  deriving DecidableEq, Repr

structure Invocation where
  verbose : Bool
  quiet : Bool
  action : Action
  deriving DecidableEq, Repr

/-- The value of a parameter: from the command line, or else from its variable. -/
def valueOf (env : Environment) (r : Reading) (p : Parameter) : Option String :=
  r.value? p <|> p.envName?.bind env.get?

/-- The arguments of a check, with the variables that stand in for missing ones. -/
def checkArguments (env : Environment) (r : Reading) : Except Refusal CheckArguments := do
  Parameter.all.forM fun p => (valueOf env r p).elim (.ok ()) p.kind.check
  CheckArguments.ofValues (valueOf env r) (r.switches.contains .noConfig)

def Invocation.parse (env : Environment) (commandLine : List String) : Except Refusal Invocation := do
  let (top, name, ws) ← splitCommand .empty commandLine
  if name = .help then .error (CommandName.helpAbout ws)
  else
    let r ← Reading.empty.words name.scope ws
    let switches := top.switches ++ r.switches
    let action ← match name with
      | .check => (checkArguments env r).map Action.check
      | _ => .ok .init
    return ⟨switches.contains .verbose, switches.contains .quiet, action⟩

end ScanDelta.Command

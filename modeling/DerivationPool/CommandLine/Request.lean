import DerivationPool.CommandLine.Setting
import DerivationPool.Text.Display

/-!
From the words of a command line to what it asks for, or to what is wrong with it. A message
repeats words of the command line as a terminal shows them.
-/
namespace DerivationPool.CommandLine

inductive UsageError where
  | unexpected (argument : String)
  /-- A switch that takes no value was given one. -/
  | unexpectedValue (switch value : String)
  | valueMissing (setting : Setting)
  | repeated (setting : Setting)
  | countInvalid (setting : Setting) (text : String) (fault : Decimal.CountFault)
  | companionMissing (setting : Setting)
  deriving DecidableEq, Repr

namespace UsageError

def ofValueFault (setting : Setting) (text : String) : ValueFault → UsageError
  | .missing => valueMissing setting
  | .count fault => countInvalid setting text fault

def message : UsageError → String
  | unexpected argument => "unexpected argument '" ++ Text.displayed argument ++ "' found"
  | unexpectedValue switch value =>
    "unexpected value '" ++ Text.displayed value ++ "' for '" ++ switch ++
      "' found; no more were expected"
  | valueMissing setting =>
    "a value is required for '" ++ setting.label ++ "' but none was supplied"
  | repeated setting => "the argument '" ++ setting.label ++ "' cannot be used multiple times"
  | countInvalid setting text fault =>
    "invalid value '" ++ Text.displayed text ++ "' for '" ++ setting.label ++ "': " ++ fault.reason
  | companionMissing setting =>
    "the following required arguments were not provided:\n  " ++ setting.label

end UsageError

/-!
From the words of a command line to what it asks for. A setting takes its value
from the same word or from the next one. Its value is looked at only when the next
setting or switch begins, or when the words end; a word that has no place is
reported before that.
-/

inductive Request where
  | help | version
  | serve (options : Options)
  deriving DecidableEq, Repr

inductive Word where
  /-- Two dashes and nothing else. -/
  | separator
  | long (name : String) (value : Option String)
  | short (letter : Char) (value : Option String)
  | plain (text : String)
  deriving DecidableEq, Repr

def behindEquals (cs : List Char) : Option String :=
  match cs.dropWhile (· ≠ '=') with
  | [] => none
  | _ :: value => some (String.ofList value)

/-- The value in what follows the letter of a word. An equals sign before it is not part of it. -/
def attachedValue : List Char → Option String
  | [] => none
  | '=' :: value => some (String.ofList value)
  | value => some (String.ofList value)

def Word.ofString (text : String) : Word :=
  match text.toList with
  | ['-', '-'] => separator
  | '-' :: '-' :: cs => long (String.ofList (cs.takeWhile (· ≠ '='))) (behindEquals cs)
  | '-' :: letter :: cs => short letter (attachedValue cs)
  | _ => plain text

inductive Switch where
  | help | version
  | setting (setting : Setting)

namespace Switch

def ofLong? (name : String) : Option Switch :=
  if name = "help" then some help
  else if name = "version" then some version
  else (Setting.all.find? (·.long = name)).map setting

def ofShort? (letter : Char) : Option Switch :=
  if letter = 'h' then some help
  else if letter = 'V' then some version
  else (Setting.all.find? (·.short? = some letter)).map setting

end Switch

structure Progress where
  options : Options
  given : List Setting
  /-- The last setting and its value, which have not been looked at. -/
  pending : Option (Setting × Option String)

namespace Progress

def start : Progress := ⟨.standard, [], none⟩

/-- Looks at the last setting. -/
def resolve (p : Progress) : Except UsageError Progress :=
  match p.pending with
  | none => .ok p
  | some (setting, none) => .error (.valueMissing setting)
  | some (setting, some text) =>
    if setting ∈ p.given then .error (.repeated setting)
    else
      match p.options.set setting text with
      | .ok options => .ok ⟨options, setting :: p.given, none⟩
      | .error fault => .error (.ofValueFault setting text fault)

/-- Begins a setting. A value in the same word is looked at at once. -/
def take (p : Progress) (setting : Setting) (value : Option String) :
    Except UsageError Progress := do
  let begun : Progress := { ← p.resolve with pending := some (setting, value) }
  if value.isSome then begun.resolve else return begun

/-- The settings that have to be given besides those that are. -/
def companions (p : Progress) : List Setting :=
  (p.given.filterMap Setting.companion?).filter (· ∉ p.given)

def finish (p : Progress) : Except UsageError Request := do
  let p ← p.resolve
  match p.companions with
  | [] => return .serve p.options
  | setting :: _ => throw (.companionMissing setting)

def read (p : Progress) : List String → Except UsageError Request
  | [] => p.finish
  | word :: rest =>
    match Word.ofString word with
    | .separator =>
      match rest with
      | [] => p.finish
      | word :: _ => .error (.unexpected word)
    | .long name value =>
      match Switch.ofLong? name, value with
      | none, _ => .error (.unexpected ("--" ++ name))
      | some (.setting setting), value => do read (← p.take setting value) rest
      | some .help, none => p.resolve.map fun _ => .help
      | some .version, none => p.resolve.map fun _ => .version
      | some _, some value => .error (.unexpectedValue ("--" ++ name) value)
    | .short letter value =>
      match Switch.ofShort? letter with
      | none => .error (.unexpected (String.ofList ['-', letter]))
      | some (.setting setting) => do read (← p.take setting value) rest
      | some .help => p.resolve.map fun _ => .help
      | some .version => p.resolve.map fun _ => .version
    | .plain text =>
      match p.pending with
      | some (setting, none) => read { p with pending := some (setting, some text) } rest
      | _ => .error (.unexpected text)

end Progress

def Request.ofArguments (words : List String) : Except UsageError Request :=
  Progress.start.read words

end DerivationPool.CommandLine

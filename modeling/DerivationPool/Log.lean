import DerivationPool.Decimal
import DerivationPool.Pattern
import DerivationPool.Text.Classes
import DerivationPool.Text.Utf8

/-!
The log: entries, and the filter that says which of them are let through. An entry has a level,
the part of the program it comes from, what happened, and named values, and is one line of text.
-/
namespace DerivationPool.Log

inductive Level where
  | error | warn | info | debug | trace
  deriving DecidableEq, Repr

namespace Level

def name : Level → String
  | error => "ERROR"
  | warn => "WARN"
  | info => "INFO"
  | debug => "DEBUG"
  | trace => "TRACE"

/-- How much a log has to let through for an entry of the level to be in it. -/
def verbosity : Level → Nat
  | error => 1
  | warn => 2
  | info => 3
  | debug => 4
  | trace => 5

end Level

structure Entry where
  level : Level
  /-- The part of the program, as a path of names. -/
  target : String
  message : String
  fields : List (String × String)
  deriving DecidableEq, Repr

/-- The names of the values of an entry. What happened is one of them. -/
def Entry.fieldNames (e : Entry) : List String := "message" :: e.fields.map Prod.fst

def Entry.text (e : Entry) : String :=
  e.level.name ++ " " ++ e.target ++ ": " ++ e.message ++
    String.join (e.fields.map fun f => " " ++ f.1 ++ "=" ++ f.2)

/-!
A directive says how much a log lets through: a level for everything, or a target, or a
target and its level behind an equals sign. Brackets behind the target narrow it to a
span of time, or to a field in braces, which may have a value: a number, or else a
pattern for it. Places in a directive are counted in bytes from
its first character that is not blank, and its pieces are cut at those places of the
whole word, so blanks at the front shift every piece but a bare name.
-/

inductive Subject where
  /-- All of them, or those that have a field of the name. -/
  | entries (field : Option String)
  /-- None of them: it is about spans of time, or about the value of a field in a span. -/
  | spans
  deriving DecidableEq, Repr

structure Directive where
  /-- What the targets begin with. -/
  target : Option String
  subject : Subject
  verbosity : Nat
  deriving DecidableEq, Repr

inductive DirectiveFault where
  | malformed
  | level
  | pattern (fault : Pattern.Fault)
  /-- A piece of it would begin or end inside a character. -/
  | torn
  deriving DecidableEq, Repr

def DirectiveFault.text : DirectiveFault → String
  | level =>
    "error parsing level filter: expected one of \"off\", \"error\", \"warn\", \"info\", " ++
      "\"debug\", \"trace\", or a number 0-5"
  | pattern fault => "invalid field filter: " ++ fault.text
  | malformed | torn => "invalid filter directive"

def verbosities : List (String × Nat) :=
  [("off", 0), ("error", 1), ("warn", 2), ("info", 3), ("debug", 4), ("trace", 5)]

def mostVerbose : Nat := Level.trace.verbosity

/-- What a word in either case, or a number, lets through. -/
def verbosity? (word : String) : Option Nat :=
  match Decimal.readCount word.toList with
  | .ok n => if n ≤ mostVerbose then some n else none
  | .error _ => verbosities.lookup (String.ofList (word.toList.map Char.toLower))

def beginsDirective (c : Char) : Bool :=
  c = '_' || c = ':' || c = '-' || c = '[' || Text.isAlphanumeric c

/-- Whether a place of a text lies between characters or at its end. -/
def isBoundary (bytes : Bytes) (place : Nat) : Bool :=
  match bytes[place]? with
  | some b => !(0x80 ≤ b && b < 0xc0)
  | none => true

def cut (bytes : Bytes) (start stop : Nat) : Except DirectiveFault String :=
  if isBoundary bytes start && isBoundary bytes stop then
    .ok (Text.decodeLossy ((bytes.drop start).take (stop - start)))
  else .error .torn

def width (cs : List Char) : Nat := (Text.encode (String.ofList cs)).length

def levelFrom (bytes : Bytes) (start : Nat) : Except DirectiveFault Nat := do
  let word ← cut bytes start bytes.length
  if word = "" then return mostVerbose
  match verbosity? word with
  | some most => return most
  | none => throw .level

def levelBehindBrackets (bytes : Bytes) (start : Nat) : List Char → Except DirectiveFault Nat
  | [] => .ok mostVerbose
  | '=' :: _ => levelFrom bytes (start + 1)
  | _ => .error .malformed

/-- What is wrong with a value, which ends at an equals sign. -/
def valueFault? (text : List Char) : Option Pattern.Fault :=
  let value := text.takeWhile (· ≠ '=')
  if Decimal.isNumber value then none else Pattern.fault? value

def subjectOfField (text : String) : Except DirectiveFault Subject :=
  if text = "" then .error .malformed
  else
    match text.toList.dropWhile (· ≠ '=') with
    | [] => .ok (.entries (some text))
    | _ :: value =>
      match valueFault? value with
      | none => .ok .spans
      | some fault => .error (.pattern fault)

/-- Reads what stands in brackets, and the level behind them. `start` is the place behind the first
bracket. -/
def readBrackets (bytes : Bytes) (start : Nat) (cs : List Char) :
    Except DirectiveFault (Subject × Nat) := do
  let name := cs.takeWhile fun c => c ≠ ']' ∧ c ≠ '\x7b'
  let stop := start + width name
  match cs.drop name.length with
  | [] => throw .malformed
  | ']' :: rest => do
    let _ ← cut bytes start stop
    return (.spans, ← levelBehindBrackets bytes (stop + 1) rest)
  | _ :: rest => do
    let span ← cut bytes start stop
    let field := rest.takeWhile (· ≠ '\x7d')
    let fieldStop := stop + 1 + width field
    match rest.drop field.length with
    | [] => throw .malformed
    | _ :: rest => do
      let subject ← subjectOfField (← cut bytes (stop + 1) fieldStop)
      match rest with
      | ']' :: rest => do
        let most ← levelBehindBrackets bytes (fieldStop + 2) rest
        return (if span = "" then subject else .spans, most)
      | _ => throw .malformed

namespace Directive

def ofName (word : String) : Directive :=
  match verbosity? word with
  | some most => ⟨none, .entries none, most⟩
  | none => ⟨some word, .entries none, mostVerbose⟩

def ofString (word : String) : Except DirectiveFault Directive := do
  let bytes := Text.encode word
  let cs := Text.trimBlank word.toList
  if !cs.head?.any beginsDirective then throw .malformed
  let name := cs.takeWhile fun c => c ≠ '=' ∧ c ≠ '['
  let stop := width name
  match cs.drop name.length with
  | [] => return ofName word
  | '=' :: _ => return ⟨← cut bytes 0 stop, .entries none, ← levelFrom bytes (stop + 1)⟩
  | _ :: rest =>
    let target ← if name.isEmpty then pure none else some <$> cut bytes 0 stop
    let (subject, most) ← readBrackets bytes (stop + 1) rest
    return ⟨target, subject, most⟩

def field? (d : Directive) : Option String :=
  match d.subject with
  | .entries field => field
  | .spans => none

def concerns (d : Directive) (e : Entry) : Bool :=
  (d.target.getD "").toList.isPrefixOf e.target.toList &&
    match d.subject with
    | .entries field => field.all (· ∈ e.fieldNames)
    | .spans => false

/-- Which of two directives is closer to an entry that both concern: the one with the longer target,
then the one that asks for a field, then the one whose field has the later name. -/
def compareCloseness (d e : Directive) : Ordering :=
  (compare (d.target.map String.length) (e.target.map String.length)).then
    (compare d.field? e.field?)

/-- The closer of two directives, and the later one if they are alike. -/
def closer (d e : Directive) : Directive := if d.compareCloseness e = .gt then d else e

end Directive

/-!
What a log lets through: directives between commas, of which the closest to an entry
decides. Without any directive that can be read, errors are let through.
-/

structure Filter where
  directives : List Directive
  /-- The words that are no directives. -/
  ignored : List (String × DirectiveFault)
  deriving DecidableEq, Repr

namespace Filter

def words (text : String) : List String := (text.splitOn ",").filter (· ≠ "")

def fault? (word : String) : Option (String × DirectiveFault) :=
  match Directive.ofString word with
  | .ok _ => none
  | .error fault => some (word, fault)

def errorsOnly : Directive := ⟨none, .entries none, Level.error.verbosity⟩

def ofString (text : String) : Filter :=
  let read := (words text).filterMap fun w => (Directive.ofString w).toOption
  ⟨if read.isEmpty then [errorsOnly] else read, (words text).filterMap fault?⟩

/-- The variable whose text stands before the option on the command line. -/
def variableName : String := "RUST_LOG"

/-- The filter in a variable, which counts only if all its words are directives. Even none are
enough. -/
def ofVariable? (text : String) : Option Filter :=
  match (words text).mapM Directive.ofString with
  | .ok directives => some ⟨directives, []⟩
  | .error .torn => some ⟨[], [(text, .torn)]⟩
  | .error _ => none

def choose (text : Option Bytes) (option : String) : Filter :=
  (((text.bind Text.decode?).bind ofVariable?).getD (ofString option))

/-- Whether a word cannot be cut into its pieces. No run goes on from there. -/
def isTorn (f : Filter) : Bool := f.ignored.any (·.2 = .torn)

def verbosityFor (f : Filter) (e : Entry) : Nat :=
  match f.directives.filter (·.concerns e) with
  | [] => 0
  | d :: rest => (rest.foldl Directive.closer d).verbosity

def admits (f : Filter) (e : Entry) : Bool := e.level.verbosity ≤ f.verbosityFor e

def complaint (word : String) (fault : DirectiveFault) : String :=
  "ignoring `" ++ word ++ "`: " ++ fault.text

/-- The lines about the words that are no directives, up to one that cannot be cut. -/
def complaints (f : Filter) : List String :=
  (f.ignored.takeWhile (·.2 ≠ .torn)).map fun w => complaint w.1 w.2

end Filter

end DerivationPool.Log

import DerivationPool.Cbor.Item
import DerivationPool.Decimal
import DerivationPool.Text.Display

/-!
Readers of an input, and why they give up: the input ends early, it is ill-formed at some
offset, it is nested too deep, or it is well-formed and has the wrong meaning.
-/
namespace DerivationPool.Cbor

inductive Expected where
  | map | name | bytes | byteString | text | integer | choice | knownSimple | item
  deriving DecidableEq, Repr

def Expected.label : Expected → String
  | map => "map"
  | name => "str or bytes"
  | bytes => "byte buffer"
  | byteString => "bytes"
  | text => "string"
  | integer => "integer"
  | choice => "enum"
  | knownSimple => "known simple value"
  | item => "non-break"

inductive IntegerRange where
  | byte | word32
  deriving DecidableEq, Repr

def IntegerRange.label : IntegerRange → String
  | byte => "u8"
  | word32 => "u32"

inductive Error where
  | endOfInput
  | malformed (offset : Nat)
  | tooDeep
  | unexpected (found : Head) (expected : Expected)
  | outOfRange (n : Nat) (range : IntegerRange)
  | negativeInteger
  | integerTooLarge
  | magnitudeTooLarge
  | unknownChoice (found : String) (known : List String)
  | duplicateField (name : String)
  | missingField (name : String)
  deriving DecidableEq, Repr

/-- A number as the 64-bit word of its complement, read with a sign. -/
def complementText (n : Nat) : String :=
  toString ((-1 - (n : Int)).bmod (1 <<< 64))

def Head.description : Head → String
  | unsigned n => "integer `" ++ toString n ++ "`"
  | negative n => "integer `" ++ complementText n ++ "`"
  | bytes _ => "bytes"
  | text _ => "string"
  | array _ => "sequence"
  | map _ => "map"
  | tag _ => "tag"
  | simple 20 => "boolean `false`"
  | simple 21 => "boolean `true`"
  | simple 22 => "null"
  | simple 23 => "undefined"
  | simple _ => "simple"
  | float x => "floating point `" ++ x.text ++ "`"
  | stop => "break"

namespace Error

/-- What is wrong with a well-formed input, if that is the cause. -/
def complaint? : Error → Option String
  | unexpected found expected =>
    some ("invalid type: " ++ found.description ++ ", expected " ++ expected.label)
  | outOfRange n range =>
    some ("invalid value: integer `" ++ toString n ++ "`, expected " ++ range.label)
  | negativeInteger => some "unexpected negative integer"
  | integerTooLarge => some "integer too large"
  | magnitudeTooLarge => some "bigint too large"
  | unknownChoice found known =>
    some ("unknown variant `" ++ found ++ "`, expected " ++
      " or ".intercalate (known.map fun name => "`" ++ name ++ "`"))
  | duplicateField name => some ("duplicate field `" ++ name ++ "`")
  | missingField name => some ("missing field `" ++ name ++ "`")
  | endOfInput | malformed _ | tooDeep => none

def text (e : Error) : String :=
  match e.complaint? with
  | some complaint => "Semantic(None, " ++ Text.quoted complaint ++ ")"
  | none =>
    match e with
    | malformed offset => "Syntax(" ++ toString offset ++ ")"
    | tooDeep => "RecursionLimitExceeded"
    | _ =>
      "Io(Error \x7b kind: UnexpectedEof, message: \"failed to fill whole buffer\" \x7d)"

end Error

/-!
Reading an input from the front. A reader knows what is left and how far it has
come; `Read` is a computation that moves it or fails. Heads come with the offset
they start at, and every function that reads a value is given the first head of
the value, so nothing is ever unread. `iterate` is the one loop whose length the
input does not announce: it ends because each turn takes a byte.
-/

structure Reader where
  rest : Bytes
  left : Nat
  offset : Nat
  left_eq : left = rest.length

abbrev Read := StateT Reader (Except Error)

namespace Reader

def ofBytes (input : Bytes) : Reader := ⟨input, input.length, 0, rfl⟩

def take? (n : Nat) (r : Reader) : Option (Bytes × Reader) :=
  if n ≤ r.left then
    some (r.rest.take n, ⟨r.rest.drop n, r.left - n, r.offset + n, by simp [r.left_eq]⟩)
  else none

end Reader

def take (n : Nat) : Read Bytes := fun r =>
  match r.take? n with
  | some read => .ok read
  | none => .error .endOfInput

def number (width : Nat) : Read Nat := Bytes.toNat <$> take width

def offset : Read Nat := Reader.offset <$> get

/-- A head and the offset it is said to start at. -/
structure Token where
  head : Head
  start : Nat
  deriving DecidableEq, Repr

/-- The argument that goes with the low five bits of a first byte: none where the end is left open.
Three of their values are reserved. -/
def argument (start minor : Nat) : Read (Option Nat) :=
  if minor < 24 then return some minor
  else if minor = 24 then some <$> number 1
  else if minor = 25 then some <$> number 2
  else if minor = 26 then some <$> number 4
  else if minor = 27 then some <$> number 8
  else if minor = 31 then return none
  else throw (.malformed start)

/-- The heads of the last major type: simple values, floats and the stop. -/
def special (start minor : Nat) : Read Head :=
  if minor < 24 then return .simple minor
  else if minor = 24 then .simple <$> number 1
  else if minor = 25 then (fun bits => .float (.ofHalf bits)) <$> number 2
  else if minor = 26 then (fun bits => .float (.ofSingle bits)) <$> number 4
  else if minor = 27 then (fun bits => .float (.ofDouble bits)) <$> number 8
  else if minor = 31 then return .stop
  else throw (.malformed start)

def headFrom (start first : Nat) : Read Head :=
  if first / 32 = 7 then special start (first % 32)
  else do
    let argument ← argument start (first % 32)
    match Head.ofArgument? (first / 32) argument with
    | some head => return head
    | none => throw (.malformed start)

def token : Read Token := do
  let start ← offset
  let first ← number 1
  let head ← headFrom start first
  return ⟨head, start⟩

/-- A head that was looked at before it is read: of a text that ends at `stop` the start is then
taken to be as far back as its shortest form is long. No other start is ever reported. -/
def Token.lookedAt (token : Token) (stop : Nat) : Token :=
  match token.head with
  | .text (some n) => ⟨token.head, stop - headSize n⟩
  | _ => token

inductive Turn (α β : Type) where
  | again (a : α)
  | done (b : β)

variable {α β : Type}

/-- Takes turns until one is the last; a turn that takes no byte finds the input at its end. -/
@[specialize] def iterate (turn : α → Read (Turn α β)) (a : α) : Read β := fun r =>
  match turn a r with
  | .error e => .error e
  | .ok (.done b, next) => .ok (b, next)
  | .ok (.again a, next) => if next.left < r.left then iterate turn a next else .error .endOfInput
termination_by r => r.left

/-- Reads a given number of entries, each from its first head. -/
@[specialize] def counted (entry : Token → α → Read α) : Nat → α → Read α
  | 0, a => return a
  | n + 1, a => do
    let first ← token
    let a ← entry first a
    counted entry n a

/-- Reads entries up to a stop that stands where an entry is due. -/
@[specialize] def untilStop (entry : Token → α → Read α) : α → Read α :=
  iterate fun a => do
    let first ← token
    match first.head with
    | .stop => return .done a
    | _ =>
      let stop ← offset
      return .again (← entry (first.lookedAt stop) a)

@[specialize] def entries (count : Option Nat) (entry : Token → α → Read α) (a : α) : Read α :=
  match count with
  | some n => counted entry n a
  | none => untilStop entry a

def dropTags (keep : Nat → Bool) : Token → Read Token :=
  iterate fun first =>
    match first.head with
    | .tag n => if keep n then return .done first else return .again (← token)
    | _ => return .done first

def untagged : Token → Read Token := dropTags fun _ => false

end DerivationPool.Cbor

import DerivationPool.Cbor.Item
import DerivationPool.Cbor.Reader
import DerivationPool.Cbor.Values

/-!
Messages on the wire: maps from field names to values of fixed kinds, described by schemas,
and what can go wrong with them. A message cannot be written or read, it is too large for the
wire, or a field that has to hold something is empty.
-/
namespace DerivationPool

inductive MessageError where
  | encodeFailed (text : String)
  | decodeFailed (text : String)
  | tooLarge (size max : Nat)
  | emptyField (name : String)
  deriving DecidableEq, Repr

namespace MessageError

def text : MessageError → String
  | encodeFailed text => "CBOR encode failed: " ++ text
  | decodeFailed text => "CBOR decode failed: " ++ text
  | tooLarge size max =>
    "message too large: " ++ toString size ++ " bytes (max " ++ toString max ++ ")"
  | emptyField name => "field `" ++ name ++ "` must not be empty"

def ofCbor (e : Cbor.Error) : MessageError := decodeFailed e.text

end MessageError

end DerivationPool

/-!
Schemas: a message on the wire is a map from field names to values of fixed
kinds. A record of a schema is written as one entry for each field, in the order
of the schema, and is read from entries in any order. Unknown names are passed
over, a name may not come twice, and a field without a value for its absence has
to be there.
-/
namespace DerivationPool.Message

open Cbor

inductive Status where
  | ok | failed
  deriving DecidableEq, Repr

def Status.name : Status → String
  | ok => "ok"
  | failed => "failed"

inductive Kind where
  | bytes
  | text
  /-- A text or its absence. -/
  | optionalText
  | word32
  | status
  deriving DecidableEq, Repr

namespace Kind

@[reducible] def Value : Kind → Type
  | bytes => Bytes
  | text => String
  | optionalText => Option String
  | word32 => UInt32
  | status => Status

/-- The written form of a value, if it has one: an absent text has none. -/
def item? : (kind : Kind) → kind.Value → Option Item
  | bytes, value => some (.bytes value)
  | text, value => some (.text value)
  | optionalText, value => value.map .text
  | word32, value => some (.unsigned value.toNat)
  | status, value => some (.text value.name)

end Kind

def readByteArray (count : Option Nat) : Read Bytes :=
  List.reverse <$> entries count (fun first bytes => (· :: bytes) <$> word8 first) []

/-- A byte string, or an array of small integers in its place. -/
def readBytes (first : Token) : Read Bytes := do
  let first ← untagged first
  match first.head with
  | .bytes length => byteString length
  | .array count => readByteArray count
  | head => throw (.unexpected head .bytes)

def readText (first : Token) : Read String := do
  let first ← untagged first
  match first.head with
  | .text length => textString length
  | head => throw (.unexpected head .text)

/-- A text, or one of the two simple values that stand for none. -/
def readOptionalText (first : Token) : Read (Option String) :=
  match first.head with
  | .simple 22 | .simple 23 => return none
  | _ => some <$> readText first

def statusNamed (name : Bytes) : Read Status :=
  if name = Text.encode Status.ok.name then return .ok
  else if name = Text.encode Status.failed.name then return .failed
  else throw (.unknownChoice (Text.decodeLossy name) [Status.ok.name, Status.failed.name])

/-- A status by its name, or by the key of a map of one entry, of which the key alone is read. -/
def readStatus (first : Token) : Read Status := do
  let first ← untagged first
  match first.head with
  | .map (some 1) => statusNamed (← shortName (← token))
  | .text _ => statusNamed (← shortName (first.lookedAt (← offset)))
  | head => throw (.unexpected head .choice)

def Kind.read : (kind : Kind) → Token → Read kind.Value
  | bytes => readBytes
  | text => readText
  | optionalText => readOptionalText
  | word32 => Cbor.word32
  | status => readStatus

/-- A field: its name, the kind of its values, and the value that its absence stands for, if it may
be absent. -/
structure Field where
  name : String
  kind : Kind
  absent : Option kind.Value

abbrev Schema := List Field

namespace Schema

@[reducible] def Record : Schema → Type
  | [] => Unit
  | field :: fields => field.kind.Value × Record fields

@[reducible] def Slots : Schema → Type
  | [] => Unit
  | field :: fields => Option field.kind.Value × Slots fields

def noSlots : (schema : Schema) → schema.Slots
  | [] => ()
  | _ :: fields => (none, noSlots fields)

def entries : (schema : Schema) → schema.Record → List (Item × Item)
  | [], _ => []
  | field :: fields, (value, values) =>
    match field.kind.item? value with
    | some item => (.text field.name, item) :: entries fields values
    | none => entries fields values

def item (schema : Schema) (record : schema.Record) : Item := .map (schema.entries record)

/-- How many containers may be open inside the value of an unknown field: the message itself is
one. -/
def fieldNesting : Nat := nesting - 1

/-- Reads the value of a named field into its slot, and passes over any other value. -/
def fill : (schema : Schema) → Bytes → schema.Slots → Read schema.Slots
  | [], _, slots => do
    skip fieldNesting (← token)
    return slots
  | field :: fields, name, (slot, slots) => do
    if name = Text.encode field.name then
      match slot with
      | some _ => throw (.duplicateField field.name)
      | none => return (some (← field.kind.read (← token)), slots)
    else return (slot, ← fill fields name slots)

/-- The record of the slots; the first field that is due and has no value is missed. -/
def complete : (schema : Schema) → schema.Slots → Except Cbor.Error schema.Record
  | [], _ => .ok ()
  | field :: fields, (slot, slots) => do
    match slot.or field.absent with
    | some value => return (value, ← complete fields slots)
    | none => throw (.missingField field.name)

def readEntry (schema : Schema) (first : Token) (slots : schema.Slots) : Read schema.Slots := do
  schema.fill (← shortName first) slots

def read (schema : Schema) : Read schema.Record := do
  let first ← untagged (← token)
  match first.head with
  | .map count => schema.complete (← Cbor.entries count schema.readEntry schema.noSlots)
  | head => throw (.unexpected head .map)

/-- The record at the front of an input; what comes after it does not matter. -/
def decode (schema : Schema) (input : Bytes) : Except Cbor.Error schema.Record :=
  Prod.fst <$> schema.read (.ofBytes input)

end Schema

/-!
The wire format of a type of messages: a schema, and the way between messages and
records. No message on the wire is longer than `maxSize`, on either side.
-/

class Format (M : Type) where
  schema : Schema
  toRecord : M → schema.Record
  /-- Some records are no message: a field may have to hold something. -/
  ofRecord : schema.Record → Except MessageError M
  ofRecord_toRecord : ∀ m, ofRecord (toRecord m) = .ok m

attribute [simp] Format.ofRecord_toRecord

/-- The longest message in bytes. -/
def maxSize : Nat := 65536

def fit (bytes : Bytes) : Except MessageError Bytes :=
  if maxSize < bytes.length then .error (.tooLarge bytes.length maxSize) else .ok bytes

theorem fit_eq_ok_iff (bytes out : Bytes) :
    fit bytes = .ok out ↔ bytes.length ≤ maxSize ∧ out = bytes := by
  grind [fit]

variable {M : Type} [Format M]

/-- A message as one item. -/
def item (m : M) : Cbor.Item := (Format.schema M).item (Format.toRecord m)

def encode (m : M) : Except MessageError Bytes := fit (item m).encode

/-- The message at the front of an input. The length is judged before anything is read. -/
def decode (M : Type) [Format M] (input : Bytes) : Except MessageError M := do
  let input ← fit input
  let record ← ((Format.schema M).decode input).mapError .ofCbor
  Format.ofRecord record

end DerivationPool.Message

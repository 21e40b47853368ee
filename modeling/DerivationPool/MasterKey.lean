import DerivationPool.Derivation
import DerivationPool.Surroundings
import DerivationPool.Text.Classes
import DerivationPool.Text.Display
import DerivationPool.Text.Utf8

/-!
Master keys and where they come from. A key is a byte string that is not empty, made from raw
bytes or from hexadecimal text. A refusal says which kind of fault it met and nothing of the
text it met it in.
-/
namespace DerivationPool

structure MasterKey where
  bytes : Bytes
  bytes_ne_nil : bytes ≠ []

namespace MasterKey

def ofBytes (bytes : Bytes) : Except DerivationError MasterKey :=
  if h : bytes = [] then .error .emptyKeyingMaterial else .ok ⟨bytes, h⟩

def size (key : MasterKey) : Nat := key.bytes.length

inductive TextFault where
  | notHex | empty
  deriving DecidableEq, Repr

def TextFault.reason : TextFault → String
  | notHex => "master key is not valid hex"
  | empty => "master key is empty"

/-- Reads digit pairs of either case between blanks. -/
def ofHexText (text : List Char) : Except TextFault MasterKey :=
  match Bytes.ofHexChars? (Text.trimBlank text) with
  | none => .error .notHex
  | some bytes => if h : bytes = [] then .error .empty else .ok ⟨bytes, h⟩

def ofHex (text : String) : Except DerivationError MasterKey :=
  (ofHexText text.toList).mapError fun fault => .keySourceUnavailable fault.reason

/-- The bytes of the key that stands in where none is configured. -/
def referenceBytes : Bytes := (List.range 80).map UInt8.ofNat

/-- The bytes 0, 1, … 79. -/
def reference : MasterKey := ⟨referenceBytes, by decide⟩

def outline (key : MasterKey) : String :=
  Text.outline "MasterKeyMaterial" [("len", toString key.size)] .partly

end MasterKey

/-!
Where a master key comes from. A source is asked once; when it has no usable key
the fault says so and no other source is asked.
-/

inductive KeySource where
  /-- Bytes that are part of the program. -/
  | fixed (bytes : Bytes)
  /-- Hexadecimal text in an environment variable. -/
  | environment (name : String)
  /-- Raw bytes in a file. -/
  | file (path : String)
  deriving DecidableEq, Repr

inductive KeyFault where
  | fixedEmpty
  | variableUnset (name : String)
  | variableNotText (name : String)
  | variableText (fault : MasterKey.TextFault)
  | fileUnreadable (path : String) (fault : FileFault)
  | fileEmpty (path : String)
  deriving DecidableEq, Repr

def KeyFault.reason : KeyFault → String
  | fixedEmpty => "static key is empty"
  | variableUnset name => "environment variable " ++ name ++ " is not set"
  | variableNotText name => "environment variable " ++ name ++ " is not valid unicode"
  | variableText fault => fault.reason
  | fileUnreadable path fault => "failed to read " ++ path ++ ": " ++ fault.text
  | fileEmpty path => path ++ " is empty"

namespace KeySource

def name : KeySource → String
  | fixed _ => "static"
  | environment _ => "env"
  | file _ => "file"

/-- A key, or the fault that stands for raw bytes that are none. -/
def keyOr (fault : KeyFault) (bytes : Bytes) : Except KeyFault MasterKey :=
  if h : bytes = [] then .error fault else .ok ⟨bytes, h⟩

def find (surroundings : Surroundings) : KeySource → Except KeyFault MasterKey
  | fixed bytes => keyOr .fixedEmpty bytes
  | environment name =>
    match surroundings.value? name with
    | none => .error (.variableUnset name)
    | some raw =>
      match Text.decode? raw with
      | none => .error (.variableNotText name)
      | some text => (MasterKey.ofHexText text.toList).mapError .variableText
  | file path =>
    match surroundings.read path with
    | .error fault => .error (.fileUnreadable path fault)
    | .ok bytes => keyOr (.fileEmpty path) bytes

/-- The key of a source, or the one error that all faults are reported as. -/
def load (surroundings : Surroundings) (source : KeySource) : Except DerivationError MasterKey :=
  (source.find surroundings).mapError fun fault => .keySourceUnavailable fault.reason

/-- The source that a deployment names: a file before a variable, and the reference key if
neither is named. -/
def select (file environment : Option String) : KeySource :=
  match file, environment with
  | some path, _ => .file path
  | none, some name => .environment name
  | none, none => .fixed MasterKey.referenceBytes

end KeySource

end DerivationPool

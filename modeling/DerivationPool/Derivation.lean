import DerivationPool.Hash.Hkdf
import DerivationPool.Text.Display

/-!
Derivation of key material, over the hash functions that it may name, and what can go wrong
on the way to a derived key. Every cause ends the call that met it, and no message names a byte
of a key.
-/
namespace DerivationPool

inductive DerivationError where
  | entropyUnavailable (reason : String)
  | emptyKeyingMaterial
  | emptySalt
  | zeroLength
  | lengthExceeded (requested max : Nat)
  | unsupportedHash (name : String)
  | keySourceUnavailable (reason : String)
  deriving DecidableEq, Repr

namespace DerivationError

/-- The classification that crosses the wire. -/
def kind : DerivationError → String
  | entropyUnavailable _ => "entropy_unavailable"
  | emptyKeyingMaterial => "invalid_input_key_material"
  | emptySalt => "invalid_salt"
  | zeroLength => "zero_output_length"
  | lengthExceeded _ _ => "output_length_exceeded"
  | unsupportedHash _ => "unsupported_hash"
  | keySourceUnavailable _ => "key_source_unavailable"

def message : DerivationError → String
  | entropyUnavailable reason => "entropy unavailable: " ++ reason
  | emptyKeyingMaterial => "input keying material must not be empty"
  | emptySalt => "salt must not be empty"
  | zeroLength => "output length must be non-zero"
  | lengthExceeded requested max =>
    "output length " ++ toString requested ++ " exceeds HKDF maximum of " ++ toString max
  | unsupportedHash name => "unsupported HKDF hash: " ++ name
  | keySourceUnavailable reason => "master key source unavailable: " ++ reason

/-- Whether a later attempt may succeed: only a starved entropy source recovers by itself. -/
def transient : DerivationError → Bool
  | entropyUnavailable _ => true
  | _ => false

end DerivationError

/-!
The hash functions a derivation may name. Names are told apart up to the case of
ASCII letters and by nothing else.
-/

inductive Algorithm where
  | sha256 | sha384 | sha512
  deriving DecidableEq, Repr

namespace Algorithm

def name : Algorithm → String
  | sha256 => "sha256"
  | sha384 => "sha384"
  | sha512 => "sha512"

def hash : Algorithm → HashFunction
  | sha256 => HashFunction.sha256
  | sha384 => HashFunction.sha384
  | sha512 => HashFunction.sha512

def digestSize : Algorithm → Nat
  | sha256 => 32
  | sha384 => 48
  | sha512 => 64

def maxOutput (a : Algorithm) : Nat := 255 * a.digestSize

@[simp] theorem maxOutput_eq (a : Algorithm) : a.maxOutput = 255 * a.digestSize := rfl

/-- The sizes in the table are those of the digests. -/
@[simp] theorem digestSize_hash (a : Algorithm) : a.hash.digestSize = a.digestSize := by
  cases a <;> rfl

/-- An ASCII capital as its small letter; any other character as it is. -/
def foldCase (c : Char) : Char :=
  if 65 ≤ c.toNat ∧ c.toNat ≤ 90 then Char.ofNat (c.toNat + 32) else c

/-- The algorithm of a name; a refusal keeps the name as it was given. -/
def ofName? (name : String) : Except DerivationError Algorithm :=
  let folded := String.ofList (name.toList.map foldCase)
  if folded = "sha256" then .ok sha256
  else if folded = "sha384" then .ok sha384
  else if folded = "sha512" then .ok sha512
  else .error (.unsupportedHash name)

/-- What a request that names none is served with. -/
def standard : Algorithm := sha256

end Algorithm

/-!
Derivation of key material. `validate` names the first fault of a request;
`derive` gives the material as a value, and `deriveInto` writes it over a buffer
of the caller. The two agree: a buffer is either left as it was or wholly
overwritten.
-/

/-- The first of the faults that a request can have. -/
def validate (a : Algorithm) (ikm salt : Bytes) (length : Nat) : Except DerivationError Unit :=
  if ikm = [] then .error .emptyKeyingMaterial
  else if salt = [] then .error .emptySalt
  else if length = 0 then .error .zeroLength
  else if a.maxOutput < length then .error (.lengthExceeded length a.maxOutput)
  else .ok ()

theorem validate_eq_ok_iff (a : Algorithm) (ikm salt : Bytes) (length : Nat) :
    validate a ikm salt length = .ok () ↔
      ikm ≠ [] ∧ salt ≠ [] ∧ 0 < length ∧ length ≤ a.maxOutput := by
  grind [validate]

/-- The output for a request, or none if it is longer than the counter of the blocks allows. -/
def expansion? (a : Algorithm) (ikm salt info : Bytes) (length : Nat) : Option Bytes :=
  if length ≤ a.hash.maxOutput then
    let prk := a.hash.extract salt ikm
    some (a.hash.expand prk info length)
  else none

/-- As many bytes as the buffer has, and the buffer afterwards. A refused request leaves it alone; a
failed expansion leaves zeros. -/
def deriveInto (a : Algorithm) (ikm salt info buffer : Bytes) :
    Except DerivationError Unit × Bytes :=
  match validate a ikm salt buffer.length with
  | .error e => (.error e, buffer)
  | .ok () =>
    match expansion? a ikm salt info buffer.length with
    | some okm => (.ok (), okm)
    | none =>
      (.error (.lengthExceeded buffer.length a.maxOutput), List.replicate buffer.length 0)

/-- `length` bytes from the keying material, the salt and a context, derived into a buffer of its
own once the request has been checked. -/
def derive (a : Algorithm) (ikm salt info : Bytes) (length : Nat) :
    Except DerivationError Bytes := do
  validate a ikm salt length
  let derived := deriveInto a ikm salt info (List.replicate length 0)
  derived.1
  return derived.2

def deriveStandard (ikm salt info : Bytes) (length : Nat) : Except DerivationError Bytes :=
  derive .sha256 ikm salt info length

def derivePlain (ikm salt : Bytes) (length : Nat) : Except DerivationError Bytes :=
  deriveStandard ikm salt [] length

def deriveStandardInto (ikm salt info buffer : Bytes) : Except DerivationError Unit × Bytes :=
  deriveInto .sha256 ikm salt info buffer

def derivedOutline (okm : Bytes) : String :=
  Text.outline "DerivedKeyMaterial" [("len", toString okm.length)] .partly

end DerivationPool

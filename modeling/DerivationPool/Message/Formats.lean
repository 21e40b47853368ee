import DerivationPool.Derivation
import DerivationPool.Message.Schema
import DerivationPool.Text.Display

/-!
The five messages. The envelopes of a job come first: a request names an operation and carries
its input, and a reply either holds the output, or says how the job failed and holds none.
-/
namespace DerivationPool

open Message Cbor

structure JobRequest where
  operation : String
  data : Bytes
  deriving DecidableEq, Repr

instance : Format JobRequest where
  schema := [⟨"operation", .text, none⟩, ⟨"data", .bytes, none⟩]
  toRecord m := (m.operation, m.data, ())
  ofRecord r := .ok ⟨r.1, r.2.1⟩
  ofRecord_toRecord _ := rfl

structure JobReply where
  status : Status
  result : Bytes
  errorType : Option String
  error : Option String
  deriving DecidableEq, Repr

instance : Format JobReply where
  schema := [⟨"status", .status, none⟩, ⟨"result", .bytes, none⟩,
    ⟨"error_type", .optionalText, some none⟩, ⟨"error", .optionalText, some none⟩]
  toRecord m := (m.status, m.result, m.errorType, m.error, ())
  ofRecord r := .ok ⟨r.1, r.2.1, r.2.2.1, r.2.2.2.1⟩
  ofRecord_toRecord _ := rfl

structure JobFailure where
  errorType : String
  message : String
  deriving DecidableEq, Repr

def JobFailure.text (failure : JobFailure) : String := failure.errorType ++ ": " ++ failure.message

namespace JobReply

def ok (result : Bytes) : JobReply := ⟨.ok, result, none, none⟩

def failed (errorType message : String) : JobReply := ⟨.failed, [], some errorType, some message⟩

/-- Whether the job succeeded: the status alone decides. -/
def isOk (reply : JobReply) : Bool := reply.status = .ok

/-- The output or the failure; a failure that is not described is of type `unknown`. -/
def toExcept (reply : JobReply) : Except JobFailure Bytes :=
  match reply.status with
  | .ok => .ok reply.result
  | .failed => .error ⟨reply.errorType.getD "unknown", reply.error.getD ""⟩

@[simp] theorem toExcept_ok (result : Bytes) : (ok result).toExcept = .ok result := rfl

@[simp] theorem toExcept_failed (errorType message : String) :
    (failed errorType message).toExcept = .error ⟨errorType, message⟩ := rfl

end JobReply

/-!
A salt and the secret derived with it, as they travel. Neither is ever empty: the
type says so, and both ways to a message check it, the salt first.
-/

structure DerivationResponse where
  salt : Bytes
  secret : Bytes
  salt_ne_nil : salt ≠ []
  secret_ne_nil : secret ≠ []
  deriving DecidableEq, Repr

namespace DerivationResponse

def ofParts (salt secret : Bytes) : Except MessageError DerivationResponse :=
  if hsalt : salt = [] then .error (.emptyField "salt")
  else if hsecret : secret = [] then .error (.emptyField "secret")
  else .ok ⟨salt, secret, hsalt, hsecret⟩

@[simp] theorem ofParts_self (m : DerivationResponse) : ofParts m.salt m.secret = .ok m := by
  simp [ofParts, m.salt_ne_nil, m.secret_ne_nil]

instance : Format DerivationResponse where
  schema := [⟨"salt", .bytes, none⟩, ⟨"secret", .bytes, none⟩]
  toRecord m := (m.salt, m.secret, ())
  ofRecord r := ofParts r.1 r.2.1
  ofRecord_toRecord := ofParts_self

/-- The response of a salt and a secret, written without a message in between. -/
def encodeParts (salt secret : Bytes) : Except MessageError Bytes :=
  if salt = [] then .error (.emptyField "salt")
  else if secret = [] then .error (.emptyField "secret")
  else fit (Item.map [(.text "salt", .bytes salt), (.text "secret", .bytes secret)]).encode

/-- A response in a log: the salt, and of the secret only the length. -/
def outline (m : DerivationResponse) : String :=
  Text.outline "DerivationResponse" [("salt", Text.quotedBytes m.salt),
    ("secret_len", toString m.secret.length)] .partly

end DerivationResponse

/-!
Derivation from keying material that the caller supplies. The context and the
name of the hash may be left out of a request.
-/

structure DerivateKeyRequest where
  ikm : Bytes
  salt : Bytes
  info : Bytes
  length : UInt32
  hash : String
  deriving DecidableEq, Repr

instance : Format DerivateKeyRequest where
  schema := [⟨"ikm", .bytes, none⟩, ⟨"salt", .bytes, none⟩, ⟨"info", .bytes, some []⟩,
    ⟨"length", .word32, none⟩, ⟨"hash", .text, some Algorithm.standard.name⟩]
  toRecord m := (m.ikm, m.salt, m.info, m.length, m.hash, ())
  ofRecord r := .ok ⟨r.1, r.2.1, r.2.2.1, r.2.2.2.1, r.2.2.2.2.1⟩
  ofRecord_toRecord _ := rfl

def DerivateKeyRequest.outline (m : DerivateKeyRequest) : String :=
  Text.outline "DerivateKeyRequest" [("ikm_len", toString m.ikm.length),
    ("salt", Text.quotedBytes m.salt), ("info", Text.quotedBytes m.info),
    ("length", toString m.length.toNat), ("hash", Text.quoted m.hash)] .whole

structure DerivateKeyResponse where
  okm : Bytes
  deriving DecidableEq, Repr

instance : Format DerivateKeyResponse where
  schema := [⟨"okm", .bytes, none⟩]
  toRecord m := (m.okm, ())
  ofRecord r := .ok ⟨r.1⟩
  ofRecord_toRecord _ := rfl

namespace DerivateKeyResponse

def encodeParts (okm : Bytes) : Except MessageError Bytes :=
  fit (Item.map [(.text "okm", .bytes okm)]).encode

def outline (m : DerivateKeyResponse) : String :=
  Text.outline "DerivateKeyResponse" [("okm_len", toString m.okm.length)] .whole

end DerivateKeyResponse

end DerivationPool

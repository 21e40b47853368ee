import DerivationPool.Derivation
import DerivationPool.Message.Formats
import DerivationPool.Operation.Table
import DerivationPool.Secret

/-!
The operations of a service. One derives from keying material in the job itself. There a job
that is no request, or that names an unknown hash, is invalid; a request with bad inputs fails
as a derivation.
-/
namespace DerivationPool

def derivateKeyName : String := "derivate_key"

def DerivateKeyRequest.algorithm (request : DerivateKeyRequest) : Except JobError Algorithm :=
  (Algorithm.ofName? request.hash).mapError fun e => .invalidJob e.message

/-- Sizes in memory lie below this. -/
def sizeBound : Nat := 1 <<< 64

def DerivateKeyRequest.outputSize (request : DerivateKeyRequest) : Except JobError Nat :=
  let length := request.length.toNat
  if length < sizeBound then .ok length
  else .error (.invalidJob ("length " ++ toString length ++ " out of range"))

def derivateKeyRequest (data : Bytes) : Except JobError DerivateKeyRequest :=
  (Message.decode DerivateKeyRequest data).mapError fun e => .invalidJob e.text

def derivateKey (data : Bytes) : Outcome := do
  let request ← derivateKeyRequest data
  let algorithm ← request.algorithm
  let length ← request.outputSize
  let okm ← (derive algorithm request.ikm request.salt request.info length).mapError .derivation
  (DerivateKeyResponse.encodeParts okm).mapError .encoding

def Operation.derivateKey {σ : Type} : Operation σ :=
  .ofFunction fun job => DerivationPool.derivateKey job.data

/-!
A fresh secret for every job. The job's data names the job and takes no part in
the derivation. Nothing but the read of the entropy source can wait, so a job that
overruns its time is reported as one that waits for entropy.
-/

def deriveSecretName : String := "derive_secret"

def respondSecret (derived : Except DerivationError Secret.Derived) : Outcome := do
  let derived ← derived.mapError .derivation
  (DerivationResponse.encodeParts derived.salt derived.secret).mapError .encoding

variable {σ : Type}

/-- Derives the next secret and writes it with its salt. -/
def deriveSecret (deriver : Secret.Deriver) (source : Entropy σ) (state : σ) :
    Attempt Outcome × σ :=
  let (derived, state) := deriver.next source state
  (derived.map respondSecret, state)

def entropyTimeout (elapsed : Elapsed) : JobError :=
  .derivation (.entropyUnavailable ("entropy read did not return within " ++ elapsed.text))

def Operation.deriveSecret (deriver : Secret.Deriver) (source : Entropy σ) : Operation σ where
  run _ := DerivationPool.deriveSecret deriver source
  timeoutError := entropyTimeout
  waits _ := source.waits

end DerivationPool

/-!
The table that a service starts with: a fresh secret for every job, and derivation
from what the caller supplies.
-/
namespace DerivationPool.Table

variable {σ : Type}

def standard (deriver : Secret.Deriver) (source : Entropy σ) : Except RegisterError (Table σ) := do
  let table ← empty.register deriveSecretName (.deriveSecret deriver source)
  table.register derivateKeyName .derivateKey

end DerivationPool.Table

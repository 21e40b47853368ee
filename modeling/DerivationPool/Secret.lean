import DerivationPool.Derivation
import DerivationPool.Entropy
import DerivationPool.MasterKey

/-!
Secrets from fresh salts. What a service fixes for every secret it derives is the length of the
salt, the length of the secret and the context. The limits are checked once, when the service
starts.
-/
namespace DerivationPool.Secret

structure Params where
  saltLength : Nat
  secretLength : Nat
  info : Bytes
  deriving DecidableEq, Repr

namespace Params

def standard : Params := ⟨16, 82, []⟩

def maxSecretLength : Nat := Algorithm.standard.maxOutput

def validate (p : Params) : Except DerivationError Unit :=
  if p.saltLength = 0 then .error .emptySalt
  else if p.secretLength = 0 then .error .zeroLength
  else if maxSecretLength < p.secretLength then
    .error (.lengthExceeded p.secretLength maxSecretLength)
  else .ok ()

theorem validate_eq_ok_iff (p : Params) :
    p.validate = .ok () ↔
      0 < p.saltLength ∧ 0 < p.secretLength ∧ p.secretLength ≤ maxSecretLength := by
  grind [validate]

end Params

/-!
From a fresh salt to a secret. A deriver holds the master key and parameters that
have been checked; every secret takes one read of the entropy source, and if the
read fails nothing is derived.
-/

structure Derived where
  salt : Bytes
  secret : Bytes
  deriving DecidableEq, Repr

structure Deriver where
  master : MasterKey
  params : Params
  validate_eq_ok : params.validate = .ok ()

namespace Deriver

def build (master : MasterKey) (params : Params) : Except DerivationError Deriver :=
  match h : params.validate with
  | .ok () => .ok ⟨master, params, h⟩
  | .error e => .error e

/-- The secret that belongs to a salt. -/
def replay (d : Deriver) (salt : Bytes) : Except DerivationError Derived :=
  (derive Algorithm.standard d.master.bytes salt d.params.info d.params.secretLength).map
    fun secret => ⟨salt, secret⟩

def next {σ : Type} (d : Deriver) (source : Entropy σ) (state : σ) :
    Attempt (Except DerivationError Derived) × σ :=
  let (drawn, state) := source.drawSalt d.params.saltLength state
  (drawn.map fun salt => salt.bind d.replay, state)

end Deriver

end DerivationPool.Secret

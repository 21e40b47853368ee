import DerivationPool.Operation.Standard
import DerivationPool.Proofs.Derivation.Expansion
import DerivationPool.Proofs.Message.Formats

/-!
What one read of an entropy source comes to. The reads of a source are numbered in
the order in which they happen; a derivation makes one of them, and its outcome is a
function of that reading alone. An outcome that is good shows the reading: it
decodes to the whole of the bytes read and to the secret that belongs to them.
-/
namespace DerivationPool

variable {σ : Type}

namespace Entropy

/-- The state of a source after so many reads of `n` bytes. -/
def stateAfter (source : Entropy σ) (n : Nat) (state : σ) : Nat → σ
  | 0 => state
  | k + 1 => (source.read n (stateAfter source n state k)).2

/-- What a read comes to that `k` others came before. -/
def reading (source : Entropy σ) (n : Nat) (state : σ) (k : Nat) : Reading n :=
  (source.read n (source.stateAfter n state k)).1

end Entropy

namespace Secret.Deriver

abbrev saltLength (deriver : Deriver) : Nat := deriver.params.saltLength

/-- The secret of a salt: HKDF with SHA-256 over the master key. -/
def secretOf (deriver : Deriver) (salt : Bytes) : Bytes :=
  HashFunction.sha256.expand (HashFunction.sha256.extract salt deriver.master.bytes)
    deriver.params.info deriver.params.secretLength

theorem length_secretOf (deriver : Deriver) (salt : Bytes) :
    (deriver.secretOf salt).length = deriver.params.secretLength :=
  HashFunction.sha256.length_expand _ _ _

/-- What a derivation comes to, by what its read came to. -/
def outcome (deriver : Deriver) (reading : Reading deriver.saltLength) : Attempt Outcome :=
  reading.salt.map fun salt => respondSecret (salt.bind deriver.replay)

theorem saltLength_pos (deriver : Deriver) : 0 < deriver.saltLength :=
  ((Params.validate_eq_ok_iff _).mp deriver.validate_eq_ok).1

/-- A salt that there is a buffer for is drawn with one read: salts of derivers are not empty. -/
theorem next_of_le {deriver : Deriver} (hroom : deriver.saltLength ≤ Bytes.maxLength)
    (source : Entropy σ) (state : σ) :
    deriver.next source state =
      ((source.read deriver.saltLength state).1.salt.map fun salt => salt.bind deriver.replay,
        (source.read deriver.saltLength state).2) := by
  rw [next, source.drawSalt_of_le deriver.saltLength_pos hroom]

/-- Any other is not read, and nothing is derived. -/
theorem next_of_lt {deriver : Deriver} (hlarge : Bytes.maxLength < deriver.saltLength)
    (source : Entropy σ) (state : σ) : deriver.next source state = (.panicked, state) := by
  rw [next, source.drawSalt_of_lt hlarge]
  rfl

end Secret.Deriver

/-- A derivation makes one read. -/
theorem deriveSecret_of_le {deriver : Secret.Deriver}
    (hroom : deriver.saltLength ≤ Bytes.maxLength) (source : Entropy σ) (state : σ) :
    deriveSecret deriver source state =
      (deriver.outcome (source.read deriver.saltLength state).1,
        (source.read deriver.saltLength state).2) := by
  rw [deriveSecret, Secret.Deriver.next_of_le hroom, Secret.Deriver.outcome]
  cases (source.read deriver.saltLength state).1.salt with
  | returned salt => simp only [Attempt.map_returned]
  | panicked => simp only [Attempt.map_panicked]

/-- Where no buffer has room for the salt, the operation panics and the source is left alone. -/
theorem deriveSecret_of_lt {deriver : Secret.Deriver}
    (hlarge : Bytes.maxLength < deriver.saltLength) (source : Entropy σ) (state : σ) :
    deriveSecret deriver source state = (.panicked, state) := by
  rw [deriveSecret, Secret.Deriver.next_of_lt hlarge]
  rfl

/-- There is one secret that belongs to a salt. -/
theorem replay_eq_ok {deriver : Secret.Deriver} {salt : Bytes} {derived : Secret.Derived}
    (h : deriver.replay salt = .ok derived) : derived = ⟨salt, deriver.secretOf salt⟩ := by
  unfold Secret.Deriver.replay at h
  cases hderive : derive Algorithm.standard deriver.master.bytes salt deriver.params.info
      deriver.params.secretLength with
  | error e =>
    rw [hderive] at h
    cases h
  | ok secret =>
    rw [hderive] at h
    cases h
    rw [derive_eq_ok hderive]
    rfl

namespace DerivationResponse

/-- Parts make a message unless one of them is empty, and the first that is empty is named, whether
the message is made or only written. -/
theorem parts_cases (salt secret : Bytes) :
    (salt = [] ∧ ofParts salt secret = .error (.emptyField "salt") ∧
      encodeParts salt secret = .error (.emptyField "salt")) ∨
    (salt ≠ [] ∧ secret = [] ∧ ofParts salt secret = .error (.emptyField "secret") ∧
      encodeParts salt secret = .error (.emptyField "secret")) ∨
    ∃ m : DerivationResponse, m.salt = salt ∧ m.secret = secret ∧ ofParts salt secret = .ok m ∧
      encodeParts salt secret = Message.encode m := by
  by_cases hsalt : salt = []
  · refine .inl ⟨hsalt, ?_, ?_⟩
    · rw [ofParts, dif_pos hsalt]
    · rw [encodeParts, if_pos hsalt]
  by_cases hsecret : secret = []
  · refine .inr (.inl ⟨hsalt, hsecret, ?_, ?_⟩)
    · rw [ofParts, dif_neg hsalt, dif_pos hsecret]
    · rw [encodeParts, if_neg hsalt, if_pos hsecret]
  · refine .inr (.inr ⟨⟨salt, secret, hsalt, hsecret⟩, rfl, rfl, ?_, ?_⟩)
    · rw [ofParts, dif_neg hsalt, dif_neg hsecret]
    · rw [encodeParts, if_neg hsalt, if_neg hsecret]
      rfl

/-- What is written of a salt and a secret reads as a response with both. -/
theorem decode_encodeParts {salt secret payload : Bytes}
    (h : encodeParts salt secret = .ok payload) :
    ∃ response, Message.decode DerivationResponse payload = .ok response ∧
      response.salt = salt ∧ response.secret = secret := by
  obtain ⟨-, -, hencode⟩ | ⟨-, -, -, hencode⟩ | ⟨m, hsalt, hsecret, -, hencode⟩ :=
    parts_cases salt secret
  · rw [hencode] at h
    cases h
  · rw [hencode] at h
    cases h
  · rw [hencode] at h
    exact ⟨m, Message.decode_encode Message.regular_derivationResponse h, hsalt, hsecret⟩

end DerivationResponse

/-- A payload holds the salt and the secret of one derivation. -/
theorem respondSecret_eq_ok {derived : Except DerivationError Secret.Derived} {payload : Bytes}
    (h : respondSecret derived = .ok payload) :
    ∃ d, derived = .ok d ∧ DerivationResponse.encodeParts d.salt d.secret = .ok payload := by
  cases derived with
  | error e => cases h
  | ok d =>
    have hencode : (DerivationResponse.encodeParts d.salt d.secret).mapError JobError.encoding =
        .ok payload := h
    refine ⟨d, rfl, ?_⟩
    cases hparts : DerivationResponse.encodeParts d.salt d.secret with
    | error e =>
      rw [hparts] at hencode
      cases hencode
    | ok bytes =>
      rw [hparts] at hencode
      cases hencode
      rfl

/-- A good outcome is that of a derivation that has made a read. -/
theorem outcome_of_deriveSecret {deriver : Secret.Deriver} {source : Entropy σ} {state : σ}
    {payload : Bytes} (h : (deriveSecret deriver source state).1 = .returned (.ok payload)) :
    deriver.outcome (source.read deriver.saltLength state).1 = .returned (.ok payload) := by
  obtain hlarge | hroom := Nat.lt_or_ge Bytes.maxLength deriver.saltLength
  · rw [deriveSecret_of_lt hlarge] at h
    cases h
  · rwa [deriveSecret_of_le hroom] at h

/-- A derivation that comes to a good outcome has read a whole salt, and its outcome decodes to
that salt and the secret that belongs to it. -/
theorem response_of_outcome {deriver : Secret.Deriver} {reading : Reading deriver.saltLength}
    {payload : Bytes} (h : deriver.outcome reading = .returned (.ok payload)) :
    ∃ bytes hlength response, reading = .filled bytes hlength ∧
      Message.decode DerivationResponse payload = .ok response ∧
      response.salt = bytes ∧ response.secret = deriver.secretOf bytes := by
  unfold Secret.Deriver.outcome at h
  cases reading with
  | panicked => cases h
  | failed written error => cases h
  | filled bytes hlength =>
    simp only [Reading.salt, Attempt.map_returned, Except.bind, Attempt.returned.injEq] at h
    obtain ⟨derived, hreplay, hencode⟩ := respondSecret_eq_ok h
    rw [replay_eq_ok hreplay] at hencode
    obtain ⟨response, hdecode, hsalt, hsecret⟩ := DerivationResponse.decode_encodeParts hencode
    exact ⟨bytes, hlength, response, rfl, hdecode, hsalt, hsecret⟩

end DerivationPool

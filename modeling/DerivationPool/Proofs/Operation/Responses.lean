import DerivationPool.Proofs.Operation.DerivateKey
import DerivationPool.Proofs.Secret.Series

/-!
The responses of the operations, which are written without a message in between. What is
written for the parts of a message is what is written for the message, to the byte, and the
parts are refused where there is no such message or where it is too long: an empty salt
before an empty secret, and either before a size, which is known for all lengths.
-/
namespace DerivationPool

open Message Cbor

namespace DerivationResponse

variable {salt secret bytes : Bytes} {e : MessageError}

/-- The parts are written as the message that they make. -/
theorem encodeParts_eq (salt secret : Bytes) :
    encodeParts salt secret = ofParts salt secret >>= encode := by
  obtain ⟨-, hparts, hencode⟩ | ⟨-, -, hparts, hencode⟩ | ⟨m, -, -, hparts, hencode⟩ :=
    parts_cases salt secret
  all_goals
    rw [hparts, hencode]
    rfl

def sizeFor (saltLength secretLength : Nat) : Nat :=
  13 + headSize saltLength + saltLength + headSize secretLength + secretLength

theorem size_eq_sizeFor (m : DerivationResponse) :
    size m = sizeFor m.salt.length m.secret.length := by
  have hitem : item m = .map [(.text "salt", .bytes m.salt), (.text "secret", .bytes m.secret)] :=
    rfl
  have hsalt := size_name "salt" 4 rfl (by decide)
  have hsecret := size_name "secret" 6 rfl (by decide)
  have hmap : headSize 2 = 1 := rfl
  rw [size, hitem, sizeFor]
  simp only [Item.encode, encodeEntries, List.length_append, length_encodeHead, List.length_cons,
    List.length_nil, Nat.reduceAdd, Nat.zero_add] at hsalt hsecret ⊢
  omega

/-- The fault for which parts are refused: the first that they have. -/
inductive Refused (salt secret : Bytes) : MessageError → Prop where
  | salt (hsalt : salt = []) : Refused salt secret (.emptyField "salt")
  | secret (hsalt : salt ≠ []) (hsecret : secret = []) : Refused salt secret (.emptyField "secret")
  | tooLarge (hsalt : salt ≠ []) (hsecret : secret ≠ [])
      (hsize : maxSize < sizeFor salt.length secret.length) :
      Refused salt secret (.tooLarge (sizeFor salt.length secret.length) maxSize)

/-- Parts are refused for an empty salt, then for an empty secret, then for their size. -/
theorem encodeParts_eq_error_iff : encodeParts salt secret = .error e ↔ Refused salt secret e := by
  obtain ⟨hsalt, -, hencode⟩ | ⟨hsalt, hsecret, -, hencode⟩ | ⟨m, rfl, rfl, -, hencode⟩ :=
    parts_cases salt secret
  · rw [hencode, Except.error.injEq]
    constructor
    · rintro rfl
      exact .salt hsalt
    · intro h
      cases h with
      | salt => rfl
      | secret hne => exact absurd hsalt hne
      | tooLarge hne => exact absurd hsalt hne
  · rw [hencode, Except.error.injEq]
    constructor
    · rintro rfl
      exact .secret hsalt hsecret
    · intro h
      cases h with
      | salt hnil => exact absurd hnil hsalt
      | secret => rfl
      | tooLarge _ hne => exact absurd hsecret hne
  · rw [hencode, encode_eq_error_iff, size_eq_sizeFor]
    constructor
    · rintro ⟨hsize, rfl⟩
      exact .tooLarge m.salt_ne_nil m.secret_ne_nil hsize
    · intro h
      cases h with
      | salt hnil => exact absurd hnil m.salt_ne_nil
      | secret _ hnil => exact absurd hnil m.secret_ne_nil
      | tooLarge _ _ hsize => exact ⟨hsize, rfl⟩

/-- What is written reads as the message that the parts make. -/
theorem encodeParts_eq_ok (h : encodeParts salt secret = .ok bytes) :
    bytes.length = sizeFor salt.length secret.length ∧ bytes.length ≤ maxSize ∧
      decode DerivationResponse bytes = ofParts salt secret := by
  obtain ⟨-, -, hencode⟩ | ⟨-, -, -, hencode⟩ | ⟨m, rfl, rfl, hparts, hencode⟩ :=
    parts_cases salt secret
  · rw [hencode] at h
    cases h
  · rw [hencode] at h
    cases h
  · rw [hencode] at h
    obtain ⟨hsize, hbytes⟩ := (fit_eq_ok_iff _ _).mp h
    rw [hparts, decode_encode regular_derivationResponse h, hbytes, ← size_eq_sizeFor]
    exact ⟨rfl, hsize, rfl⟩

end DerivationResponse

def Secret.Params.responseSize (params : Secret.Params) : Nat :=
  DerivationResponse.sizeFor params.saltLength params.secretLength

/-- Whether the response of a secret is written is a matter of its size. -/
theorem Secret.Deriver.encodeParts_secretOf (d : Secret.Deriver) {salt : Bytes}
    (hlength : salt.length = d.saltLength) :
    (maxSize < d.params.responseSize ∧ DerivationResponse.encodeParts salt (d.secretOf salt) =
      .error (.tooLarge d.params.responseSize maxSize)) ∨
    (d.params.responseSize ≤ maxSize ∧ ∃ payload,
      DerivationResponse.encodeParts salt (d.secretOf salt) = .ok payload ∧
      payload.length = d.params.responseSize) := by
  have hsize : DerivationResponse.sizeFor salt.length (d.secretOf salt).length =
      d.params.responseSize := by
    rw [hlength, d.length_secretOf]
    rfl
  cases hencode : DerivationResponse.encodeParts salt (d.secretOf salt) with
  | error e =>
    rw [DerivationResponse.encodeParts_eq_error_iff] at hencode
    cases hencode with
    | salt hnil => exact absurd hnil (List.ne_nil_of_length_pos (hlength ▸ d.saltLength_pos))
    | secret _ hnil =>
      have hpos := ((Secret.Params.validate_eq_ok_iff _).mp d.validate_eq_ok).2.1
      rw [← d.length_secretOf salt, hnil] at hpos
      exact absurd hpos (Nat.lt_irrefl 0)
    | tooLarge _ _ hlarge =>
      rw [hsize] at hlarge ⊢
      exact .inl ⟨hlarge, rfl⟩
  | ok payload =>
    obtain ⟨hpayload, hfits, -⟩ := DerivationResponse.encodeParts_eq_ok hencode
    rw [hsize] at hpayload
    exact .inr ⟨hpayload ▸ hfits, payload, rfl, hpayload⟩

/-- A salt that was read is answered where the response fits, with the secret that belongs to it. -/
theorem Secret.Deriver.payload_of_filled {σ : Type} (d : Secret.Deriver) {source : Entropy σ}
    {state : σ} {salt : Bytes} {hlength : salt.length = d.saltLength}
    (hread : (source.read d.saltLength state).1 = .filled salt hlength)
    (hfits : d.params.responseSize ≤ maxSize) :
    ∃ payload response, (deriveSecret d source state).1 = .returned (.ok payload) ∧
      decode DerivationResponse payload = .ok response ∧ response.salt = salt ∧
      response.secret = d.secretOf salt := by
  have hroom : d.saltLength ≤ Bytes.maxLength := by
    have hpart : d.params.saltLength ≤ d.params.responseSize := by
      rw [Params.responseSize, DerivationResponse.sizeFor]
      omega
    exact Nat.le_trans hpart (Nat.le_trans hfits (by decide))
  obtain ⟨hlarge, -⟩ | ⟨-, payload, hencode, -⟩ := d.encodeParts_secretOf hlength
  · omega
  · have houtcome : d.outcome (.filled salt hlength) = .returned (.ok payload) := by
      rw [d.outcome_filled hlength, hencode]
      rfl
    obtain ⟨_, _, response, hfilled, hdecode, hsalt, hsecret⟩ := response_of_outcome houtcome
    cases hfilled
    refine ⟨payload, response, ?_, hdecode, hsalt, hsecret⟩
    rw [deriveSecret_of_le hroom, hread]
    exact houtcome

/-- The parts of a response are written as the message that they make, and they are refused for
the same fault: the first that is empty, or else the size of the message. The same goes for derived
bytes, which may be empty. -/
theorem parts_of_responses (salt secret okm : Bytes) :
    (DerivationResponse.encodeParts salt secret =
        DerivationResponse.ofParts salt secret >>= encode ∧
      (∀ e, DerivationResponse.encodeParts salt secret = .error e ↔
        DerivationResponse.Refused salt secret e) ∧
      ∀ bytes, DerivationResponse.encodeParts salt secret = .ok bytes →
        bytes.length = DerivationResponse.sizeFor salt.length secret.length ∧
          bytes.length ≤ maxSize ∧
          decode DerivationResponse bytes = DerivationResponse.ofParts salt secret) ∧
    DerivateKeyResponse.encodeParts okm = encode (DerivateKeyResponse.mk okm) ∧
      (∀ e, DerivateKeyResponse.encodeParts okm = .error e ↔
        maxSize < 5 + headSize okm.length + okm.length ∧
          e = .tooLarge (5 + headSize okm.length + okm.length) maxSize) ∧
      ∀ bytes, DerivateKeyResponse.encodeParts okm = .ok bytes →
        bytes.length = 5 + headSize okm.length + okm.length ∧
          decode DerivateKeyResponse bytes = .ok ⟨okm⟩ := by
  have hwhole : DerivateKeyResponse.encodeParts okm = encode (DerivateKeyResponse.mk okm) := rfl
  refine ⟨⟨DerivationResponse.encodeParts_eq salt secret,
    fun e => DerivationResponse.encodeParts_eq_error_iff,
    fun bytes => DerivationResponse.encodeParts_eq_ok⟩, hwhole, fun e => ?_, fun bytes h => ?_⟩
  · rw [hwhole, encode_eq_error_iff, DerivateKeyResponse.size_mk]
  · rw [hwhole] at h
    obtain ⟨-, hbytes⟩ := (fit_eq_ok_iff _ _).mp h
    rw [decode_encode regular_derivateKeyResponse h, hbytes, ← DerivateKeyResponse.size_mk]
    exact ⟨rfl, rfl⟩

/-- The longest salt that goes with a secret of one byte, and a salt that is longer by one. -/
theorem parts_of_longest_salt :
    (∃ salt bytes : Bytes, salt = List.replicate 65518 0 ∧
      DerivationResponse.encodeParts salt [1] = .ok bytes ∧ bytes.length = 65536) ∧
    ∃ salt : Bytes, salt = List.replicate 65519 0 ∧
      DerivationResponse.encodeParts salt [1] = .error (.tooLarge 65537 65536) ∧
      DerivationResponse.ofParts salt [1] >>= encode = .error (.tooLarge 65537 65536) := by
  constructor
  · obtain ⟨salt, hsalt⟩ : ∃ salt : Bytes, salt = List.replicate 65518 0 := ⟨_, rfl⟩
    have hlength : salt.length = 65518 := by rw [hsalt, List.length_replicate]
    obtain ⟨⟨-, hrefused, hwritten⟩, -⟩ := parts_of_responses salt [1] []
    cases hencode : DerivationResponse.encodeParts salt [1] with
    | error e =>
      -- The size is just the largest, so none of the faults is there.
      cases (hrefused e).mp hencode with
      | salt hnil => simp [hnil] at hlength
      | secret _ hnil => cases hnil
      | tooLarge _ _ hsize =>
        rw [hlength] at hsize
        exact absurd hsize (by decide)
    | ok bytes =>
      refine ⟨salt, bytes, hsalt, hencode, ?_⟩
      rw [(hwritten bytes hencode).1, hlength]
      decide
  · obtain ⟨salt, hsalt⟩ : ∃ salt : Bytes, salt = List.replicate 65519 0 := ⟨_, rfl⟩
    have hlength : salt.length = 65519 := by rw [hsalt, List.length_replicate]
    have hne : salt ≠ [] := List.ne_nil_of_length_eq_add_one hlength
    obtain ⟨⟨hmessage, hrefused, -⟩, -⟩ := parts_of_responses salt [1] []
    have hencode : DerivationResponse.encodeParts salt [1] = .error (.tooLarge 65537 65536) := by
      have hsize : DerivationResponse.sizeFor salt.length [(1 : UInt8)].length = 65537 := by
        rw [hlength]
        decide
      rw [hrefused, ← hsize]
      exact .tooLarge hne (by decide) (by rw [hsize]; decide)
    exact ⟨salt, hsalt, hencode, by rw [← hmessage, hencode]⟩

end DerivationPool

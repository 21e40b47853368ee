import DerivationPool.Derivation

/-!
What a derivation comes to, as a value or in a buffer. A request is refused for the first of its
faults. One that has none is never refused by the expansion: the longest output that `validate`
lets through is the longest that the block counter allows. So `derive` is `validate` and then
the expansion, and what is derived has the length that was asked for.
-/
namespace DerivationPool

namespace HashFunction

variable (H : HashFunction)

theorem length_chain (prk info : Bytes) (n i : Nat) (previous : Bytes) :
    (H.chain prk info n i previous).length = n * H.digestSize := by
  induction n generalizing i previous with
  | zero => simp [chain]
  | succ n ih =>
    simp only [chain, List.length_append, length_hmac, ih, Nat.succ_mul]
    omega

/-- The blocks that an output takes are enough for it. -/
theorem le_blocks_mul (length : Nat) :
    length ≤ (length + H.digestSize - 1) / H.digestSize * H.digestSize := by
  have hpos := H.digestSize_pos
  have hdiv := Nat.div_add_mod' (length + H.digestSize - 1) H.digestSize
  have hmod := Nat.mod_lt (length + H.digestSize - 1) hpos
  omega

@[simp] theorem length_expand (prk info : Bytes) (length : Nat) :
    (H.expand prk info length).length = length := by
  rw [expand, List.length_take, length_chain]
  exact Nat.min_eq_left (H.le_blocks_mul length)

end HashFunction

variable (a : Algorithm) (ikm salt info : Bytes) (length : Nat)

/-- The fault for which a request is refused: the first that it has. -/
inductive FirstFault (a : Algorithm) (ikm salt : Bytes) (length : Nat) :
    DerivationError → Prop where
  | keyingMaterial (hikm : ikm = []) : FirstFault a ikm salt length .emptyKeyingMaterial
  | salt (hikm : ikm ≠ []) (hsalt : salt = []) : FirstFault a ikm salt length .emptySalt
  | zeroLength (hikm : ikm ≠ []) (hsalt : salt ≠ []) (hzero : length = 0) :
      FirstFault a ikm salt length .zeroLength
  | exceeded (hikm : ikm ≠ []) (hsalt : salt ≠ []) (hlong : 255 * a.digestSize < length) :
      FirstFault a ikm salt length (.lengthExceeded length (255 * a.digestSize))

/-- The check refuses a request for its first fault and for nothing else. -/
theorem validate_eq_error_iff (e : DerivationError) :
    validate a ikm salt length = .error e ↔ FirstFault a ikm salt length e := by
  constructor
  · intro h
    by_cases hikm : ikm = []
    · rw [validate, if_pos hikm] at h
      cases h
      exact .keyingMaterial hikm
    by_cases hsalt : salt = []
    · rw [validate, if_neg hikm, if_pos hsalt] at h
      cases h
      exact .salt hikm hsalt
    by_cases hzero : length = 0
    · rw [validate, if_neg hikm, if_neg hsalt, if_pos hzero] at h
      cases h
      exact .zeroLength hikm hsalt hzero
    rw [validate, if_neg hikm, if_neg hsalt, if_neg hzero] at h
    split at h
    · rename_i hlong
      cases h
      exact .exceeded hikm hsalt hlong
    · cases h
  · intro h
    cases h with
    | keyingMaterial hikm => rw [validate, if_pos hikm]
    | salt hikm hsalt => rw [validate, if_neg hikm, if_pos hsalt]
    | zeroLength hikm hsalt hzero => rw [validate, if_neg hikm, if_neg hsalt, if_pos hzero]
    | exceeded hikm hsalt hlong =>
      have hpos : length ≠ 0 := by omega
      rw [validate, if_neg hikm, if_neg hsalt, if_neg hpos, a.maxOutput_eq, if_pos hlong]

/-- The output for a request without a fault. -/
def material : Bytes := a.hash.expand (a.hash.extract salt ikm) info length

@[simp] theorem length_material : (material a ikm salt info length).length = length :=
  a.hash.length_expand _ info length

/-- The check and the expansion draw the same line. -/
theorem Algorithm.maxOutput_hash : a.hash.maxOutput = a.maxOutput := by
  rw [HashFunction.maxOutput, digestSize_hash, maxOutput_eq]

/-- The expansion gives nothing exactly where the counter of the blocks would run over. -/
theorem expansion?_eq :
    expansion? a ikm salt info length =
      if length ≤ a.maxOutput then some (material a ikm salt info length) else none := by
  rw [expansion?, a.maxOutput_hash]
  rfl

section Checked

variable {a ikm salt length}

theorem expansion?_of_valid (h : validate a ikm salt length = .ok ()) :
    expansion? a ikm salt info length = some (material a ikm salt info length) := by
  have hle := ((validate_eq_ok_iff a ikm salt length).mp h).2.2.2
  rw [expansion?_eq, if_pos hle]

theorem deriveInto_of_valid {buffer : Bytes} (h : validate a ikm salt buffer.length = .ok ()) :
    deriveInto a ikm salt info buffer = (.ok (), material a ikm salt info buffer.length) := by
  rw [deriveInto, h, expansion?_of_valid info h]

theorem deriveInto_of_invalid {buffer : Bytes} {e : DerivationError}
    (h : validate a ikm salt buffer.length = .error e) :
    deriveInto a ikm salt info buffer = (.error e, buffer) := by
  rw [deriveInto, h]

end Checked

/-- After its check a request cannot fail. -/
theorem derive_eq :
    derive a ikm salt info length =
      (validate a ikm salt length).map fun _ => material a ikm salt info length := by
  cases hvalid : validate a ikm salt length with
  | error e =>
    rw [derive, hvalid]
    rfl
  | ok _ =>
    have hbuffer : validate a ikm salt (List.replicate length (0 : UInt8)).length = .ok () := by
      rwa [List.length_replicate]
    rw [derive, hvalid, deriveInto_of_valid info hbuffer, List.length_replicate]
    rfl

/-- A derivation fails as the check does; the expansion adds no failure of its own. -/
theorem derive_eq_error_iff (e : DerivationError) :
    derive a ikm salt info length = .error e ↔ FirstFault a ikm salt length e := by
  rw [← validate_eq_error_iff, derive_eq]
  cases validate a ikm salt length with
  | error e' =>
    rw [Except.map, Except.error.injEq, Except.error.injEq]
  | ok _ =>
    constructor <;> intro h <;> cases h

variable {a : Algorithm} {ikm salt info okm : Bytes} {length : Nat}

theorem derive_of_valid (h : validate a ikm salt length = .ok ()) :
    derive a ikm salt info length = .ok (material a ikm salt info length) := by
  rw [derive_eq, h]
  rfl

theorem derive_eq_ok (h : derive a ikm salt info length = .ok okm) :
    okm = material a ikm salt info length := by
  rw [derive_eq] at h
  cases hvalid : validate a ikm salt length with
  | error e =>
    rw [hvalid] at h
    cases h
  | ok _ =>
    rw [hvalid] at h
    cases h
    rfl

/-!
Derivation into a buffer of the caller. It comes to what a derivation of the buffer's
length comes to: with an error the buffer is left as it was, and else the derived bytes
are the whole of it. The zeros of a failed expansion are never seen, since no request that
passes the check is too long for the counter of the blocks.
-/

section Request

variable (a : Algorithm) (ikm salt info : Bytes) (length : Nat)

/-- An expansion fails where a request is too long, and nowhere else. -/
theorem expansion?_eq_none_iff :
    expansion? a ikm salt info length = none ↔ a.maxOutput < length := by
  rw [expansion?_eq, ite_eq_right_iff]
  simp

/-- All buffers of one length get the same error and keep what they held, or they get the same
bytes. -/
theorem deriveInto_cases :
    (∃ e, derive a ikm salt info length = .error e ∧
      ∀ buffer : Bytes, buffer.length = length →
        deriveInto a ikm salt info buffer = (.error e, buffer)) ∨
    ∃ okm : Bytes, derive a ikm salt info length = .ok okm ∧ okm.length = length ∧
      ∀ buffer : Bytes, buffer.length = length →
        deriveInto a ikm salt info buffer = (.ok (), okm) := by
  cases hvalid : validate a ikm salt length with
  | error e =>
    refine .inl ⟨e, ?_, ?_⟩
    · rw [derive_eq_error_iff, ← validate_eq_error_iff, hvalid]
    · rintro buffer rfl
      exact deriveInto_of_invalid info hvalid
  | ok _ =>
    refine .inr ⟨_, derive_of_valid hvalid, length_material a ikm salt info length, ?_⟩
    rintro buffer rfl
    exact deriveInto_of_valid info hvalid

end Request

/-- A buffer gets all of what a derivation of its length gives, whatever it held, or it gets the
same error and keeps what it held. The expansion of a request that has passed the check does not
fail: both draw the line at one length. -/
theorem whole_of_buffer (a : Algorithm) (ikm salt info buffer : Bytes) :
    (∀ e, (deriveInto a ikm salt info buffer).1 = .error e ↔
      derive a ikm salt info buffer.length = .error e) ∧
    (∀ e, (deriveInto a ikm salt info buffer).1 = .error e →
      (deriveInto a ikm salt info buffer).2 = buffer) ∧
    (∀ okm, derive a ikm salt info buffer.length = .ok okm ↔
      deriveInto a ikm salt info buffer = (.ok (), okm)) ∧
    (deriveInto a ikm salt info buffer).2.length = buffer.length ∧
    (∀ other : Bytes, other.length = buffer.length →
      (deriveInto a ikm salt info other).1 = (deriveInto a ikm salt info buffer).1 ∧
      ((deriveInto a ikm salt info buffer).1 = .ok () →
        (deriveInto a ikm salt info other).2 = (deriveInto a ikm salt info buffer).2)) ∧
    (validate a ikm salt buffer.length = .ok () →
      expansion? a ikm salt info buffer.length ≠ none) ∧
    (∀ length, expansion? a ikm salt info length = none ↔ a.maxOutput < length) ∧
    deriveStandardInto ikm salt info buffer = deriveInto .sha256 ikm salt info buffer := by
  have hreached : validate a ikm salt buffer.length = .ok () →
      expansion? a ikm salt info buffer.length ≠ none := by
    intro hvalid
    rw [expansion?_of_valid info hvalid]
    exact Option.some_ne_none _
  have hline := expansion?_eq_none_iff a ikm salt info
  -- What the buffer holds is not in the cases, so they speak for the other buffer too.
  obtain ⟨e, hderive, hinto⟩ | ⟨okm, hderive, hlength, hinto⟩ :=
    deriveInto_cases a ikm salt info buffer.length
  · rw [hinto buffer rfl, hderive]
    refine ⟨fun e' => ?_, fun _ _ => rfl, fun okm => ?_, rfl, fun other hother => ?_, hreached,
      hline, rfl⟩
    · rw [Except.error.injEq, Except.error.injEq]
    · constructor <;> intro h <;> cases h
    · rw [hinto other hother]
      exact ⟨rfl, fun h => by cases h⟩
  · rw [hinto buffer rfl, hderive]
    refine ⟨fun e => ?_, fun e h => ?_, fun okm' => ?_, hlength, fun other hother => ?_,
      hreached, hline, rfl⟩
    · constructor <;> intro h <;> cases h
    · cases h
    · rw [Except.ok.injEq, Prod.mk.injEq]
      exact ⟨fun h => ⟨rfl, h⟩, fun h => h.2⟩
    · rw [hinto other hother]
      exact ⟨rfl, fun _ => rfl⟩

/-- A buffer that is one byte too long is not touched, and one of three bytes comes to the same
whatever is in it. -/
theorem whole_of_stale_buffer :
    (∃ buffer : Bytes, buffer = List.replicate 8161 0xaa ∧
      deriveInto .sha256 [1] [2] [] buffer = (.error (.lengthExceeded 8161 8160), buffer)) ∧
    ∃ okm : Bytes, derive .sha256 [1] [2] [] 3 = .ok okm ∧
      ∀ x y z : UInt8, deriveInto .sha256 [1] [2] [] [x, y, z] = (.ok (), okm) := by
  constructor
  · obtain ⟨buffer, hbuffer⟩ : ∃ buffer : Bytes, buffer = List.replicate 8161 0xaa := ⟨_, rfl⟩
    have hlength : buffer.length = 8161 := by rw [hbuffer, List.length_replicate]
    obtain ⟨herror, hkept, -⟩ := whole_of_buffer .sha256 [1] [2] [] buffer
    have hrefused : (deriveInto .sha256 [1] [2] [] buffer).1 =
        .error (.lengthExceeded 8161 8160) := by
      rw [herror, hlength, derive_eq_error_iff]
      exact .exceeded (by decide) (by decide) (by decide)
    exact ⟨buffer, hbuffer, Prod.ext hrefused (hkept _ hrefused)⟩
  · have hvalid : validate .sha256 [1] [2] 3 = .ok () := rfl
    refine ⟨_, derive_of_valid hvalid, fun x y z => ?_⟩
    obtain ⟨-, -, hfilled, -⟩ := whole_of_buffer .sha256 [1] [2] [] [x, y, z]
    exact (hfilled _).mp (derive_of_valid hvalid)

end DerivationPool

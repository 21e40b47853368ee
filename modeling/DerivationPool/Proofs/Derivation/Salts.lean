import Mathlib.Data.FinEnum
import Mathlib.Data.Fintype.BigOperators
import Mathlib.Data.Fintype.Pigeonhole
import DerivationPool.Proofs.Derivation.Blocks

/-!
What an output says about its salt. A salt is the key of a keyed hash, and nothing but its
key block reaches the output: a long salt is there as its digest, and a short one with zeros
behind it. So some salts come to the same outputs always, and it is known which. Any others
come to the same output only if the hash function itself does not tell two messages apart,
and those two are named. There have to be such messages, since there are more salts than
pseudorandom keys.
-/
namespace DerivationPool

/-- Byte strings that differ at most in the number of zeros at their end. -/
def Bytes.AlikeUpToZeros (b b' : Bytes) : Prop :=
  ∃ n, b' = b ++ List.replicate n 0 ∨ b = b' ++ List.replicate n 0

namespace Bytes

variable {b b' : Bytes}

theorem alikeUpToZeros_of_append {m n : Nat}
    (h : b ++ List.replicate m 0 = b' ++ List.replicate n 0) : b.AlikeUpToZeros b' := by
  -- One of the two is the front of the other, and what is behind it is part of the zeros.
  obtain ⟨rest, hb', hrest⟩ | ⟨rest, hb, hrest⟩ := List.append_eq_append_iff.mp h
  · obtain ⟨-, hzeros, -⟩ := List.replicate_eq_append_iff.mp hrest
    exact ⟨rest.length, .inl (by rw [hb', ← hzeros])⟩
  · obtain ⟨-, hzeros, -⟩ := List.replicate_eq_append_iff.mp hrest
    exact ⟨rest.length, .inr (by rw [hb, ← hzeros])⟩

/-- Filled up with zeros to one length, they are the same. -/
theorem AlikeUpToZeros.fill (h : b.AlikeUpToZeros b') {size : Nat} (hb : b.length ≤ size)
    (hb' : b'.length ≤ size) :
    b ++ List.replicate (size - b.length) 0 = b' ++ List.replicate (size - b'.length) 0 := by
  obtain ⟨n, rfl | rfl⟩ := h
  all_goals
    rw [List.length_append, List.length_replicate] at *
    rw [List.append_assoc, List.replicate_append_replicate]
    congr 2
    omega

/-- Zeros at the end tell no two byte strings of one length apart from each other. -/
theorem AlikeUpToZeros.eq_of_length (h : b.AlikeUpToZeros b') (hlength : b.length = b'.length) :
    b = b' := by
  obtain ⟨n, rfl | rfl⟩ := h
  all_goals
    rw [List.length_append, List.length_replicate] at hlength
    obtain rfl : n = 0 := by omega
    simp

end Bytes

namespace HashFunction

variable {H : HashFunction} {key key' message message' : Bytes}

/-- A key as it goes into its block: one that is too long by its digest. -/
def shortKey (H : HashFunction) (key : Bytes) : Bytes :=
  if H.blockSize < key.length then H.digest key else key

/-- Keys that a keyed hash does not tell apart. -/
def SameKey (H : HashFunction) (key key' : Bytes) : Prop :=
  (H.shortKey key).AlikeUpToZeros (H.shortKey key')

theorem keyBlock_eq (key : Bytes) :
    H.keyBlock key =
      H.shortKey key ++ List.replicate (H.blockSize - (H.shortKey key).length) 0 := rfl

theorem length_shortKey_le (key : Bytes) : (H.shortKey key).length ≤ H.blockSize := by
  unfold shortKey
  split
  · rw [H.length_digest]
    exact H.digestSize_le_blockSize
  · omega

theorem shortKey_of_le (h : key.length ≤ H.blockSize) : H.shortKey key = key :=
  if_neg (Nat.not_lt.mpr h)

/-- A key block shows its key but for what `SameKey` leaves open. -/
theorem keyBlock_eq_iff : H.keyBlock key = H.keyBlock key' ↔ H.SameKey key key' := by
  rw [keyBlock_eq, keyBlock_eq]
  exact ⟨Bytes.alikeUpToZeros_of_append,
    fun h => h.fill (H.length_shortKey_le key) (H.length_shortKey_le key')⟩

theorem maskedKey_eq_iff (pad : UInt8) :
    H.maskedKey pad key = H.maskedKey pad key' ↔ H.SameKey key key' := by
  have hpad : Function.Injective (· ^^^ pad) := fun _ _ h => (UInt8.xor_left_inj pad).mp h
  rw [← keyBlock_eq_iff, maskedKey, maskedKey]
  exact hpad.list_map.eq_iff

/-- Keys of one length that are not too long are told apart. -/
theorem SameKey.eq_of_length (h : H.SameKey key key') (hlength : key.length = key'.length)
    (hshort : key.length ≤ H.blockSize) : key = key' := by
  rw [SameKey, shortKey_of_le hshort, shortKey_of_le (hlength ▸ hshort)] at h
  exact h.eq_of_length hlength

/-- A key with zeros behind it, as long as all of it goes into the block. -/
theorem sameKey_append_zeros {n : Nat} (h : key.length + n ≤ H.blockSize) :
    H.SameKey key (key ++ List.replicate n 0) := by
  have hlonger : (key ++ List.replicate n 0).length ≤ H.blockSize := by
    rwa [List.length_append, List.length_replicate]
  rw [SameKey, shortKey_of_le (Nat.le_of_add_right_le h), shortKey_of_le hlonger]
  exact ⟨n, .inl rfl⟩

/-- A key that is too long, and its digest. -/
theorem sameKey_digest (h : H.blockSize < key.length) : H.SameKey key (H.digest key) := by
  have hdigest : (H.digest key).length ≤ H.blockSize := by
    rw [H.length_digest]
    exact H.digestSize_le_blockSize
  rw [SameKey, shortKey_of_le hdigest, shortKey, if_pos h]
  exact ⟨0, .inl (List.append_nil _).symm⟩

/-- A further byte makes another key, unless it is zero. -/
theorem not_sameKey_concat {b : UInt8} (hb : b ≠ 0) (h : key.length < H.blockSize) :
    ¬ H.SameKey key (key ++ [b]) := by
  have hlonger : (key ++ [b]).length ≤ H.blockSize := by
    rw [List.length_append, List.length_singleton]
    exact h
  rw [SameKey, shortKey_of_le (Nat.le_of_lt h), shortKey_of_le hlonger]
  rintro ⟨n, hpadded | hpadded⟩
  · have hzeros : [b] = List.replicate n 0 := List.append_cancel_left hpadded
    exact hb (List.eq_of_mem_replicate (hzeros ▸ List.mem_singleton_self b))
  · have hlength := congrArg List.length hpadded
    simp at hlength

theorem SameKey.hmac_eq (h : H.SameKey key key') (message : Bytes) :
    H.hmac key message = H.hmac key' message := by
  rw [hmac, hmac, (maskedKey_eq_iff _).mpr h, (maskedKey_eq_iff _).mpr h]

def outerMessage (H : HashFunction) (key message : Bytes) : Bytes :=
  H.maskedKey 0x5c key ++ H.digest (H.maskedKey 0x36 key ++ message)

/-- What is hashed in the end begins with the key. -/
theorem outerMessage_ne (h : ¬ H.SameKey key key') :
    H.outerMessage key message ≠ H.outerMessage key' message' := by
  intro heq
  have hlength : (H.maskedKey 0x5c key).length = (H.maskedKey 0x5c key').length := by
    rw [maskedKey, maskedKey, List.length_map, List.length_map, length_keyBlock, length_keyBlock]
  exact h ((maskedKey_eq_iff _).mp (List.append_inj_left heq hlength))

/-- The message whose digest is the pseudorandom key of a salt. -/
def extraction (H : HashFunction) (ikm salt : Bytes) : Bytes := H.outerMessage salt ikm

@[simp] theorem digest_extraction (ikm salt : Bytes) :
    H.digest (H.extraction ikm salt) = H.extract salt ikm := rfl

/-- The message whose digest is the first block of an output. -/
def expansion (H : HashFunction) (ikm info salt : Bytes) : Bytes :=
  H.outerMessage (H.extract salt ikm) (info ++ [1])

/-- The hash function does not tell apart two messages that are hashed for two salts: those of the
pseudorandom keys, or those of the first blocks, of which an output may show a part only. -/
inductive Clash (H : HashFunction) (ikm info : Bytes) (length : Nat) (salt salt' : Bytes) :
    Prop where
  | extraction (differ : H.extraction ikm salt ≠ H.extraction ikm salt')
      (agree : H.digest (H.extraction ikm salt) = H.digest (H.extraction ikm salt'))
  | expansion (differ : H.expansion ikm info salt ≠ H.expansion ikm info salt')
      (agree : (H.digest (H.expansion ikm info salt)).take length =
        (H.digest (H.expansion ikm info salt')).take length)

section Outputs

variable {ikm info salt salt' : Bytes} {length : Nat}

/-- An output shows as much of the first block as it has room for. -/
theorem take_digestSize_expand (prk info : Bytes) (length : Nat) :
    (H.expand prk info length).take H.digestSize =
      (H.digest (H.outerMessage prk (info ++ [1]))).take length := by
  have henough : length ≤ (length + 1) * H.digestSize :=
    Nat.le_trans (Nat.le_succ length) (Nat.le_mul_of_pos_right _ H.digestSize_pos)
  have hfirst : H.stream prk info 1 = H.digest (H.outerMessage prk (info ++ [1])) := by
    rw [stream_succ, stream_zero]
    rfl
  rw [expand_eq_take_stream henough, List.take_take, Nat.min_comm, ← List.take_take,
    take_stream (Nat.le_add_left 1 length) (Nat.le_of_eq (Nat.one_mul _).symm), hfirst,
    List.take_of_length_le (Nat.le_of_eq (H.length_digest _))]

/-- Where two salts are not the same key, an output tells them apart or there is a clash. -/
theorem clash_of_expand_eq (hkey : ¬ H.SameKey salt salt')
    (h : H.expand (H.extract salt ikm) info length =
      H.expand (H.extract salt' ikm) info length) :
    H.Clash ikm info length salt salt' := by
  by_cases hprk : H.extract salt ikm = H.extract salt' ikm
  · exact .extraction (outerMessage_ne hkey) (by rwa [digest_extraction, digest_extraction])
  · -- Pseudorandom keys are of one length, and a block has room for them.
    have hlength : (H.extract salt ikm).length = H.digestSize := H.length_hmac salt ikm
    have hlength' : (H.extract salt' ikm).length = H.digestSize := H.length_hmac salt' ikm
    have hother : ¬ H.SameKey (H.extract salt ikm) (H.extract salt' ikm) := fun hsame =>
      hprk (hsame.eq_of_length (hlength.trans hlength'.symm)
        (Nat.le_trans (Nat.le_of_eq hlength) H.digestSize_le_blockSize))
    refine .expansion (outerMessage_ne hother) ?_
    rw [expansion, expansion, ← take_digestSize_expand, ← take_digestSize_expand, h]

/-- Salts that are longer than a digest by one byte outnumber the pseudorandom keys. -/
theorem exists_extract_eq (H : HashFunction) (ikm : Bytes) :
    ∃ salt salt' : Bytes, salt.length = H.digestSize + 1 ∧ salt'.length = H.digestSize + 1 ∧
      salt ≠ salt' ∧ H.extract salt ikm = H.extract salt' ikm := by
  let prkOf (salt : List.Vector UInt8 (H.digestSize + 1)) : List.Vector UInt8 H.digestSize :=
    ⟨H.extract salt.toList ikm, H.length_hmac _ _⟩
  have hbyte : 1 < Fintype.card UInt8 := Fintype.one_lt_card_iff.mpr ⟨0, 1, by decide⟩
  have hfewer : Fintype.card (List.Vector UInt8 H.digestSize) <
      Fintype.card (List.Vector UInt8 (H.digestSize + 1)) := by
    rw [card_vector, card_vector]
    exact Nat.pow_lt_pow_right hbyte (Nat.lt_succ_self _)
  obtain ⟨salt, salt', hne, heq⟩ := Fintype.exists_ne_map_eq_of_card_lt prkOf hfewer
  exact ⟨salt.toList, salt'.toList, salt.2, salt'.2, fun h => hne (Subtype.ext h),
    congrArg Subtype.val heq⟩

end Outputs

end HashFunction

section Derivations

variable {a : Algorithm} {ikm salt salt' : Bytes} (info : Bytes) (length : Nat)

/-- Apart from the check, a salt matters for its pseudorandom key only. -/
theorem derive_of_extract_eq (hsalt : salt ≠ []) (hsalt' : salt' ≠ [])
    (h : a.hash.extract salt ikm = a.hash.extract salt' ikm) :
    derive a ikm salt info length = derive a ikm salt' info length := by
  have hcheck : validate a ikm salt length = validate a ikm salt' length := by
    rw [validate, validate, if_neg hsalt, if_neg hsalt']
  rw [derive_eq, derive_eq, hcheck, material, material, h]

/-- Salts that make the same key derive the same, whatever else they are derived with. -/
theorem derive_of_sameKey (hsalt : salt ≠ []) (hsalt' : salt' ≠ [])
    (h : a.hash.SameKey salt salt') :
    derive a ikm salt info length = derive a ikm salt' info length :=
  derive_of_extract_eq info length hsalt hsalt' (h.hmac_eq ikm)

/-- Whatever the keying material is, there are two salts that no output tells apart, although they
are different keys. -/
theorem exists_derive_eq (a : Algorithm) (ikm : Bytes) :
    ∃ salt salt' : Bytes, salt.length = a.digestSize + 1 ∧ salt'.length = a.digestSize + 1 ∧
      salt ≠ salt' ∧ ¬ a.hash.SameKey salt salt' ∧
      ∀ info length, derive a ikm salt info length = derive a ikm salt' info length := by
  obtain ⟨salt, salt', hlength, hlength', hne, heq⟩ := a.hash.exists_extract_eq ikm
  rw [a.digestSize_hash] at hlength hlength'
  have hroom : a.digestSize + 1 ≤ a.hash.blockSize := by cases a <;> decide
  refine ⟨salt, salt', hlength, hlength', hne, fun hsame => hne ?_, fun info length => ?_⟩
  · exact hsame.eq_of_length (hlength.trans hlength'.symm) (by rwa [hlength])
  · exact derive_of_extract_eq info length (List.ne_nil_of_length_eq_add_one hlength)
      (List.ne_nil_of_length_eq_add_one hlength') heq

end Derivations

theorem deriveStandard_of_le {ikm salt : Bytes} (info : Bytes) {length : Nat} (hikm : ikm ≠ [])
    (hsalt : salt ≠ []) (hpos : 1 ≤ length) (hle : length ≤ 8160) :
    deriveStandard ikm salt info length = .ok (material .sha256 ikm salt info length) :=
  derive_of_valid ((validate_eq_ok_iff .sha256 ikm salt length).mpr ⟨hikm, hsalt, hpos, hle⟩)

/-- Two salts give the same output if they are the same key, which is to say that they differ at
most in zeros at their end once a salt longer than a block is replaced by its digest. Other salts
give different outputs, unless the hash function does not tell apart two messages that are hashed
for them; and whatever the keying material is, there are such salts. -/
theorem salts_of_outputs {ikm salt salt' : Bytes} (info : Bytes) {length : Nat} (hikm : ikm ≠ [])
    (hsalt : salt ≠ []) (hsalt' : salt' ≠ []) (hlow : 16 ≤ length) (hhigh : length ≤ 8160) :
    (∃ okm okm' : Bytes, deriveStandard ikm salt info length = .ok okm ∧
      deriveStandard ikm salt' info length = .ok okm' ∧
      (HashFunction.sha256.SameKey salt salt' → okm = okm') ∧
      (¬ HashFunction.sha256.SameKey salt salt' →
        okm ≠ okm' ∨ HashFunction.sha256.Clash ikm info length salt salt')) ∧
    ∃ twin twin' : Bytes, twin.length = 33 ∧ twin'.length = 33 ∧ twin ≠ twin' ∧
      ¬ HashFunction.sha256.SameKey twin twin' ∧
      ∀ info length, deriveStandard ikm twin info length = deriveStandard ikm twin' info length := by
  have hpos : 1 ≤ length := by omega
  refine ⟨⟨_, _, deriveStandard_of_le info hikm hsalt hpos hhigh,
    deriveStandard_of_le info hikm hsalt' hpos hhigh, fun hsame => ?_, fun hother => ?_⟩,
    exists_derive_eq .sha256 ikm⟩
  · rw [material, material, HashFunction.extract, HashFunction.extract]
    exact congrArg (HashFunction.sha256.expand · info length) (hsame.hmac_eq ikm)
  · by_cases hsame :
        material .sha256 ikm salt info length = material .sha256 ikm salt' info length
    · exact .inr (HashFunction.clash_of_expand_eq hother hsame)
    · exact .inl hsame

/-- A salt and the same salt with a byte behind it that is not zero. -/
theorem salts_of_longer_salt :
    ¬ HashFunction.sha256.SameKey [1] [1, 0x5a] ∧
    ∃ okm okm' : Bytes, deriveStandard [1] [1] [] 16 = .ok okm ∧
      deriveStandard [1] [1, 0x5a] [] 16 = .ok okm' ∧
      (okm ≠ okm' ∨ HashFunction.sha256.Clash [1] [] 16 [1] [1, 0x5a]) := by
  have hother : ¬ HashFunction.sha256.SameKey [1] ([1] ++ [0x5a]) :=
    HashFunction.not_sameKey_concat (by decide) (by decide)
  obtain ⟨⟨okm, okm', hderive, hderive', -, hapart⟩, -⟩ :=
    @salts_of_outputs [1] [1] [1, 0x5a] [] 16 (by decide) (by decide) (by decide) (by decide)
      (by decide)
  exact ⟨hother, okm, okm', hderive, hderive', hapart hother⟩

/-- A salt and the same salt with a zero behind it come to the same output; so do a salt of 65 bytes
and its digest, and two salts of 33 bytes each. -/
theorem one_output_of_two_salts :
    (∃ okm : Bytes, deriveStandard [1] [1] [] 16 = .ok okm ∧
      deriveStandard [1] [1, 0] [] 16 = .ok okm) ∧
    (∃ salt digest okm : Bytes, salt = List.replicate 65 1 ∧
      digest = HashFunction.sha256.digest salt ∧ salt ≠ digest ∧
      deriveStandard [1] salt [] 16 = .ok okm ∧ deriveStandard [1] digest [] 16 = .ok okm) ∧
    (∃ salt salt' okm : Bytes, salt.length = 33 ∧ salt'.length = 33 ∧ salt ≠ salt' ∧
      deriveStandard [1] salt [] 16 = .ok okm ∧ deriveStandard [1] salt' [] 16 = .ok okm) ∧
    ¬ ∀ (ikm info salt salt' : Bytes) (length : Nat), ikm ≠ [] → salt ≠ [] → salt' ≠ [] →
      salt ≠ salt' → 16 ≤ length → length ≤ 8160 →
      deriveStandard ikm salt info length ≠ deriveStandard ikm salt' info length := by
  have hgood : ∀ salt : Bytes, salt ≠ [] →
      deriveStandard [1] salt [] 16 = .ok (material .sha256 [1] salt [] 16) := fun salt hsalt =>
    deriveStandard_of_le [] (by decide) hsalt (by decide) (by decide)
  have hzero : deriveStandard [1] [1] [] 16 = deriveStandard [1] [1, 0] [] 16 :=
    derive_of_sameKey [] 16 (by decide) (by decide)
      (HashFunction.sameKey_append_zeros (n := 1) (by decide))
  refine ⟨⟨_, hgood [1] (by decide), ?_⟩, ?_, ?_, fun hclaim => ?_⟩
  · rw [← hzero, hgood [1] (by decide)]
  · obtain ⟨salt, hsalt⟩ : ∃ salt : Bytes, salt = List.replicate 65 1 := ⟨_, rfl⟩
    have hlength : salt.length = 65 := by rw [hsalt, List.length_replicate]
    have hdigest : (HashFunction.sha256.digest salt).length = 32 :=
      HashFunction.sha256.length_digest salt
    have hne : salt ≠ [] := List.ne_nil_of_length_eq_add_one hlength
    have hne' : HashFunction.sha256.digest salt ≠ [] := List.ne_nil_of_length_eq_add_one hdigest
    have hlong : HashFunction.sha256.blockSize < salt.length := by
      rw [hlength]
      decide
    have hsame : deriveStandard [1] salt [] 16 =
        deriveStandard [1] (HashFunction.sha256.digest salt) [] 16 :=
      derive_of_sameKey [] 16 hne hne' (HashFunction.sameKey_digest hlong)
    refine ⟨salt, _, _, hsalt, rfl, fun heq => ?_, hgood salt hne, by rw [← hsame, hgood salt hne]⟩
    have hlengths := congrArg List.length heq
    rw [hlength, hdigest] at hlengths
    exact absurd hlengths (by decide)
  · obtain ⟨salt, salt', hlength, hlength', hne, -, hsame⟩ := exists_derive_eq .sha256 [1]
    have hnil : salt ≠ [] := List.ne_nil_of_length_eq_add_one hlength
    refine ⟨salt, salt', _, hlength, hlength', hne, hgood salt hnil, ?_⟩
    rw [← hgood salt hnil]
    exact (hsame [] 16).symm
  · exact hclaim [1] [] [1] [1, 0] 16 (by decide) (by decide) (by decide) (by decide) (by decide)
      (by decide) hzero

end DerivationPool

import DerivationPool.Proofs.Derivation.Expansion

/-!
The output of a derivation, block by block. RFC 5869 tells of blocks `T 0`, `T 1`, … that
are chained under the pseudorandom key, each with its number in one byte, and of an output
cut from their sequence. The chain that is walked for an output has these blocks, however
long the salt is and wherever the output ends, and it never comes to a block whose number
has no byte. Outputs of all lengths are cut from one sequence, so that a shorter one is the
front of a longer one.
-/
namespace DerivationPool

namespace HashFunction

variable {H : HashFunction} {prk info : Bytes} {T : Nat → Bytes}

/-- The blocks under a pseudorandom key: the first is empty, and every other is made of the one
before it, the context and its number, which has to fit in a byte. -/
structure Chained (H : HashFunction) (prk info : Bytes) (T : Nat → Bytes) : Prop where
  zero : T 0 = []
  next : ∀ (i : Nat) (counter : UInt8), counter.toNat = i + 1 →
    T (i + 1) = H.hmac prk (T i ++ info ++ [counter])

/-- The blocks that are computed are chained as RFC 5869 has it. -/
theorem chained_block (H : HashFunction) (prk info : Bytes) :
    H.Chained prk info (H.block prk info) where
  zero := rfl
  next i counter hcounter := by
    rw [block, ← hcounter, UInt8.ofNat_toNat]

/-- There is but one sequence of blocks. -/
theorem Chained.eq_block (h : H.Chained prk info T) {i : Nat} (hi : i ≤ 255) :
    T i = H.block prk info i := by
  induction i with
  | zero => exact h.zero
  | succ i ih =>
    have hcounter : (UInt8.ofNat (i + 1)).toNat = i + 1 :=
      UInt8.toNat_ofNat_of_lt' (Nat.lt_succ_of_le hi)
    rw [h.next i _ hcounter, ih (by omega), block]

@[simp] theorem stream_zero : H.stream prk info 0 = [] := rfl

theorem stream_succ (n : Nat) :
    H.stream prk info (n + 1) = H.stream prk info n ++ H.block prk info (n + 1) := by
  simp [stream, List.range_succ]

/-- Chained blocks are determined up to the last number that fits in a byte. -/
theorem Chained.stream_eq (h : H.Chained prk info T) {n : Nat} (hn : n ≤ 255) :
    H.stream prk info n = (List.range n).flatMap fun i => T (i + 1) := by
  induction n with
  | zero => rfl
  | succ n ih =>
    rw [stream_succ, ih (by omega), ← h.eq_block hn]
    simp [List.range_succ]

@[simp] theorem length_stream (n : Nat) :
    (H.stream prk info n).length = n * H.digestSize := by
  induction n with
  | zero => simp
  | succ n ih => rw [stream_succ, List.length_append, ih, block, length_hmac, Nat.succ_mul]

/-- Walking on from a block gives the blocks behind it. -/
theorem stream_append_chain (i n : Nat) :
    H.stream prk info i ++ H.chain prk info n i (H.block prk info i) =
      H.stream prk info (i + n) := by
  -- The walk has the block before in hand, so the start moves along with it.
  induction n generalizing i with
  | zero => simp [chain]
  | succ n ih =>
    have hstep := ih (i + 1)
    rw [stream_succ, List.append_assoc, Nat.succ_add_eq_add_succ] at hstep
    exact hstep

/-- The chain that is walked with the block before in hand is that of the numbered blocks. -/
theorem chain_eq_stream (n : Nat) : H.chain prk info n 0 [] = H.stream prk info n := by
  have hwalk : H.chain prk info n 0 [] = H.stream prk info (0 + n) := stream_append_chain 0 n
  rwa [Nat.zero_add] at hwalk

/-- A shorter sequence of blocks is the front of a longer one. -/
theorem stream_isPrefix {m n : Nat} (h : m ≤ n) :
    H.stream prk info m <+: H.stream prk info n := by
  induction h with
  | refl => exact List.prefix_refl _
  | step _ ih =>
    rw [stream_succ]
    exact ih.trans (List.prefix_append _ _)

/-- Blocks beyond those that an output needs do not show in it. -/
theorem take_stream {m n length : Nat} (hmn : m ≤ n) (hlength : length ≤ m * H.digestSize) :
    (H.stream prk info n).take length = (H.stream prk info m).take length := by
  obtain ⟨rest, hrest⟩ : H.stream prk info m <+: H.stream prk info n := stream_isPrefix hmn
  rw [← hrest, List.take_append_of_le_length (by rwa [length_stream])]

/-- It does not matter how many blocks are made, as long as they are enough. -/
theorem expand_eq_take_stream {length n : Nat} (h : length ≤ n * H.digestSize) :
    H.expand prk info length = (H.stream prk info n).take length := by
  have hpos := H.digestSize_pos
  have hcount : (length + H.digestSize - 1) / H.digestSize ≤ n := by
    rw [← Nat.lt_succ_iff, Nat.div_lt_iff_lt_mul hpos, Nat.succ_mul]
    omega
  rw [expand, chain_eq_stream, take_stream hcount (H.le_blocks_mul length)]

/-- A longer output begins with a shorter one, wherever in a block either of them ends. -/
theorem take_expand {short long : Nat} (h : short ≤ long) :
    (H.expand prk info long).take short = H.expand prk info short := by
  -- The blocks of the longer output are enough for both.
  have hlong : long ≤ long * H.digestSize := Nat.le_mul_of_pos_right long H.digestSize_pos
  rw [expand_eq_take_stream hlong, expand_eq_take_stream (Nat.le_trans h hlong), List.take_take,
    Nat.min_eq_left h]

end HashFunction

theorem material_eq_take {a : Algorithm} {ikm salt info : Bytes} {T : Nat → Bytes}
    (hT : a.hash.Chained (a.hash.hmac salt ikm) info T) {length n : Nat} (hn : n ≤ 255)
    (hlength : length ≤ n * a.digestSize) :
    material a ikm salt info length =
      ((List.range n).flatMap fun i => T (i + 1)).take length := by
  rw [← a.digestSize_hash] at hlength
  rw [material, HashFunction.extract, HashFunction.expand_eq_take_stream hlength,
    hT.stream_eq hn]

/-- A derivation is that of RFC 5869. Without a fault it gives the first bytes of the blocks, which
are chained under the keyed hash of the keying material with the salt as the key, and however many
blocks are made, none has a number above 255; else it is refused for its first fault. -/
theorem blocks_of_derive (a : Algorithm) (ikm salt info : Bytes) (length : Nat) :
    (∀ message, (a.hash.digest message).length = a.digestSize) ∧
    (∃ T, a.hash.Chained (a.hash.hmac salt ikm) info T) ∧
    (ikm ≠ [] → salt ≠ [] → 1 ≤ length → length ≤ 255 * a.digestSize →
      ∃ okm : Bytes, derive a ikm salt info length = .ok okm ∧ okm.length = length ∧
        ∀ T, a.hash.Chained (a.hash.hmac salt ikm) info T →
          ∀ n ≤ 255, length ≤ n * a.digestSize →
            okm = ((List.range n).flatMap fun i => T (i + 1)).take length) ∧
    (∀ e, derive a ikm salt info length = .error e ↔ FirstFault a ikm salt length e) ∧
    deriveStandard ikm salt info length = derive .sha256 ikm salt info length ∧
    derivePlain ikm salt length = derive .sha256 ikm salt [] length := by
  refine ⟨?_, ⟨_, HashFunction.chained_block _ _ _⟩, ?_, derive_eq_error_iff a ikm salt info length,
    rfl, rfl⟩
  · intro message
    rw [a.hash.length_digest, a.digestSize_hash]
  · intro hikm hsalt hpos hle
    have hvalid := (validate_eq_ok_iff a ikm salt length).mpr ⟨hikm, hsalt, hpos, hle⟩
    exact ⟨_, derive_of_valid hvalid, length_material a ikm salt info length,
      fun T hT n hn hlength => material_eq_take hT hn hlength⟩

/-- A salt longer than a block of the hash, and an output that ends one byte into its second
block. -/
theorem blocks_of_long_salt :
    ∃ salt okm first second : Bytes,
      salt = List.replicate 200 7 ∧ Algorithm.sha384.hash.blockSize < salt.length ∧
      derive .sha384 [1] salt [9] 49 = .ok okm ∧
      first = Algorithm.sha384.hash.hmac (Algorithm.sha384.hash.hmac salt [1]) [9, 1] ∧
      second = Algorithm.sha384.hash.hmac (Algorithm.sha384.hash.hmac salt [1]) (first ++ [9, 2]) ∧
      okm = first ++ second.take 1 := by
  obtain ⟨salt, hsalt⟩ : ∃ salt : Bytes, salt = List.replicate 200 7 := ⟨_, rfl⟩
  have hlength : salt.length = 200 := by rw [hsalt, List.length_replicate]
  have hne : salt ≠ [] := List.ne_nil_of_length_pos (by omega)
  obtain ⟨-, ⟨T, hT⟩, hgood, -⟩ := blocks_of_derive .sha384 [1] salt [9] 49
  obtain ⟨okm, hderive, -, hblocks⟩ := hgood (by decide) hne (by decide) (by decide)
  have hokm := hblocks T hT 2 (by decide) (by decide)
  have hfirst := hT.next 0 1 rfl
  have hsecond := hT.next 1 2 rfl
  have hblock : (T 1).length = 48 := by
    rw [hfirst, HashFunction.length_hmac]
    rfl
  refine ⟨salt, okm, T 1, T 2, hsalt, by rw [hlength]; decide, hderive, ?_, ?_, ?_⟩
  · rw [hfirst, hT.zero]
    rfl
  · rw [hsecond, List.append_assoc]
    rfl
  · have hrange : ((List.range 2).flatMap fun i => T (i + 1)) = T 1 ++ T 2 := by
      simp [List.range_succ]
    rw [hokm, hrange, List.take_append, hblock, List.take_of_length_le (by omega)]

/-- The first of the vectors that RFC 5869 gives: two blocks, of which the second is cut. -/
example :
    (derive .sha256 (List.replicate 22 0x0b) [0, 1, 2, 3, 4, 5, 6, 7, 8, 9, 10, 11, 12]
      [0xf0, 0xf1, 0xf2, 0xf3, 0xf4, 0xf5, 0xf6, 0xf7, 0xf8, 0xf9] 42).toOption.map Bytes.toHex =
      some ("3cb25f25faacd57a90434f64d0362f2a2d2d0a90cf1a5a4c5db02d56ecc4c5bf" ++
        "34007208d5b887185865") := by
  decide +kernel

/-- What is derived for one length is the front of what is derived for any greater length. -/
theorem front_of_derive (a : Algorithm) {ikm salt : Bytes} (info : Bytes) {short long : Nat}
    (hikm : ikm ≠ []) (hsalt : salt ≠ []) (hpos : 1 ≤ short) (hle : short ≤ long)
    (hmost : long ≤ 255 * a.digestSize) :
    ∃ okm okm' : Bytes, derive a ikm salt info short = .ok okm ∧
      derive a ikm salt info long = .ok okm' ∧ okm.length = short ∧ okm'.length = long ∧
      okm = okm'.take short ∧ ∀ i < short, okm[i]? = okm'[i]? := by
  have hvalid := (validate_eq_ok_iff a ikm salt short).mpr
    ⟨hikm, hsalt, hpos, Nat.le_trans hle hmost⟩
  have hvalid' := (validate_eq_ok_iff a ikm salt long).mpr
    ⟨hikm, hsalt, Nat.le_trans hpos hle, hmost⟩
  have hfront : material a ikm salt info short = (material a ikm salt info long).take short :=
    (HashFunction.take_expand hle).symm
  refine ⟨_, _, derive_of_valid hvalid, derive_of_valid hvalid', length_material a ikm salt info _,
    length_material a ikm salt info _, hfront, fun i hi => ?_⟩
  rw [hfront, List.getElem?_take_of_lt hi]

/-- An output that ends one byte into its second block, and the longest output of all. -/
theorem front_of_longest_output :
    ∃ okm okm' : Bytes, derive .sha512 [1] [2] [9] 65 = .ok okm ∧
      derive .sha512 [1] [2] [9] 16320 = .ok okm' ∧ okm.length = 65 ∧ okm'.length = 16320 ∧
      okm = okm'.take 65 ∧ ∀ i < 65, okm[i]? = okm'[i]? :=
  front_of_derive .sha512 [9] (by decide) (by decide) (by decide) (by decide) (by decide)

end DerivationPool

import DerivationPool.Hash.Sha2

/-!
From a hash function to the derivation of keys. A hash function is what its users see of it: a
digest of a fixed size, a block size that is at least as large, and nothing of how the digest
is computed.
-/
namespace DerivationPool

structure HashFunction where
  digestSize : Nat
  blockSize : Nat
  digest : Bytes → Bytes
  length_digest : ∀ message, (digest message).length = digestSize
  digestSize_pos : 0 < digestSize
  digestSize_le_blockSize : digestSize ≤ blockSize

namespace HashFunction

def sha256 : HashFunction where
  digestSize := 32
  blockSize := 64
  digest := Sha2.sha256.digest
  length_digest := Sha2.sha256.length_digest (by decide)
  digestSize_pos := by decide
  digestSize_le_blockSize := by decide

def sha384 : HashFunction where
  digestSize := 48
  blockSize := 128
  digest := Sha2.sha384.digest
  length_digest := Sha2.sha384.length_digest (by decide)
  digestSize_pos := by decide
  digestSize_le_blockSize := by decide

def sha512 : HashFunction where
  digestSize := 64
  blockSize := 128
  digest := Sha2.sha512.digest
  length_digest := Sha2.sha512.length_digest (by decide)
  digestSize_pos := by decide
  digestSize_le_blockSize := by decide

attribute [simp] length_digest

end HashFunction

end DerivationPool

/-!
Keyed hashing. The key reaches the digest only through its block: a long key by its
digest, a short one by zero padding.
-/
namespace DerivationPool.HashFunction

variable (H : HashFunction)

/-- The key as one block: digested if it is too long, then padded with zeros. -/
def keyBlock (key : Bytes) : Bytes :=
  let short := if H.blockSize < key.length then H.digest key else key
  short ++ List.replicate (H.blockSize - short.length) 0

@[simp] theorem length_keyBlock (key : Bytes) : (H.keyBlock key).length = H.blockSize := by
  have := H.digestSize_le_blockSize
  unfold keyBlock
  split <;> simp <;> omega

/-- The key block with every byte added to `pad` without carry. -/
def maskedKey (pad : UInt8) (key : Bytes) : Bytes := (H.keyBlock key).map (· ^^^ pad)

def hmac (key message : Bytes) : Bytes :=
  H.digest (H.maskedKey 0x5c key ++ H.digest (H.maskedKey 0x36 key ++ message))

/-- The two hashes of a key that fits in a block, the inner one within the outer. A longer key
stands for its digest. -/
theorem hmac_eq (key message : Bytes) :
    (key.length ≤ H.blockSize →
      H.hmac key message =
        H.digest ((key ++ List.replicate (H.blockSize - key.length) 0).map (· ^^^ 0x5c) ++
          H.digest ((key ++ List.replicate (H.blockSize - key.length) 0).map (· ^^^ 0x36) ++
            message))) ∧
    (H.blockSize < key.length → H.hmac key message = H.hmac (H.digest key) message) := by
  constructor
  · intro hshort
    rw [hmac, maskedKey, maskedKey, keyBlock, if_neg (Nat.not_lt.mpr hshort)]
  · intro hlong
    have hdigest : ¬ H.blockSize < (H.digest key).length := by
      rw [H.length_digest]
      exact Nat.not_lt.mpr H.digestSize_le_blockSize
    have hblock : H.keyBlock key = H.keyBlock (H.digest key) := by
      rw [keyBlock, keyBlock, if_pos hlong, if_neg hdigest]
    rw [hmac, hmac, maskedKey, maskedKey, hblock]
    rfl

@[simp] theorem length_hmac (key message : Bytes) :
    (H.hmac key message).length = H.digestSize := by
  simp [hmac]

/-!
Extract and expand (RFC 5869). The output is a stream of chained blocks,
`T 1 ++ T 2 ++ …`, cut to the length asked for. `expand` walks the chain with
the previous block in hand; `stream` is the same chain block by block, each
from its number alone.
-/

def extract (salt ikm : Bytes) : Bytes := H.hmac salt ikm

/-- Block `i` of the output, from block `i - 1`; block zero is empty. -/
def block (prk info : Bytes) : Nat → Bytes
  | 0 => []
  | i + 1 => H.hmac prk (block prk info i ++ info ++ [UInt8.ofNat (i + 1)])

/-- The first `n` blocks, end to end. -/
def stream (prk info : Bytes) (n : Nat) : Bytes :=
  (List.range n).flatMap fun i => H.block prk info (i + 1)

/-- `n` more blocks, where `previous` is block `i`. -/
def chain (prk info : Bytes) : Nat → Nat → Bytes → Bytes
  | 0, _, _ => []
  | n + 1, i, previous =>
    let next := H.hmac prk (previous ++ info ++ [UInt8.ofNat (i + 1)])
    next ++ chain prk info n (i + 1) next

/-- The first `length` bytes of the output, from as many blocks as they need. -/
def expand (prk info : Bytes) (length : Nat) : Bytes :=
  (H.chain prk info ((length + H.digestSize - 1) / H.digestSize) 0 []).take length

/-- The most bytes the one-byte block counter allows. -/
def maxOutput : Nat := 255 * H.digestSize

end DerivationPool.HashFunction

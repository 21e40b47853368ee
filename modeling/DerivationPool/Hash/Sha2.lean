import DerivationPool.Bytes

/-!
The SHA-2 family, over words of either width. The two widths stand behind one interface:
wrapping addition, the bitwise operations, rotation, and the big-endian bytes of a word. The
only law asked of a width is the number of bytes it is written in.
-/
namespace DerivationPool

/-- Unsigned words of a fixed width with wrapping addition. -/
class Word (w : Type) extends Add w, AndOp w, XorOp w, Complement w, Inhabited w where
  size : Nat
  rotateRight : w → Nat → w
  shiftRight : w → Nat → w
  ofNat : Nat → w
  toNat : w → Nat

namespace Word

variable {w : Type} [Word w]

def ofBytes (bytes : Bytes) : w := ofNat (Bytes.toNat bytes)

def toBytes (x : w) : Bytes := Bytes.ofNat (size w) (toNat x)

@[simp] theorem length_toBytes (x : w) : (toBytes x).length = size w := by
  simp [toBytes]

end Word

instance : Word UInt32 where
  size := 4
  rotateRight x n := (x >>> n.toUInt32) ||| (x <<< (32 - n.toUInt32))
  shiftRight x n := x >>> n.toUInt32
  ofNat := UInt32.ofNat
  toNat := UInt32.toNat

instance : Word UInt64 where
  size := 8
  rotateRight x n := (x >>> n.toUInt64) ||| (x <<< (64 - n.toUInt64))
  shiftRight x n := x >>> n.toUInt64
  ofNat := UInt64.ofNat
  toNat := UInt64.toNat

/-!
The SHA-2 family: one compression function over words of either width, and the
parameter sets of SHA-256, SHA-384 and SHA-512. A message is padded in one pass,
cut into blocks, and the blocks are folded into eight lanes.
-/

structure Lanes (w : Type) where
  a : w
  b : w
  c : w
  d : w
  e : w
  f : w
  g : w
  h : w

/-- What one member of the family fixes: its constants, its start and its rotations. -/
structure Sha2 (w : Type) where
  constants : List w
  initial : Lanes w
  bigSigma0 : Nat × Nat × Nat
  bigSigma1 : Nat × Nat × Nat
  smallSigma0 : Nat × Nat × Nat
  smallSigma1 : Nat × Nat × Nat
  digestSize : Nat

namespace Lanes

variable {w : Type} [Word w]

def toList (s : Lanes w) : List w := [s.a, s.b, s.c, s.d, s.e, s.f, s.g, s.h]

def add (s t : Lanes w) : Lanes w :=
  ⟨s.a + t.a, s.b + t.b, s.c + t.c, s.d + t.d, s.e + t.e, s.f + t.f, s.g + t.g, s.h + t.h⟩

def toBytes (s : Lanes w) : Bytes := s.toList.flatMap Word.toBytes

@[simp] theorem length_toBytes (s : Lanes w) : s.toBytes.length = 8 * Word.size w := by
  simp [toBytes, toList]
  omega

end Lanes

namespace Sha2

variable {w : Type} [Word w]

/-- Three rotations, added without carry. -/
@[specialize] def rotations (n : Nat × Nat × Nat) (x : w) : w :=
  Word.rotateRight x n.1 ^^^ Word.rotateRight x n.2.1 ^^^ Word.rotateRight x n.2.2

/-- Two rotations and a shift, added without carry. -/
@[specialize] def rotationsAndShift (n : Nat × Nat × Nat) (x : w) : w :=
  Word.rotateRight x n.1 ^^^ Word.rotateRight x n.2.1 ^^^ Word.shiftRight x n.2.2

def blockSize (w : Type) [Word w] : Nat := 16 * Word.size w

@[specialize] def blockWords : Nat → Bytes → List w
  | 0, _ => []
  | n + 1, block =>
    Word.ofBytes (block.take (Word.size w)) :: blockWords n (block.drop (Word.size w))

/-- Extends a schedule by `n` words, each from four earlier ones. -/
@[specialize] def extendSchedule (p : Sha2 w) : Nat → Array w → Array w
  | 0, ws => ws
  | n + 1, ws =>
    let t := ws.size
    let x := rotationsAndShift p.smallSigma1 (ws.getD (t - 2) default) + ws.getD (t - 7) default +
      rotationsAndShift p.smallSigma0 (ws.getD (t - 15) default) + ws.getD (t - 16) default
    extendSchedule p n (ws.push x)

/-- The words of a block and their expansion, one for each round. -/
@[specialize] def schedule (p : Sha2 w) (block : Bytes) : List w :=
  (extendSchedule p (p.constants.length - 16) (blockWords 16 block).toArray).toList

@[specialize] def round (p : Sha2 w) (s : Lanes w) (k x : w) : Lanes w :=
  let choice := (s.e &&& s.f) ^^^ (~~~s.e &&& s.g)
  let majority := (s.a &&& s.b) ^^^ (s.a &&& s.c) ^^^ (s.b &&& s.c)
  let t1 := s.h + rotations p.bigSigma1 s.e + choice + k + x
  let t2 := rotations p.bigSigma0 s.a + majority
  ⟨t1 + t2, s.a, s.b, s.c, s.d + t1, s.e, s.f, s.g⟩

/-- All rounds over one block, added to the lanes they started from. -/
@[specialize] def compress (p : Sha2 w) (s : Lanes w) (block : Bytes) : Lanes w :=
  s.add ((p.constants.zip (p.schedule block)).foldl (fun t kx => p.round t kx.1 kx.2) s)

/-- Zero bytes between the end mark and the length, up to a whole number of blocks. -/
def zeroCount (w : Type) [Word w] (length : Nat) : Nat :=
  let used := (length + 1 + 2 * Word.size w) % blockSize w
  (blockSize w - used) % blockSize w

/-- The message, the end mark, zeros, and the length in bits as two words. -/
def padded (w : Type) [Word w] (message : Bytes) : Bytes :=
  message ++ 0x80 :: (List.replicate (zeroCount w message.length) 0 ++
    Bytes.ofNat (2 * Word.size w) (8 * message.length))

@[specialize] def absorb (p : Sha2 w) : Nat → Lanes w → Bytes → Lanes w
  | 0, s, _ => s
  | n + 1, s, bytes =>
    absorb p n (p.compress s (bytes.take (blockSize w))) (bytes.drop (blockSize w))

@[specialize] def digest (p : Sha2 w) (message : Bytes) : Bytes :=
  let bytes := padded w message
  (p.absorb (bytes.length / blockSize w) p.initial bytes).toBytes.take p.digestSize

theorem length_digest (p : Sha2 w) (h : p.digestSize ≤ 8 * Word.size w) (message : Bytes) :
    (p.digest message).length = p.digestSize := by
  simp [digest, h]

end Sha2

/-- The constants of the 32-bit members: cube roots of the first primes. -/
def Sha2.constants32 : List UInt32 :=
  [
    0x428a2f98, 0x71374491, 0xb5c0fbcf, 0xe9b5dba5, 0x3956c25b, 0x59f111f1,
    0x923f82a4, 0xab1c5ed5, 0xd807aa98, 0x12835b01, 0x243185be, 0x550c7dc3,
    0x72be5d74, 0x80deb1fe, 0x9bdc06a7, 0xc19bf174, 0xe49b69c1, 0xefbe4786,
    0x0fc19dc6, 0x240ca1cc, 0x2de92c6f, 0x4a7484aa, 0x5cb0a9dc, 0x76f988da,
    0x983e5152, 0xa831c66d, 0xb00327c8, 0xbf597fc7, 0xc6e00bf3, 0xd5a79147,
    0x06ca6351, 0x14292967, 0x27b70a85, 0x2e1b2138, 0x4d2c6dfc, 0x53380d13,
    0x650a7354, 0x766a0abb, 0x81c2c92e, 0x92722c85, 0xa2bfe8a1, 0xa81a664b,
    0xc24b8b70, 0xc76c51a3, 0xd192e819, 0xd6990624, 0xf40e3585, 0x106aa070,
    0x19a4c116, 0x1e376c08, 0x2748774c, 0x34b0bcb5, 0x391c0cb3, 0x4ed8aa4a,
    0x5b9cca4f, 0x682e6ff3, 0x748f82ee, 0x78a5636f, 0x84c87814, 0x8cc70208,
    0x90befffa, 0xa4506ceb, 0xbef9a3f7, 0xc67178f2
  ]

def Sha2.constants64 : List UInt64 :=
  [
    0x428a2f98d728ae22, 0x7137449123ef65cd, 0xb5c0fbcfec4d3b2f, 0xe9b5dba58189dbbc,
    0x3956c25bf348b538, 0x59f111f1b605d019, 0x923f82a4af194f9b, 0xab1c5ed5da6d8118,
    0xd807aa98a3030242, 0x12835b0145706fbe, 0x243185be4ee4b28c, 0x550c7dc3d5ffb4e2,
    0x72be5d74f27b896f, 0x80deb1fe3b1696b1, 0x9bdc06a725c71235, 0xc19bf174cf692694,
    0xe49b69c19ef14ad2, 0xefbe4786384f25e3, 0x0fc19dc68b8cd5b5, 0x240ca1cc77ac9c65,
    0x2de92c6f592b0275, 0x4a7484aa6ea6e483, 0x5cb0a9dcbd41fbd4, 0x76f988da831153b5,
    0x983e5152ee66dfab, 0xa831c66d2db43210, 0xb00327c898fb213f, 0xbf597fc7beef0ee4,
    0xc6e00bf33da88fc2, 0xd5a79147930aa725, 0x06ca6351e003826f, 0x142929670a0e6e70,
    0x27b70a8546d22ffc, 0x2e1b21385c26c926, 0x4d2c6dfc5ac42aed, 0x53380d139d95b3df,
    0x650a73548baf63de, 0x766a0abb3c77b2a8, 0x81c2c92e47edaee6, 0x92722c851482353b,
    0xa2bfe8a14cf10364, 0xa81a664bbc423001, 0xc24b8b70d0f89791, 0xc76c51a30654be30,
    0xd192e819d6ef5218, 0xd69906245565a910, 0xf40e35855771202a, 0x106aa07032bbd1b8,
    0x19a4c116b8d2d0c8, 0x1e376c085141ab53, 0x2748774cdf8eeb99, 0x34b0bcb5e19b48a8,
    0x391c0cb3c5c95a63, 0x4ed8aa4ae3418acb, 0x5b9cca4f7763e373, 0x682e6ff3d6b2b8a3,
    0x748f82ee5defb2fc, 0x78a5636f43172f60, 0x84c87814a1f0ab72, 0x8cc702081a6439ec,
    0x90befffa23631e28, 0xa4506cebde82bde9, 0xbef9a3f7b2c67915, 0xc67178f2e372532b,
    0xca273eceea26619c, 0xd186b8c721c0c207, 0xeada7dd6cde0eb1e, 0xf57d4f7fee6ed178,
    0x06f067aa72176fba, 0x0a637dc5a2c898a6, 0x113f9804bef90dae, 0x1b710b35131c471b,
    0x28db77f523047d84, 0x32caab7b40c72493, 0x3c9ebe0a15c9bebc, 0x431d67c49c100d4c,
    0x4cc5d4becb3e42b6, 0x597f299cfc657e2a, 0x5fcb6fab3ad6faec, 0x6c44198c4a475817
  ]

def Sha2.sha256 : Sha2 UInt32 where
  constants := constants32
  initial := ⟨
    0x6a09e667, 0xbb67ae85, 0x3c6ef372, 0xa54ff53a,
    0x510e527f, 0x9b05688c, 0x1f83d9ab, 0x5be0cd19⟩
  bigSigma0 := (2, 13, 22)
  bigSigma1 := (6, 11, 25)
  smallSigma0 := (7, 18, 3)
  smallSigma1 := (17, 19, 10)
  digestSize := 32

def Sha2.sha512 : Sha2 UInt64 where
  constants := constants64
  initial := ⟨
    0x6a09e667f3bcc908, 0xbb67ae8584caa73b, 0x3c6ef372fe94f82b, 0xa54ff53a5f1d36f1,
    0x510e527fade682d1, 0x9b05688c2b3e6c1f, 0x1f83d9abfb41bd6b, 0x5be0cd19137e2179⟩
  bigSigma0 := (28, 34, 39)
  bigSigma1 := (14, 18, 41)
  smallSigma0 := (1, 8, 7)
  smallSigma1 := (19, 61, 6)
  digestSize := 64

/-- The 512-bit member from another start, with the digest cut to 48 bytes. -/
def Sha2.sha384 : Sha2 UInt64 :=
  { Sha2.sha512 with
    initial := ⟨
    0xcbbb9d5dc1059ed8, 0x629a292a367cd507, 0x9159015a3070dd17, 0x152fecd8f70e5939,
    0x67332667ffc00b31, 0x8eb44a8768581511, 0xdb0c2e0d64f98fa7, 0x47b5481dbefa4fa4⟩
    digestSize := 48 }

end DerivationPool

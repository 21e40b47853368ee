import DerivationPool.Bytes
import DerivationPool.Hash.Hkdf
import DerivationPool.Transport.Certificate
import DerivationPool.Transport.Pem

/-!
Private keys and the public keys that belong to them. On the curves that certificates are signed
with, P-256, P-384 and the Edwards form of curve 25519, a secret number has a public point.
Coordinates are natural numbers below the modulus of the field.
-/
namespace DerivationPool

def powMod (modulus base exponent : Nat) : Nat :=
  if exponent = 0 then 1 % modulus
  else
    let rest := powMod modulus (base * base % modulus) (exponent / 2)
    if exponent % 2 = 1 then base * rest % modulus else rest
termination_by exponent

def invMod (prime n : Nat) : Nat := powMod prime (n % prime) (prime - 2)

def multiple {α : Type} (add : α → α → α) (zero : α) (n : Nat) (a : α) : α :=
  if n = 0 then zero
  else
    let rest := multiple add zero (n / 2) (add a a)
    if n % 2 = 1 then add a rest else rest
termination_by n

/-- A curve `y ^ 2 = x ^ 3 - 3 * x + b` with a base point. The sum of points does not depend on `b`.
-/
structure Curve where
  modulus : Nat
  /-- The multiple of the base point that is zero. -/
  order : Nat
  baseX : Nat
  baseY : Nat
  /-- The bytes of a coordinate. -/
  size : Nat
  /-- The registered name. -/
  identifier : Bytes

namespace Curve

def p256 : Curve where
  modulus := 0xffffffff00000001000000000000000000000000ffffffffffffffffffffffff
  order := 0xffffffff00000000ffffffffffffffffbce6faada7179e84f3b9cac2fc632551
  baseX := 0x6b17d1f2e12c4247f8bce6e563a440f277037d812deb33a0f4a13945d898c296
  baseY := 0x4fe342e2fe1a7f9b8ee7eb4a7c0f9e162bce33576b315ececbb6406837bf51f5
  size := 32
  identifier := [0x2a, 0x86, 0x48, 0xce, 0x3d, 0x03, 0x01, 0x07]

def p384 : Curve where
  modulus := 1 <<< 384 - 1 <<< 128 - 1 <<< 96 + 1 <<< 32 - 1
  order := 1 <<< 384 - 0x389cb27e0bc8d220a7e5f24db74f58851313e695333ad68d
  baseX := 0xaa87ca22be8b05378eb1c71ef320ad746e1d3b628ba79b98 <<< 192 +
    0x59f741e082542a385502f25dbf55296c3a545e3872760ab7
  baseY := 0x3617de4a96262c6f5d9e98bf9292dc29f8f41dbd289a147c <<< 192 +
    0xe9da3113b5f0b8c00a60b1ce1d7e819d7a431d7c90ea0e5f
  size := 48
  identifier := [0x2b, 0x81, 0x04, 0x00, 0x22]

abbrev Point := Option (Nat × Nat)

def add (c : Curve) : Point → Point → Point
  | none, q => q
  | p, none => p
  | some (x₁, y₁), some (x₂, y₂) =>
    let m := c.modulus
    if x₁ = x₂ ∧ (y₁ + y₂) % m = 0 then none
    else
      let slope :=
        if x₁ = x₂ then (3 * x₁ * x₁ + (m - 3)) * invMod m (2 * y₁) % m
        else (y₂ + (m - y₁)) * invMod m (x₂ + (m - x₁)) % m
      let x := (slope * slope + (m - x₁) + (m - x₂)) % m
      some (x, (slope * (x₁ + (m - x)) + (m - y₁)) % m)

def publicBytes (c : Curve) (secret : Nat) : Bytes :=
  match multiple c.add none secret (some (c.baseX, c.baseY)) with
  | some (x, y) => 4 :: Bytes.ofNat c.size x ++ Bytes.ofNat c.size y
  | none => [0]

end Curve

namespace Edwards25519

def modulus : Nat := 1 <<< 255 - 19

/-- The coefficient of the curve `y ^ 2 - x ^ 2 = 1 + d * x ^ 2 * y ^ 2`. -/
def d : Nat := (modulus - 121665) * invMod modulus 121666 % modulus

def base : Nat × Nat :=
  (0x216936d3cd6e53fec0a4e231fdd6dc5c692cc7609525a7b2c9562d608f25d51a,
    0x6666666666666666666666666666666666666666666666666666666666666658)

def add (p q : Nat × Nat) : Nat × Nat :=
  let cross := d * (p.1 * q.1 % modulus) % modulus * (p.2 * q.2 % modulus) % modulus
  ((p.1 * q.2 + q.1 * p.2) * invMod modulus (1 + cross) % modulus,
    (p.2 * q.2 + p.1 * q.1) * invMod modulus (1 + modulus - cross) % modulus)

/-- The number that a seed stands for: between 2 ^ 254 and 2 ^ 255, and a multiple of eight. -/
def secretOf (seed : Bytes) : Nat :=
  let n := Bytes.toNat ((HashFunction.sha512.digest seed).take 32).reverse
  1 <<< 254 + n % (1 <<< 254) / 8 * 8

/-- The point of a seed: the second coordinate, last byte first, with the parity of the first one.
-/
def publicBytes (seed : Bytes) : Bytes :=
  let (x, y) := multiple add (0, 1) (secretOf seed) base
  (Bytes.ofNat 32 (y + (x % 2) <<< 255)).reverse

end Edwards25519

end DerivationPool

/-!
Private keys as files hold them: by themselves, or wrapped together with the name of their
algorithm. A key is accepted if its parts fit together, and what is read of it is the public
key that belongs to it, as a certificate states it.
-/
namespace DerivationPool.PrivateKey

abbrev Algorithm := Bytes

def rsaAlgorithm : Algorithm :=
  Der.element .identifier [0x2a, 0x86, 0x48, 0x86, 0xf7, 0x0d, 0x01, 0x01, 0x01] ++
    Der.element .null []

def curveAlgorithm (c : Curve) : Algorithm :=
  Der.element .identifier [0x2a, 0x86, 0x48, 0xce, 0x3d, 0x02, 0x01] ++
    Der.element .identifier c.identifier

def edwardsAlgorithm : Algorithm := Der.element .identifier [0x2b, 0x65, 0x70]

/-- What a certificate states of a public key: its algorithm and its bits. -/
def publicInfo (algorithm : Algorithm) (key : Bytes) : Bytes :=
  Der.element .sequence algorithm ++ Der.element .bitString (0 :: key)

/-- A wrapped key of an algorithm, and the public key with it, which the second version has. -/
def unwrap (algorithm : Algorithm) (newest : Nat) : Der.Read (Bytes × Option Bytes) :=
  Der.inside .sequence do
    let version ← Der.smallNumber
    if newest < version then failure
    if (← Der.content .sequence) ≠ algorithm then failure
    let key ← Der.content .octetString
    if ← Der.isNext (.labelled 0) then
      let _ ← Der.content (.labelled 0)
    if version = 0 then return (key, none)
    else if ← Der.isNext (.labelled 1) then
      return (key, some (← Der.inside (.labelled 1) (Der.wholeBits .bitString)))
    else return (key, some (← Der.wholeBits (.replaced 1)))

structure Rsa where
  modulus : Nat
  publicExponent : Nat
  privateExponent : Nat
  p : Nat
  q : Nat
  exponentP : Nat
  exponentQ : Nat
  coefficient : Nat

namespace Rsa

def bits (n : Nat) : Nat := if n = 0 then 0 else n.log2 + 1

def isStrong (k : Rsa) : Bool :=
  2041 ≤ bits k.modulus && bits k.modulus ≤ 4096 &&
    65537 ≤ k.publicExponent && k.publicExponent < 1 <<< 33 && k.publicExponent % 2 = 1

/-- The bits of a factor are a multiple of this. -/
def factorUnit : Nat := 512

def isConsistent (k : Rsa) : Bool :=
  let half := (bits k.modulus + 1) / 2
  half % factorUnit = 0 && bits k.p = half && bits k.q = half && k.p % 2 = 1 && k.q % 2 = 1 &&
    k.p * k.q % k.modulus = 0 && half < bits k.privateExponent && k.privateExponent < k.modulus &&
    k.privateExponent % 2 = 1 && k.exponentP < k.p && k.exponentP % 2 = 1 &&
    k.exponentQ < k.q && k.exponentQ % 2 = 1 && k.coefficient < k.p &&
    k.coefficient * k.q % k.p = 1

def read : Der.Read Rsa :=
  Der.inside .sequence do
    if (← Der.smallNumber) ≠ 0 then failure
    return ⟨← Der.number, ← Der.number, ← Der.number, ← Der.number, ← Der.number,
      ← Der.number, ← Der.number, ← Der.number⟩

def publicBytes (k : Rsa) : Bytes :=
  Der.element .sequence (Der.positive k.modulus ++ Der.positive k.publicExponent)

end Rsa

/-- What belongs to an RSA key by itself. -/
def rsaInfo? (key : Bytes) : Option Bytes := do
  let k ← Der.whole Rsa.read key
  if k.isStrong && k.isConsistent then some (publicInfo rsaAlgorithm k.publicBytes) else none

/-- The secret number of a key for a curve, and the public point, which has to be with it. -/
def readCurveKey (c : Curve) : Der.Read (Bytes × Bytes) :=
  Der.inside .sequence do
    if (← Der.smallNumber) ≠ 1 then failure
    let secret ← Der.content .octetString
    if ← Der.isNext (.labelled 0) then
      if (← Der.content (.labelled 0)) ≠ Der.element .identifier c.identifier then failure
    return (secret, ← Der.inside (.labelled 1) (Der.wholeBits .bitString))

def curveInfo? (c : Curve) (key : Bytes) : Option Bytes := do
  let (secret, point) ← Der.whole (readCurveKey c) key
  let n := Bytes.toNat secret
  if secret.length = c.size ∧ 0 < n ∧ n < c.order ∧ c.publicBytes n = point then
    some (publicInfo (curveAlgorithm c) point)
  else none

def edwardsInfo? (key : Bytes) (shown : Option Bytes) : Option Bytes := do
  let seed ← Der.whole (Der.content .octetString) key
  if seed.length ≠ 32 then none
  let point := Edwards25519.publicBytes seed
  if shown.all (· = point) then some (publicInfo edwardsAlgorithm point) else none

def wrappedInfo? (key : Bytes) : Option Bytes :=
  let inner (algorithm : Algorithm) := (Der.whole (unwrap algorithm 0) key).map Prod.fst
  ((inner rsaAlgorithm).bind rsaInfo?).or <|
  ((inner (curveAlgorithm .p256)).bind (curveInfo? .p256)).or <|
  ((inner (curveAlgorithm .p384)).bind (curveInfo? .p384)).or <|
  (Der.whole (unwrap edwardsAlgorithm 1) key).bind fun k => edwardsInfo? k.1 k.2

/-- What belongs to the key in a section, if it is one that can be used. -/
def publicInfo? (s : Pem.Section) : Option Bytes :=
  if s.label = Pem.rsaKeyLabel then rsaInfo? s.content
  else if s.label = Pem.curveKeyLabel then
    (curveInfo? .p256 s.content).or (curveInfo? .p384 s.content)
  else wrappedInfo? s.content

end DerivationPool.PrivateKey

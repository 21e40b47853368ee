import DerivationPool.Bytes

/-!
Certificates, and the distinguished encoding they are written in. An element has a tag, a length
in its shortest form, and a content of that length. Lengths from 2 ^ 16 on are refused, and so
is a reader that leaves something of a content.
-/
namespace DerivationPool.Der

inductive Tag where
  | boolean | integer | bitString | octetString | null | identifier | sequence
  /-- A tag that only says which of several optional elements the one inside it is. -/
  | labelled (n : Nat)
  /-- A tag that says so in place of the tag of the element. -/
  | replaced (n : Nat)
  deriving DecidableEq, Repr

def Tag.code : Tag → UInt8
  | boolean => 0x01
  | integer => 0x02
  | bitString => 0x03
  | octetString => 0x04
  | null => 0x05
  | identifier => 0x06
  | sequence => 0x30
  | labelled n => UInt8.ofNat (0xa0 + n)
  | replaced n => UInt8.ofNat (0x80 + n)

/-- The shortest form of a length below 2 ^ 16. -/
def encodeLength (n : Nat) : Bytes :=
  if n < 0x80 then [UInt8.ofNat n]
  else if n < 0x100 then 0x81 :: Bytes.ofNat 1 n
  else 0x82 :: Bytes.ofNat 2 n

def element (tag : Tag) (content : Bytes) : Bytes :=
  tag.code :: encodeLength content.length ++ content

/-- A positive number. The first bit of its content is its sign. -/
def positive (n : Nat) : Bytes := element .integer (Bytes.ofNat ((n.log2 + 1) / 8 + 1) n)

abbrev Read := StateT Bytes Option

def byte : Read UInt8
  | [] => none
  | b :: rest => some (b, rest)

def take (n : Nat) : Read Bytes := fun bytes =>
  if n ≤ bytes.length then some (bytes.take n, bytes.drop n) else none

def remaining : Read Bytes := fun bytes => some (bytes, [])

def length : Read Nat := do
  let first ← byte
  if first < 0x80 then return first.toNat
  else if first = 0x81 then
    let n := (← byte).toNat
    if 0x80 ≤ n then return n else failure
  else if first = 0x82 then
    let n := Bytes.toNat (← take 2)
    if 0x100 ≤ n then return n else failure
  else failure

def content (tag : Tag) : Read Bytes := do
  if (← byte) = tag.code then take (← length) else failure

def isNext (tag : Tag) : Read Bool := fun bytes => some (bytes.head? = some tag.code, bytes)

variable {α : Type}

def whole (read : Read α) (bytes : Bytes) : Option α :=
  match read bytes with
  | some (a, []) => some a
  | _ => none

def inside (tag : Tag) (read : Read α) : Read α := do
  let inner ← content tag
  StateT.lift (whole read inner)

/-- The magnitude of a number that is not negative, without a byte that only keeps it so. -/
def magnitude : Read Bytes := do
  match ← content .integer with
  | [] => failure
  | [b] => if b < 0x80 then return [b] else failure
  | b :: c :: rest =>
    if b = 0 then
      if 0x80 ≤ c then return c :: rest else failure
    else if b < 0x80 then return b :: c :: rest
    else failure

def number : Read Nat := Bytes.toNat <$> magnitude

def smallNumber : Read Nat := do
  match ← magnitude with
  | [b] => return b.toNat
  | _ => failure

/-- A bit string of whole bytes, with its own tag or another. -/
def wholeBits (tag : Tag) : Read Bytes :=
  inside tag do
    if (← byte) = 0 then remaining else failure

end DerivationPool.Der

/-!
What is read of a certificate before it is shown to anyone: that it is of the third version
and keeps to its encoding, that its extensions are known where they have to be, and the
public key it states. Its signature, its names and its dates are for those it is shown to.
-/
namespace DerivationPool.Certificate

inductive Fault where
  | malformed
  | version
  /-- The algorithm inside what is signed is not the one beside it. -/
  | algorithms
  | extensionRepeated
  /-- An extension that has to be understood is not known. -/
  | extensionUnknown
  deriving DecidableEq, Repr

def Fault.text : Fault → String
  | malformed => "BadEncoding"
  | version => "Other(OtherError(UnsupportedCertVersion))"
  | algorithms => "Other(OtherError(SignatureAlgorithmMismatch))"
  | extensionRepeated => "Other(OtherError(ExtensionValueInvalid))"
  | extensionUnknown => "Other(OtherError(UnsupportedCriticalExtension))"

abbrev Read := StateT Bytes (Except Fault)

variable {α : Type}

/-- Reads a part; a part that cannot be read is the fault. -/
def part (fault : Fault) (read : Der.Read α) : Read α := fun bytes =>
  match read bytes with
  | some result => .ok result
  | none => .error fault

/-- Reads the whole of a byte string; what is left over is the fault. -/
def whole (fault : Fault) (read : Read α) (bytes : Bytes) : Except Fault α := do
  let (a, rest) ← read bytes
  if rest.isEmpty then return a else throw fault

def flag : Der.Read Bool := do
  if ← Der.isNext .boolean then
    Der.inside .boolean do
      let b ← Der.byte
      if b = 0xff then return true
      else if b = 0 then return false
      else failure
  else return false

def standardExtension? : Bytes → Option UInt8
  | [0x55, 0x1d, n] => some n
  | _ => none

def keyUsage : UInt8 := 15

/-- The extensions that are known: the use of the key, alternative names, constraints on the
issuing of certificates and on names, where revocations are listed, and further uses. -/
def knownExtensions : List UInt8 := [keyUsage, 17, 19, 30, 31, 37]

def readExtension (seen : List UInt8) : Read (List UInt8) := do
  let identifier ← part .malformed (Der.content .identifier)
  let critical ← part .malformed flag
  let value ← part .malformed (Der.content .octetString)
  match (standardExtension? identifier).filter (· ∈ knownExtensions) with
  | none => if critical then throw .extensionUnknown else return seen
  | some n =>
    if n ∈ seen then throw .extensionRepeated
    else if n ≠ keyUsage ∧ (Der.whole (Der.content .sequence) value).isNone then throw .malformed
    else return n :: seen

def readExtensions : Nat → List UInt8 → Read Unit
  | 0, _ => return ()
  | most + 1, seen => do
    if (← get).isEmpty then return ()
    let one ← part .malformed (Der.content .sequence)
    readExtensions most (← whole .malformed (readExtension seen) one)

/-- Reads what is signed, up to its end: the public key in it. -/
def readSigned (algorithm : Bytes) : Read Bytes := do
  let version ← part .version (Der.content (.labelled 0))
  if (← whole .version (part .malformed Der.smallNumber) version) ≠ 2 then throw .version
  let _ ← part .malformed (Der.content .integer)
  if (← part .malformed (Der.content .sequence)) ≠ algorithm then throw .algorithms
  let _ ← part .malformed (Der.content .sequence)
  let _ ← part .malformed (Der.content .sequence)
  let _ ← part .malformed (Der.content .sequence)
  let info ← part .malformed (Der.content .sequence)
  if !(← get).isEmpty then
    let labelled ← part .malformed (Der.content (.labelled 3))
    whole .malformed (do
      let extensions ← part .malformed (Der.content .sequence)
      whole .malformed (readExtensions extensions.length []) extensions) labelled
  return info

def sizeLimit : Nat := 65539

def publicInfo (certificate : Bytes) : Except Fault Bytes := do
  if sizeLimit ≤ certificate.length then throw .malformed
  let parts := Der.inside .sequence do
    let signed ← Der.content .sequence
    let algorithm ← Der.content .sequence
    let _ ← Der.wholeBits .bitString
    return (signed, algorithm)
  match Der.whole parts certificate with
  | none => throw .malformed
  | some (signed, algorithm) => whole .malformed (readSigned algorithm) signed

end DerivationPool.Certificate

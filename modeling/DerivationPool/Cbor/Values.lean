import DerivationPool.Cbor.Reader
import DerivationPool.Text.Utf8

/-!
Reading values. Byte strings and texts come whole or in segments. A string whose end is left
open is a row of segments of its own kind up to a stop, and a segment may be such a row again.
Every segment of a text has to be UTF-8 by itself; one that is not is reported at its head.
-/
namespace DerivationPool.Cbor

variable {α : Type}

def Head.bytes? : Head → Option (Option Nat)
  | bytes length => some length
  | _ => none

def Head.text? : Head → Option (Option Nat)
  | text length => some length
  | _ => none

/-- Folds the segments up to the stop of an open string. The state counts the open segments. -/
@[specialize] def openSegments (kind : Head → Option (Option Nat))
    (segment : Nat → Nat → α → Read α) : Nat × α → Read α :=
  iterate fun (depth, a) => do
    let next ← token
    match next.head, kind next.head with
    | .stop, _ => return if depth = 0 then .done a else .again (depth - 1, a)
    | _, some none => return .again (depth + 1, a)
    | _, some (some n) => return .again (depth, ← segment next.start n a)
    | _, none => throw (.malformed next.start)

/-- Folds the segments of a string, each with the offset of its head and its length. -/
@[specialize] def segments (kind : Head → Option (Option Nat)) (segment : Nat → Nat → α → Read α)
    (length : Option Nat) (a : α) : Read α :=
  match length with
  | some n => do segment ((← offset) - headSize n) n a
  | none => openSegments kind segment (0, a)

def byteString (length : Option Nat) : Read Bytes :=
  (fun parts => parts.reverse.flatten) <$>
    segments Head.bytes? (fun _ n parts => (· :: parts) <$> take n) length []

/-- `n` bytes that have to be UTF-8. Where the input stops inside them, damage that is already
certain comes first. -/
def textSegment (start n : Nat) : Read String := fun r =>
  match r.take? n with
  | some (bytes, next) =>
    match Text.decode? bytes with
    | some text => .ok (text, next)
    | none => .error (.malformed start)
  | none => .error (if Text.damagedEarly r.rest then .malformed start else .endOfInput)

def textString (length : Option Nat) : Read String :=
  (fun parts => String.join parts.reverse) <$>
    segments Head.text? (fun start n parts => (· :: parts) <$> textSegment start n) length []

def shortSize : Nat := 4096

/-- `n` bytes of a short text: the input has to hold all of them before they are judged. -/
def shortText (start n : Nat) : Read Bytes := do
  let bytes ← take n
  if (Text.decode? bytes).isSome then return bytes else throw (.malformed start)

/-- A name, as the bytes of a short text or of a short byte string; tags before it are skipped. -/
def shortName (first : Token) : Read Bytes := do
  let first ← untagged first
  match first.head with
  | .text (some n) =>
    if n ≤ shortSize then shortText first.start n else throw (.unexpected first.head .name)
  | .bytes (some n) =>
    if n ≤ shortSize then take n else throw (.unexpected first.head .name)
  | head => throw (.unexpected head .name)

/-!
Integers: a head alone, or a magnitude in a byte string behind tag 2 or 3. A
magnitude has at most sixteen bytes that count, and it is taken in blocks of as
many, so that a magnitude known to be too large is refused even where the input
stops inside it.
-/

/-- The bytes that count in a magnitude, and the size of the blocks it is taken in. -/
def magnitudeSize : Nat := 16

/-- Appends bytes to a magnitude, if no more of them count than may. -/
def extendMagnitude (digits bytes : Bytes) : Except Error Bytes :=
  let digits := (digits ++ bytes).dropWhile (· = 0)
  if digits.length ≤ magnitudeSize then .ok digits else .error .magnitudeTooLarge

def magnitudeSegment (n : Nat) (digits : Bytes) : Read Bytes := fun r =>
  match r.take? n with
  | some (bytes, next) => (extendMagnitude digits bytes).map (·, next)
  | none => do
    let _ ← extendMagnitude digits (r.rest.take (r.left / magnitudeSize * magnitudeSize))
    throw .endOfInput

def magnitude (length : Option Nat) : Read Nat :=
  Bytes.toNat <$> segments Head.bytes? (fun _ => magnitudeSegment) length []

/-- The tags that make a byte string a magnitude. -/
def isMagnitudeTag (n : Nat) : Bool := n = 2 || n = 3

def ofMagnitude (tag n : Nat) : Int := if tag = 2 then n else -1 - (n : Int)

def integer (first : Token) : Read Int := do
  let first ← dropTags isMagnitudeTag first
  match first.head with
  | .unsigned n => return n
  | .negative n => return -1 - (n : Int)
  | .tag tag =>
    let next ← token
    match next.head with
    | .bytes length => ofMagnitude tag <$> magnitude length
    | head => throw (.unexpected head .byteString)
  | head => throw (.unexpected head .integer)

/-- An integer from zero to `2 ^ 64 - 1`. -/
def word64 (first : Token) : Read Nat := do
  let i ← integer first
  if i < 0 then throw .negativeInteger
  else if 1 <<< 64 ≤ i.toNat then throw .integerTooLarge
  else return i.toNat

def word32 (first : Token) : Read UInt32 := do
  let n ← word64 first
  if n < 1 <<< 32 then return UInt32.ofNat n else throw (.outOfRange n .word32)

def word8 (first : Token) : Read UInt8 := do
  let n ← word64 first
  if n < 256 then return UInt8.ofNat n else throw (.outOfRange n .byte)

/-!
Passing over an item whose value does not matter. The item has to be well-formed
all the same, and the containers and tags in it may be nested only so deep.
-/

/-- How many containers may be open at a time. -/
def nesting : Nat := 256

/-- Passes over a text; a short one is judged only when the input holds all of it. -/
def skipText (length : Option Nat) : Read Unit := do
  match length with
  | some n =>
    if n ≤ shortSize then discard (shortText ((← offset) - headSize n) n)
    else discard (textString length)
  | none => discard (textString length)

/-- The largest magnitude of a negative integer that is passed over. -/
def negativeLimit : Nat := 1 <<< 127

def skipMagnitude (tag n : Nat) : Read Unit := do
  let magnitude ← magnitude (some n)
  if tag = 3 ∧ negativeLimit ≤ magnitude then throw .integerTooLarge

/-- Passes over an item, given how to pass over what is inside it, if that may be nested there. What
a tag stands before is looked at first, and then it is asked whether the tag may be nested. -/
@[specialize] def skipWith (inside : Option (Token → Read Unit)) (first : Token) : Read Unit :=
  let deeper (pass : (Token → Read Unit) → Read Unit) : Read Unit :=
    match inside with
    | some skip => pass skip
    | none => throw .tooDeep
  match first.head with
  | .unsigned _ | .negative _ | .float _ => return ()
  | .bytes length => discard (byteString length)
  | .text length => skipText length
  | .array count => deeper fun skip => entries count (fun item _ => skip item) ()
  | .map count => deeper fun skip =>
    entries count (fun key _ => do
      skip key
      skip (← token)) ()
  | .tag tag => do
    let next ← token
    match next.head with
    | .bytes (some n) =>
      if isMagnitudeTag tag ∧ n ≤ magnitudeSize then skipMagnitude tag n
      else deeper fun skip => skip next
    | _ => deeper fun skip => skip next
  | .simple n => if 20 ≤ n ∧ n ≤ 23 then return () else throw (.unexpected first.head .knownSimple)
  | .stop => throw (.unexpected first.head .item)

/-- Passes over an item in which `depth` containers may be open at a time. -/
def skip : Nat → Token → Read Unit
  | 0 => skipWith none
  | depth + 1 => skipWith (some (skip depth))

end DerivationPool.Cbor

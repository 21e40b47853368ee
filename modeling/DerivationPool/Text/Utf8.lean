import DerivationPool.Bytes

/-!
Text as UTF-8. Whole byte strings are judged by the core library's decoder. This
module adds what a reader of damaged input needs: the length of the well-formed
part at the front, the text with every damaged part replaced, and the verdict on
input that stops inside a text and is judged piece by piece.
-/
namespace DerivationPool.Text

def encode (text : String) : Bytes := text.toUTF8.data.toList

def decode? (bytes : Bytes) : Option String := String.fromUTF8? ⟨bytes.toArray⟩

/-- One step of a decoder: a whole character of so many bytes, or so many bytes to give up. -/
inductive Utf8Step where
  | character (size : Nat)
  | damage (size : Nat)

def secondBounds (first : UInt8) : UInt8 × UInt8 :=
  if first = 0xe0 then (0xa0, 0xbf)
  else if first = 0xed then (0x80, 0x9f)
  else if first = 0xf0 then (0x90, 0xbf)
  else if first = 0xf4 then (0x80, 0x8f)
  else (0x80, 0xbf)

def continuations : Nat → Bytes → Nat
  | n + 1, b :: rest => if 0x80 ≤ b ∧ b ≤ 0xbf then continuations n rest + 1 else 0
  | _, _ => 0

/-- The number of bytes that the first byte of a character announces, zero if it announces none. -/
def announced (first : UInt8) : Nat :=
  if first < 0x80 then 1
  else if 0xc2 ≤ first ∧ first ≤ 0xdf then 2
  else if 0xe0 ≤ first ∧ first ≤ 0xef then 3
  else if 0xf0 ≤ first ∧ first ≤ 0xf4 then 4
  else 0

/-- Judges the front of a byte string that begins with `first`; damage never swallows a byte that
could begin a character. -/
def utf8Step (first : UInt8) (rest : Bytes) : Utf8Step :=
  match announced first, rest with
  | 0, _ => .damage 1
  | 1, _ => .character 1
  | _ + 2, [] => .damage 1
  | n + 2, second :: rest =>
    let bounds := secondBounds first
    if bounds.1 ≤ second ∧ second ≤ bounds.2 then
      let more := continuations n rest
      if more = n then .character (n + 2) else .damage (more + 2)
    else .damage 1

/-- The bytes of the longest prefix that is UTF-8; `fuel` bounds the characters in it. -/
def validLengthWithin : Nat → Bytes → Nat
  | fuel + 1, first :: rest =>
    match utf8Step first rest with
    | .character size => size + validLengthWithin fuel (rest.drop (size - 1))
    | .damage _ => 0
  | _, _ => 0

def validLength (bytes : Bytes) : Nat := validLengthWithin bytes.length bytes

def repairWithin : Nat → Bytes → Bytes
  | fuel + 1, first :: rest =>
    match utf8Step first rest with
    | .character size => first :: rest.take (size - 1) ++ repairWithin fuel (rest.drop (size - 1))
    | .damage size => 0xef :: 0xbf :: 0xbd :: repairWithin fuel (rest.drop (size - 1))
  | _, _ => []

/-- The text of any byte string, with U+FFFD for each part that is not UTF-8. -/
def decodeLossy (bytes : Bytes) : String :=
  (decode? (repairWithin bytes.length bytes)).getD ""

/-- The bytes a text is read in pieces of, those carried over included. -/
def pieceSize : Nat := 4096

/-- Whether damage shows before the input stops: some whole piece has more than three bytes from its
first damage on. Up to three are carried into the next piece, as they may be half a character. -/
def damagedWithin : Nat → Bytes → Bytes → Bool
  | fuel + 1, carried, rest =>
    let fresh := pieceSize - carried.length
    let piece := carried ++ rest.take fresh
    if piece.length < pieceSize then false
    else
      let carried := piece.drop (validLength piece)
      if 3 < carried.length then true else damagedWithin fuel carried (rest.drop fresh)
  | 0, _, _ => false

def damagedEarly (bytes : Bytes) : Bool := damagedWithin bytes.length [] bytes

end DerivationPool.Text

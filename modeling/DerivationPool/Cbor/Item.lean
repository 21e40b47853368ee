import DerivationPool.Bytes
import DerivationPool.Decimal
import DerivationPool.Text.Utf8

/-!
CBOR items and the heads that say what an item is and how much of it follows. A head is
written in its shortest form; `headSize` is the length of that form.
-/
namespace DerivationPool.Cbor

/-- The front of an item. A length or count of `none` leaves the end open until a stop. -/
inductive Head where
  | unsigned (n : Nat)
  /-- The integer `-1 - n`. -/
  | negative (n : Nat)
  | bytes (length : Option Nat)
  | text (length : Option Nat)
  | array (count : Option Nat)
  | map (count : Option Nat)
  | tag (n : Nat)
  | simple (n : Nat)
  | float (x : BinaryFloat)
  | stop
  deriving DecidableEq, Repr

/-- The width of the number after the first byte of a shortest head. -/
def argumentSize (n : Nat) : Nat :=
  if n < 24 then 0
  else if n < 256 then 1
  else if n < 65536 then 2
  else if n < 1 <<< 32 then 4
  else 8

/-- The length of the shortest head that carries a number. -/
def headSize (n : Nat) : Nat := 1 + argumentSize n

/-- The low five bits of the first byte of a shortest head. -/
def minorOf (n : Nat) : Nat :=
  if n < 24 then n
  else if n < 256 then 24
  else if n < 65536 then 25
  else if n < 1 <<< 32 then 26
  else 27

/-- The shortest head of a major type that carries a number below `2 ^ 64`. -/
def encodeHead (major n : Nat) : Bytes :=
  UInt8.ofNat (32 * major + minorOf n) :: Bytes.ofNat (argumentSize n) n

@[simp] theorem length_encodeHead (major n : Nat) : (encodeHead major n).length = headSize n := by
  simp [encodeHead, headSize, Nat.add_comm]

theorem headSize_pos (n : Nat) : 0 < headSize n := by
  unfold headSize
  omega

theorem headSize_le (n : Nat) : headSize n ≤ 9 := by
  grind [headSize, argumentSize]

/-- The head of a major type other than the last and its argument, if the two go together: only
strings and containers may leave their end open. -/
def Head.ofArgument? (major : Nat) (argument : Option Nat) : Option Head :=
  match major, argument with
  | 0, some n => some (.unsigned n)
  | 1, some n => some (.negative n)
  | 2, length => some (.bytes length)
  | 3, length => some (.text length)
  | 4, count => some (.array count)
  | 5, count => some (.map count)
  | 6, some n => some (.tag n)
  | _, _ => none

/-!
Items as trees, and their one written form: shortest heads, definite lengths,
entries in the order given.
-/

inductive FloatBits where
  | half (bits : UInt16)
  | single (bits : UInt32)
  | double (bits : UInt64)
  deriving DecidableEq, Repr

def FloatBits.encode : FloatBits → Bytes
  | half bits => 0xf9 :: Bytes.ofNat 2 bits.toNat
  | single bits => 0xfa :: Bytes.ofNat 4 bits.toNat
  | double bits => 0xfb :: Bytes.ofNat 8 bits.toNat

inductive Item where
  | unsigned (n : Nat)
  /-- The integer `-1 - n`. -/
  | negative (n : Nat)
  | bytes (bytes : Bytes)
  | text (text : String)
  | array (items : List Item)
  | map (entries : List (Item × Item))
  | bool (value : Bool)
  | null
  | float (bits : FloatBits)

mutual

def Item.encode : Item → Bytes
  | .unsigned n => encodeHead 0 n
  | .negative n => encodeHead 1 n
  | .bytes bytes => encodeHead 2 bytes.length ++ bytes
  | .text text =>
    let bytes := Text.encode text
    encodeHead 3 bytes.length ++ bytes
  | .array items => encodeHead 4 items.length ++ encodeItems items
  | .map entries => encodeHead 5 entries.length ++ encodeEntries entries
  | .bool value => [if value then 0xf5 else 0xf4]
  | .null => [0xf6]
  | .float bits => bits.encode

def encodeItems : List Item → Bytes
  | [] => []
  | item :: items => item.encode ++ encodeItems items

def encodeEntries : List (Item × Item) → Bytes
  | [] => []
  | (key, value) :: entries => key.encode ++ value.encode ++ encodeEntries entries

end

end DerivationPool.Cbor

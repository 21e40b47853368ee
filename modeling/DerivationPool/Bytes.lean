/-!
Byte strings, their big-endian reading as natural numbers, and their
hexadecimal text. Nothing is assumed of a byte string but that it is finite.
-/
namespace DerivationPool

/-- A byte string, first byte first. -/
abbrev Bytes := List UInt8

namespace Bytes

/-- The length of the longest buffer. Lengths up to it are taken to be there for the asking. -/
def maxLength : Nat := 1 <<< 63 - 1

/-- The `width` low-order bytes of a number, most significant first. -/
def ofNat : Nat → Nat → Bytes
  | 0, _ => []
  | width + 1, n => ofNat width (n / 256) ++ [UInt8.ofNat n]

/-- The number whose big-endian digits are the bytes. -/
def toNat (bytes : Bytes) : Nat :=
  bytes.foldl (fun n b => n * 256 + b.toNat) 0

@[simp] theorem ofNat_zero (n : Nat) : ofNat 0 n = [] := rfl

@[simp] theorem length_ofNat (width n : Nat) : (ofNat width n).length = width := by
  induction width generalizing n with
  | zero => rfl
  | succ width ih => simp [ofNat, ih]

@[simp] theorem toNat_nil : toNat [] = 0 := rfl

@[simp] theorem toNat_concat (bytes : Bytes) (b : UInt8) :
    toNat (bytes ++ [b]) = toNat bytes * 256 + b.toNat := by
  simp [toNat]

/-- Writing a number and reading it back keeps what the width can hold. -/
theorem toNat_ofNat (width n : Nat) : toNat (ofNat width n) = n % Nat.pow 256 width := by
  induction width generalizing n with
  | zero => simp [Nat.mod_one]
  | succ width ih =>
    have grow : Nat.pow 256 (width + 1) = 256 * Nat.pow 256 width := Nat.mul_comm _ _
    rw [ofNat, toNat_concat, ih, UInt8.toNat_ofNat', grow, Nat.mod_mul]
    omega

def times (count : Nat) (bytes : Bytes) : Bytes :=
  (List.replicate count bytes).flatten

def hexDigit (n : Nat) : Char :=
  if n < 10 then Char.ofNat (48 + n) else Char.ofNat (87 + n)

def hexChars (bytes : Bytes) : List Char :=
  bytes.flatMap fun b => [hexDigit (b.toNat / 16), hexDigit (b.toNat % 16)]

def toHex (bytes : Bytes) : String := String.ofList (hexChars bytes)

def hexValue? (c : Char) : Option Nat :=
  if 48 ≤ c.toNat ∧ c.toNat ≤ 57 then some (c.toNat - 48)
  else if 97 ≤ c.toNat ∧ c.toNat ≤ 102 then some (c.toNat - 87)
  else if 65 ≤ c.toNat ∧ c.toNat ≤ 70 then some (c.toNat - 55)
  else none

/-- Reads digit pairs of either case; an odd digit or any other character is refused. -/
def ofHexChars? : List Char → Option Bytes
  | [] => some []
  | [_] => none
  | a :: b :: rest => do
    let high ← hexValue? a
    let low ← hexValue? b
    let bytes ← ofHexChars? rest
    return UInt8.ofNat (16 * high + low) :: bytes

def ofHex? (text : String) : Option Bytes := ofHexChars? text.toList

end Bytes

end DerivationPool

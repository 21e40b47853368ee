/-!
Numbers as text: the exact value and the shortest decimal of a binary floating-point number,
counts and real numbers in decimal notation, and spans of time in the largest unit that fits.
Binary floating point is a sign, a mantissa and a power of two, or one of the three values that
are not numbers; the three interchange widths are read into one form, the mantissa as long as
the widest of them allows.
-/
namespace DerivationPool

inductive BinaryFloat where
  | finite (negative : Bool) (mantissa : Nat) (exponent : Int)
  | infinite (negative : Bool)
  | nan
  deriving DecidableEq, Repr

namespace BinaryFloat

def minExponent : Int := -1074

def precision : Nat := 53

/-- Doubles a mantissa until it is full or its exponent is least; `fuel` bounds the doublings. -/
def widen : Nat → Nat → Int → Nat × Int
  | 0, m, e => (m, e)
  | fuel + 1, m, e =>
    if m < 1 <<< (precision - 1) ∧ minExponent < e then widen fuel (2 * m) (e - 1) else (m, e)

def ofBits (exponentSize fractionSize bits : Nat) : BinaryFloat :=
  let fraction := bits % (1 <<< fractionSize)
  let field := (bits >>> fractionSize) % (1 <<< exponentSize)
  let negative := (bits >>> (fractionSize + exponentSize)) % 2 = 1
  let bias : Nat := 1 <<< (exponentSize - 1) - 1
  if field = 1 <<< exponentSize - 1 then
    if fraction = 0 then .infinite negative else .nan
  else
    let m := if field = 0 then fraction else (1 <<< fractionSize) + fraction
    let e := (if field = 0 then 1 else (field : Int)) - bias - fractionSize
    if m = 0 then .finite negative 0 0
    else
      let (m, e) := widen precision m e
      .finite negative m e

def ofHalf : Nat → BinaryFloat := ofBits 5 10

def ofSingle : Nat → BinaryFloat := ofBits 8 23

def ofDouble : Nat → BinaryFloat := ofBits 11 52

end BinaryFloat

end DerivationPool

/-!
The shortest decimal that reads back as a binary number: of the grids of one,
two, up to seventeen digits, the first that has a point among the reals that
round to the number, and of its points the nearest. Distances are compared in
natural numbers, scaled so that nothing is rounded.
-/
namespace DerivationPool.BinaryFloat

structure Decimal where
  digits : Nat
  exponent : Int
  deriving DecidableEq, Repr

/-- A number and its neighbourhood in a common scale in which a grid step is `unit`. -/
structure Scaled where
  value : Nat
  unit : Nat
  below : Nat
  above : Nat
  /-- Whether the ends of the neighbourhood round to the number: they do if its mantissa is even. -/
  closed : Bool

/-- The number `m * 2 ^ e` on the grid of multiples of `10 ^ k`. -/
def scale (m : Nat) (e k : Int) : Scaled :=
  let factor := Nat.pow 10 (-k).toNat <<< e.toNat
  let full := m = 1 <<< (precision - 1) ∧ minExponent < e
  ⟨4 * m * factor, 4 * (Nat.pow 10 k.toNat <<< (-e).toNat), if full then factor else 2 * factor,
    2 * factor, m % 2 = 0⟩

/-- Whether the grid point `d` rounds to the number. -/
def Scaled.reads (s : Scaled) (d : Nat) : Bool :=
  if s.closed then s.value ≤ d * s.unit + s.below && d * s.unit ≤ s.value + s.above
  else s.value < d * s.unit + s.below && d * s.unit < s.value + s.above

/-- The nearest grid point that rounds to the number, if either neighbour does; a tie goes to the
upper one. -/
def Scaled.nearest? (s : Scaled) : Option Nat :=
  let low := s.value / s.unit
  match s.reads low, s.reads (low + 1) with
  | true, true =>
    let left := s.value - low * s.unit
    let right := (low + 1) * s.unit - s.value
    some (if left < right then low else low + 1)
  | true, false => some low
  | false, true => some (low + 1)
  | false, false => none

/-- The largest exponent up to `k` whose power of ten is at most the number; `fuel` bounds the
search. -/
def leadingExponent (m : Nat) (e : Int) : Nat → Int → Int
  | 0, k => k
  | fuel + 1, k =>
    let s := scale m e k
    if s.unit ≤ s.value then k else leadingExponent m e fuel (k - 1)

def search (m : Nat) (e lead : Int) : Nat → Int → Decimal
  | 0, n => ⟨(scale m e (lead - n + 1)).value, lead - n + 1⟩
  | count + 1, n =>
    let k := lead - n + 1
    match (scale m e k).nearest? with
    | some d => ⟨d, k⟩
    | none => search m e lead count (n + 1)

/-- Moves up to `fuel` trailing zeros of the digits into the exponent. -/
def Decimal.reduce (d : Decimal) : Nat → Decimal
  | 0 => d
  | fuel + 1 =>
    if d.digits ≠ 0 ∧ d.digits % 10 = 0 then Decimal.reduce ⟨d.digits / 10, d.exponent + 1⟩ fuel
    else d

/-- The shortest decimal for a positive number. -/
def shortest (m : Nat) (e : Int) : Decimal :=
  (search m e (leadingExponent m e 700 309) 17 1).reduce 17

def Decimal.positional (d : Decimal) : String :=
  let digits := Nat.toDigits 10 d.digits
  if 0 ≤ d.exponent then
    String.ofList (digits ++ List.replicate d.exponent.toNat '0' ++ ['.', '0'])
  else
    let places := (-d.exponent).toNat
    let padded := List.replicate (places + 1 - digits.length) '0' ++ digits
    let whole := padded.length - places
    String.ofList (padded.take whole ++ '.' :: padded.drop whole)

/-- The text of a value: never an exponent, always a point. -/
def text : BinaryFloat → String
  | .finite negative m e =>
    let sign := if negative then "-" else ""
    sign ++ if m = 0 then "0.0" else (shortest m e).positional
  | .infinite negative => if negative then "-inf" else "inf"
  | .nan => "NaN"

end DerivationPool.BinaryFloat

/-!
Counts in decimal notation, as a person writes them for a program: digits behind
at most one plus sign, for a number below 2 ^ 64. The text is read from its front,
and the first fault is the one reported.
-/
namespace DerivationPool.Decimal

inductive CountFault where
  | empty | notDigit | tooLarge
  deriving DecidableEq, Repr

def CountFault.reason : CountFault → String
  | empty => "cannot parse integer from empty string"
  | notDigit => "invalid digit found in string"
  | tooLarge => "number too large to fit in target type"

def countBound : Nat := 1 <<< 64

/-- Reads digits behind the ones that `value` stands for. -/
def digitsFrom (value : Nat) : List Char → Except CountFault Nat
  | [] => .ok value
  | c :: rest =>
    if c.isDigit then
      let next := value * 10 + (c.toNat - 48)
      if next < countBound then digitsFrom next rest else .error .tooLarge
    else .error .notDigit

def readCount : List Char → Except CountFault Nat
  | [] => .error .empty
  | ['+'] => .error .notDigit
  | '+' :: digits => digitsFrom 0 digits
  | digits => digitsFrom 0 digits

/-!
Texts that stand for a real number: digits with at most one point, perhaps with a power
of ten behind them, or a word for a value that no digits stand for. At most one sign is
in front.
-/

def behindSign : List Char → List Char
  | '+' :: cs => cs
  | '-' :: cs => cs
  | cs => cs

def numberWords : List String := ["inf", "infinity", "nan"]

/-- Whether a text can stand behind the digits of a number: nothing, or a power of ten. -/
def isScale : List Char → Bool
  | [] => true
  | c :: cs =>
    (c = 'e' || c = 'E') && !(behindSign cs).isEmpty && (behindSign cs).all Char.isDigit

def isNumber (text : List Char) : Bool :=
  let cs := behindSign text
  let whole := cs.takeWhile Char.isDigit
  String.ofList (cs.map Char.toLower) ∈ numberWords ||
    match cs.drop whole.length with
    | '.' :: rest =>
      let fraction := rest.takeWhile Char.isDigit
      !(whole.isEmpty && fraction.isEmpty) && isScale (rest.drop fraction.length)
    | rest => !whole.isEmpty && isScale rest

end DerivationPool.Decimal

/-!
Spans of time, counted in nanoseconds, and their text: the largest of the units
s, ms, µs and ns whose whole part is not zero, and the exact remainder as a fraction.
-/
namespace DerivationPool

structure Elapsed where
  nanos : Nat
  deriving DecidableEq, Repr

namespace Elapsed

def ofParts (seconds nanos : Nat) : Elapsed := ⟨seconds * 1000000000 + nanos⟩

def ofMillis (millis : Nat) : Elapsed := ⟨millis * 1000000⟩

def millis (t : Elapsed) : Nat := t.nanos / 1000000

/-- A fraction in a unit of `10 ^ places` parts, from its point on, without trailing zeros. -/
def fraction (places rest : Nat) : List Char :=
  let digits := Nat.toDigits 10 rest
  let padded := List.replicate (places - digits.length) '0' ++ digits
  if rest = 0 then [] else '.' :: (padded.reverse.dropWhile (· = '0')).reverse

def inUnit (t : Elapsed) (places : Nat) (unit : String) : String :=
  let size := Nat.pow 10 places
  toString (t.nanos / size) ++ String.ofList (fraction places (t.nanos % size)) ++ unit

def text (t : Elapsed) : String :=
  if 1000000000 ≤ t.nanos then t.inUnit 9 "s"
  else if 1000000 ≤ t.nanos then t.inUnit 6 "ms"
  else if 1000 ≤ t.nanos then t.inUnit 3 "µs"
  else t.inUnit 0 "ns"

end Elapsed

end DerivationPool

/-!
Socket addresses: four decimal numbers, or up to eight hexadecimal groups in
brackets, and a port. Decimal numbers of an address have no leading zeros; one row
of groups may be left out where two colons stand; the last two groups may be
written as four decimal numbers.
-/
namespace DerivationPool

inductive IpAddress where
  | v4 (octets : List Nat)
  | v6 (groups : List Nat)
  deriving DecidableEq, Repr

structure SocketAddress where
  ip : IpAddress
  port : Nat
  /-- The number of the interface that an address of a link belongs to, or zero. -/
  scope : Nat
  deriving DecidableEq, Repr

namespace SocketAddress

/-- A reader of the front of a text: what it read, and the rest. -/
abbrev Reads (α : Type) := List Char → Option (α × List Char)

def digit? (base : Nat) (c : Char) : Option Nat :=
  let value :=
    if 48 ≤ c.toNat ∧ c.toNat ≤ 57 then some (c.toNat - 48)
    else if 97 ≤ c.toNat ∧ c.toNat ≤ 102 then some (c.toNat - 87)
    else if 65 ≤ c.toNat ∧ c.toNat ≤ 70 then some (c.toNat - 55)
    else none
  value.filter (· < base)

structure NumberForm where
  base : Nat
  /-- The most digits, if there is a most. -/
  digits : Option Nat
  leadingZeros : Bool
  bound : Nat

def octetForm : NumberForm := ⟨10, some 3, false, 256⟩

def groupForm : NumberForm := ⟨16, some 4, true, 65536⟩

def portForm : NumberForm := ⟨10, none, true, 65536⟩

def scopeForm : NumberForm := ⟨10, none, true, 1 <<< 32⟩

def number (form : NumberForm) : Reads Nat := fun cs =>
  let ds := cs.takeWhile fun c => (digit? form.base c).isSome
  let value := ds.foldl (fun n c => n * form.base + (digit? form.base c).getD 0) 0
  let tooMany := match form.digits with
    | some most => most < ds.length
    | none => false
  let zero := !form.leadingZeros && 1 < ds.length && ds.head? = some '0'
  if ds.isEmpty || tooMany || zero || form.bound ≤ value then none
  else some (value, cs.drop ds.length)

def char (c : Char) : Reads Unit
  | d :: rest => if c = d then some ((), rest) else none
  | [] => none

def numberAfter (c : Char) (form : NumberForm) : Reads Nat := fun cs => do
  let ((), cs) ← char c cs
  number form cs

def octets : Reads (List Nat) := fun cs => do
  let (a, cs) ← number octetForm cs
  let (b, cs) ← numberAfter '.' octetForm cs
  let (c, cs) ← numberAfter '.' octetForm cs
  let (d, cs) ← numberAfter '.' octetForm cs
  return ([a, b, c, d], cs)

def groupsOfOctets : List Nat → List Nat
  | [a, b, c, d] => [a * 256 + b, c * 256 + d]
  | _ => []

/-- At most so many groups between colons, and whether they end in decimal numbers. -/
def groups : Nat → Bool → List Char → (List Nat × Bool) × List Char
  | 0, _, cs => (([], false), cs)
  | most + 1, first, cs =>
    let behind (read : Reads (List Nat)) : Option (List Nat × List Char) :=
      if first then read cs
      else do
        let ((), cs) ← char ':' cs
        read cs
    let decimal := if most = 0 then none else behind octets
    match decimal with
    | some (found, rest) => ((groupsOfOctets found, true), rest)
    | none =>
      match behind fun cs => (number groupForm cs).map fun r => ([r.1], r.2) with
      | none => (([], false), cs)
      | some (found, rest) =>
        let ((more, decimal), rest) := groups most false rest
        ((found ++ more, decimal), rest)

/-- Eight groups, one row of which may be left out between two colons. -/
def eightGroups : Reads (List Nat) := fun cs =>
  let ((head, decimal), rest) := groups 8 true cs
  if head.length = 8 then some (head, rest)
  else if decimal then none
  else do
    let ((), rest) ← char ':' rest
    let ((), rest) ← char ':' rest
    let ((tail, _), rest) := groups (7 - head.length) true rest
    return (head ++ List.replicate (8 - head.length - tail.length) 0 ++ tail, rest)

def v4Address : Reads SocketAddress := fun cs => do
  let (os, cs) ← octets cs
  let (port, cs) ← numberAfter ':' portForm cs
  return (⟨.v4 os, port, 0⟩, cs)

/-- An address in brackets, with a scope behind `%` if there is one. -/
def v6Address : Reads SocketAddress := fun cs => do
  let ((), cs) ← char '[' cs
  let (gs, cs) ← eightGroups cs
  let (scope, cs) := (numberAfter '%' scopeForm cs).getD (0, cs)
  let ((), cs) ← char ']' cs
  let (port, cs) ← numberAfter ':' portForm cs
  return (⟨.v6 gs, port, scope⟩, cs)

def whole (read : Reads SocketAddress) (text : String) : Option SocketAddress :=
  match read text.toList with
  | some (address, []) => some address
  | _ => none

def ofString? (text : String) : Option SocketAddress :=
  (whole v4Address text).or (whole v6Address text)

end SocketAddress

namespace IpAddress

def groupText (n : Nat) : String := String.ofList (Nat.toDigits 16 n)

def zerosAhead : List Nat → Nat
  | 0 :: rest => zerosAhead rest + 1
  | _ => 0

/-- The start and the length of the first of the longest rows of zeros, from position `at`. -/
def longestZeros (start : Nat) : List Nat → Nat × Nat
  | [] => (start, 0)
  | g :: rest =>
    let here := zerosAhead (g :: rest)
    let later := longestZeros (start + 1) rest
    if later.2 ≤ here then (start, here) else later

def colonText (gs : List Nat) : String := ":".intercalate (gs.map groupText)

def pointText (octets : List Nat) : String := ".".intercalate (octets.map toString)

/-- The text of an address. The first of the longest rows of zeros is left out if it has two groups
or more, and an address that stands for four decimal numbers ends in them. -/
def text : IpAddress → String
  | v4 octets => pointText octets
  | v6 [0, 0, 0, 0, 0, 0xffff, a, b] =>
    "::ffff:" ++ pointText [a / 256, a % 256, b / 256, b % 256]
  | v6 groups =>
    let (start, size) := longestZeros 0 groups
    if 1 < size then
      colonText (groups.take start) ++ "::" ++ colonText (groups.drop (start + size))
    else colonText groups

end IpAddress

namespace SocketAddress

def text (a : SocketAddress) : String :=
  match a.ip with
  | .v4 _ => a.ip.text ++ ":" ++ toString a.port
  | .v6 _ =>
    let scope := if a.scope = 0 then "" else "%" ++ toString a.scope
    "[" ++ a.ip.text ++ scope ++ "]:" ++ toString a.port

inductive Fault where
  | notAssigned
  /-- It holds for one link or one interface, and none is named. -/
  | scopeMissing
  | scopeUnknown
  deriving DecidableEq, Repr

def Fault.text : Fault → String
  | notAssigned => "Cannot assign requested address (os error 99)"
  | scopeMissing => "Invalid argument (os error 22)"
  | scopeUnknown => "No such device (os error 19)"

/-- The interface that every host has: the one to itself. -/
def loopback : Nat := 1

def isMapped (groups : List Nat) : Bool := groups.take 6 = [0, 0, 0, 0, 0, 0xffff]

/-- Whether an address that begins with a group is that of many hosts. -/
def isShared (first : Nat) : Bool := first / 256 = 0xff

def isNear (first : Nat) : Bool :=
  first / 64 = 0xfe80 / 64 || (isShared first && (first % 16 = 1 || first % 16 = 2))

/-- Why a host that is on no network does not listen at an address. It takes four decimal numbers,
as it does not know which of them are its own. Of the addresses in groups it has none. -/
def fault? (a : SocketAddress) : Option Fault :=
  match a.ip with
  | .v4 _ => none
  | .v6 groups =>
    let first := groups.headD 0
    if isMapped groups || groups.all (· = 0) then none
    else if isNear first && a.scope = 0 then some .scopeMissing
    else if isNear first && a.scope ≠ loopback then some .scopeUnknown
    else if isShared first then none
    else some .notAssigned

end SocketAddress

end DerivationPool

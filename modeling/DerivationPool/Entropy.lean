import DerivationPool.Bytes
import DerivationPool.Decimal
import DerivationPool.Derivation

/-!
Sources of random bytes, and one that follows a script. A source is an automaton: a read of `n`
bytes takes its state to the next and gives a reading, which either fills all `n` bytes or says
why not. Nothing is assumed of the bytes.
-/
namespace DerivationPool

/-- A call that gives a value, or panics and gives none. -/
inductive Attempt (α : Type) where
  | returned (value : α)
  | panicked
  deriving DecidableEq, Repr

namespace Attempt

variable {α β : Type}

def map (f : α → β) : Attempt α → Attempt β
  | returned value => returned (f value)
  | panicked => panicked

@[simp] theorem map_returned (f : α → β) (a : α) : (returned a).map f = returned (f a) := rfl

@[simp] theorem map_panicked (f : α → β) : (panicked : Attempt α).map f = panicked := rfl

end Attempt

/-- What a read of `n` bytes comes to. -/
inductive Reading (n : Nat) where
  | filled (bytes : Bytes) (length_eq : bytes.length = n)
  /-- The bytes written before the failure never leave the reader. -/
  | failed (written : Bytes) (error : DerivationError)
  | panicked

structure Entropy (σ : Type) where
  read : (n : Nat) → σ → Reading n × σ
  /-- Whether the next read waits for a signal from outside before it gives anything. -/
  waits : σ → Bool

/-- What a reading is worth to its reader: all of its bytes, or none. -/
def Reading.salt {n : Nat} : Reading n → Attempt (Except DerivationError Bytes)
  | filled bytes _ => .returned (.ok bytes)
  | failed _ error => .returned (.error error)
  | panicked => .panicked

namespace Entropy

variable {σ : Type}

/-- Draws a salt with one read into a new buffer. No read is made for an empty salt, and none for
one that is too long for a buffer: the attempt to make the buffer panics. -/
def drawSalt (source : Entropy σ) (n : Nat) (state : σ) :
    Attempt (Except DerivationError Bytes) × σ :=
  if n = 0 then (.returned (.error .emptySalt), state)
  else if Bytes.maxLength < n then (.panicked, state)
  else
    let (reading, next) := source.read n state
    (reading.salt, next)

@[simp] theorem drawSalt_zero (source : Entropy σ) (state : σ) :
    source.drawSalt 0 state = (.returned (.error .emptySalt), state) := rfl

theorem drawSalt_of_le (source : Entropy σ) {n : Nat} (hpos : 0 < n) (hroom : n ≤ Bytes.maxLength)
    (state : σ) :
    source.drawSalt n state = ((source.read n state).1.salt, (source.read n state).2) := by
  rw [drawSalt, if_neg (Nat.ne_of_gt hpos), if_neg (Nat.not_lt.mpr hroom)]

theorem drawSalt_of_lt (source : Entropy σ) {n : Nat} (hlarge : Bytes.maxLength < n) (state : σ) :
    source.drawSalt n state = (.panicked, state) := by
  have hpos : n ≠ 0 := Nat.ne_zero_of_lt hlarge
  rw [drawSalt, if_neg hpos, if_pos hlarge]

/-- Waits for a source that gives its first answer after `delay`; the answer has to come before
`timeout` is over. -/
def ready (delay timeout : Elapsed) : Except DerivationError Unit :=
  if delay.nanos < timeout.nanos then .ok ()
  else .error (.entropyUnavailable ("OS entropy pool not ready after " ++ timeout.text))

/-- A source that numbers its reads: each is the number of reads before it, in the last eight of
the bytes asked for. It stands where the bytes do not matter but their freshness does. -/
def numbered : Entropy Nat where
  read n count :=
    (.filled (List.replicate (n - 8) 0 ++ Bytes.ofNat (min n 8) count) (by simp), count + 1)
  waits _ := false

end Entropy

/-!
A source that follows a script: its reads take the steps in order, and the last
step repeats. It records the length of every read.
-/

/-- The first `n` bytes of a pattern repeated without end; zeros if it is empty. -/
def Bytes.cycle (pattern : Bytes) (n : Nat) : Bytes :=
  ((pattern.times (n / pattern.length + 1)) ++ List.replicate n 0).take n

@[simp] theorem Bytes.length_cycle (pattern : Bytes) (n : Nat) :
    (Bytes.cycle pattern n).length = n := by
  simp [Bytes.cycle]

namespace Entropy

inductive Step where
  | fill (pattern : Bytes)
  /-- Successive numbers modulo 256, going on from the last read that took such a step. -/
  | counter (start : UInt8)
  | partly (pattern : Bytes) (count : Nat) (error : DerivationError)
  | fail (error : DerivationError)
  | panic
  /-- Waits for a signal, then fills. -/
  | stall (pattern : Bytes)
  deriving DecidableEq, Repr

abbrev Script := List Step

structure Progress where
  count : Nat
  counter : UInt8
  reads : List Nat
  deriving DecidableEq, Repr

namespace Script

def step (script : Script) (p : Progress) : Step :=
  (script[p.count]?.or script.getLast?).getD (.fill [])

/-- The start of the last counting step: all of them share one counter. -/
def firstCount : Script → UInt8 → UInt8
  | [], start => start
  | .counter start :: rest, _ => firstCount rest start
  | _ :: rest, start => firstCount rest start

def start (script : Script) : Progress := ⟨0, script.firstCount 0, []⟩

def countFrom (start : UInt8) (n : Nat) : Bytes :=
  (List.range n).map fun i => start + UInt8.ofNat i

@[simp] theorem length_countFrom (start : UInt8) (n : Nat) : (countFrom start n).length = n := by
  simp [countFrom]

def read (script : Script) (n : Nat) (p : Progress) : Reading n × Progress :=
  let next : Progress := ⟨p.count + 1, p.counter, p.reads ++ [n]⟩
  match script.step p with
  | .fill pattern => (.filled (Bytes.cycle pattern n) (by simp), next)
  | .stall pattern => (.filled (Bytes.cycle pattern n) (by simp), next)
  | .counter _ =>
    (.filled (countFrom p.counter n) (by simp), { next with counter := p.counter + UInt8.ofNat n })
  | .partly pattern count error => (.failed (Bytes.cycle pattern (min n count)) error, next)
  | .fail error => (.failed [] error, next)
  | .panic => (.panicked, next)

def waits (script : Script) (p : Progress) : Bool :=
  match script.step p with
  | .stall _ => true
  | _ => false

def source (script : Script) : Entropy Progress := ⟨script.read, script.waits⟩

end Script

end Entropy

end DerivationPool

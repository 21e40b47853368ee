import DerivationPool.Pool.Step

/-!
Driving a pool from outside. Left to itself, a pool goes on until nothing is
possible without a signal: callers enter the queue, workers take jobs and finish
them, and operations that wait stay at the gate until it is opened. What callers
get is read off the notices of the events that were chosen.
-/
namespace DerivationPool.Pool

inductive Gate where
  | shut | opened
  deriving DecidableEq, Repr

variable {σ : Type}

namespace State

def canPerform (s : State σ) (gate : Gate) : Worker σ → Bool
  | .running d none | .held d none => gate = .opened || !d.operation.waits d.job s.shared
  | _ => false

def canFinish : Worker σ → Bool
  | .running _ (some _) | .held _ (some _) => true
  | _ => false

def isIdle : Worker σ → Bool
  | .idle => true
  | _ => false

def hasSpace (s : State σ) : Bool := s.queue.length < s.config.queueDepth

/-- The event that comes next when nobody interferes. -/
def next? (s : State σ) (gate : Gate) : Option Event :=
  if !s.waiting.isEmpty && s.hasSpace then some (.enqueue 0)
  else
    let idle := s.workers.findIdx? isIdle
    let start := if s.stopping || s.queue.isEmpty then none else idle.map .dequeue
    let performing := (s.workers.findIdx? (s.canPerform gate)).map .perform
    let finishing := (s.workers.findIdx? canFinish).map .finish
    let leaving := if s.stopping then idle.map .exit else none
    start <|> performing <|> finishing <|> leaving

def stepsLeft (gate : Gate) : Nat → State σ → State σ × List Notice
  | 0, s => (s, [])
  | fuel + 1, s =>
    match (s.next? gate).bind (step s) with
    | none => (s, [])
    | some (s, first) =>
      let (s, rest) := stepsLeft gate fuel s
      (s, first ++ rest)

/-- More steps than a pool can take without new calls: a dispatch takes four at most, and a worker
one more. -/
def stepBound (s : State σ) : Nat :=
  4 * (s.waiting.length + s.queue.length + s.workers.length) + s.workers.length

def settle (s : State σ) (gate : Gate) : State σ × List Notice := stepsLeft gate s.stepBound s

def submitAll : List (String × Bytes) → State σ → State σ × List Notice
  | [], s => (s, [])
  | (name, data) :: calls, s =>
    let (s, first) := s.submit name data
    let (s, rest) := submitAll calls s
    (s, first ++ rest)

/-- Takes the steps of the events that are possible. -/
def attempt : List Event → State σ → State σ × List Notice
  | [], s => (s, [])
  | event :: events, s =>
    let (s, first) := (step s event).getD (s, [])
    let (s, rest) := attempt events s
    (s, first ++ rest)

def isRunning : Worker σ → Bool
  | .running _ _ => true
  | _ => false

/-- The places of the workers whose callers still wait. -/
def running (s : State σ) : List Nat :=
  (s.workers.zipIdx.filter fun w => isRunning w.1).map Prod.snd

def overrunAll (s : State σ) : State σ × List Notice :=
  attempt (s.running.map fun w => .overrun w s.config.jobTimeout) s

end State

/-- The answer to a call among notices. A call that nobody is left to answer is refused. -/
def answerTo (notices : List Notice) (call : Nat) : Outcome :=
  (notices.findSome? fun notice =>
    match notice with
    | .answered c outcome => if c = call then some outcome else none
    | _ => none).getD (.error .poolClosed)

/-- Submits calls at once and waits for all answers, given in the order of the calls. The jobs that
wait at the gate overrun their time and are let go then. -/
def batch (calls : List (String × Bytes)) (s : State σ) : List Outcome × State σ :=
  let first := s.nextCall
  let (s, submitted) := s.submitAll calls
  let (s, settled) := s.settle .shut
  let (s, overrun) := s.overrunAll
  let (s, released) := s.settle .opened
  let notices := submitted ++ settled ++ overrun ++ released
  ((List.range calls.length).map fun i => answerTo notices (first + i), s)

def execute (name : String) (data : Bytes) (s : State σ) : Outcome × State σ :=
  let (outcomes, s) := batch [(name, data)] s
  (outcomes.headD (.error .poolClosed), s)

def shutdown (s : State σ) : State σ :=
  let (s, _) := State.attempt [.shutdown] s
  (s.settle .opened).1

end DerivationPool.Pool

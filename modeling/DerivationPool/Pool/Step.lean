import DerivationPool.Pool.State

/-!
What can happen to a pool, one event at a time and in any order that is possible.
An event that is not possible in a state has no step. What callers and observers
see of a step is in its notices; every answer to a call is one of them.
-/
namespace DerivationPool.Pool

inductive Event where
  /-- A caller asks for an operation. -/
  | submit (name : String) (data : Bytes)
  /-- A caller that waits puts its job into the queue. Places are given to those who wait in their
  order, but one who has been given a place may be overtaken on the way to it. -/
  | enqueue (place : Nat)
  /-- An idle worker takes the job at the front of the queue. -/
  | dequeue (worker : Nat)
  /-- The operation of a worker takes effect. -/
  | perform (worker : Nat)
  /-- The operation of a worker returns. -/
  | finish (worker : Nat)
  /-- The job of a worker has taken all the time that it may, or more. -/
  | overrun (worker : Nat) (elapsed : Elapsed)
  /-- A caller stops waiting for its answer. -/
  | leave (call : Nat)
  | shutdown
  /-- An idle worker ends because the pool is shutting down. -/
  | exit (worker : Nat)
  deriving DecidableEq, Repr

inductive Notice where
  | entered (call : Nat)
  | started (call : Nat) (job : Job)
  | performed (call : Nat) (result : Attempt Outcome)
  /-- The time of the job is over. Its operation goes on. -/
  | overran (call : Nat) (elapsed : Elapsed)
  /-- The operation has returned or panicked: nothing of the call is in progress any more. -/
  | ended (call : Nat)
  | answered (call : Nat) (outcome : Outcome)
  deriving Repr

/-- What the caller of an operation is told when it returns. -/
def outcomeOf : Attempt Outcome → Outcome
  | .returned outcome => outcome
  | .panicked => .error .workerPanicked

variable {σ : Type}

/-- The answer to a call, if its caller still waits for it. -/
def State.answer (s : State σ) (call : Nat) (outcome : Outcome) : List Notice :=
  if call ∈ s.departed then [] else [.answered call outcome]

/-- A call gets its number; only a call of a registered operation gets a job. -/
def State.submit (s : State σ) (name : String) (data : Bytes) : State σ × List Notice :=
  let call := s.nextCall
  let s := { s with nextCall := call + 1 }
  match s.table.get? name with
  | none => (s, [.answered call (.error (.unknownOperation name))])
  | some operation =>
    let job : Job := ⟨s.nextJob, data⟩
    let s := { s with nextJob := s.nextJob + 1 }
    if s.closed then (s, [.answered call (.error .poolClosed)])
    else ({ s with waiting := s.waiting ++ [⟨call, operation, job⟩] }, [])

/-- A worker ends. With the last one the queue is dropped, and all who still wait are refused. -/
def State.exit (s : State σ) (worker : Nat) : State σ × List Notice :=
  let s := { s with workers := s.workers.set worker .exited }
  if s.closed then
    let refused := s.queue ++ s.waiting
    ({ s with queue := [], waiting := [] },
      refused.flatMap fun d => s.answer d.call (.error .poolClosed))
  else (s, [])

def step (s : State σ) : Event → Option (State σ × List Notice)
  | .submit name data => some (s.submit name data)
  | .enqueue place =>
    match s.waiting[place]? with
    | some d =>
      if s.queue.length < s.config.queueDepth then
        some ({ s with waiting := s.waiting.eraseIdx place, queue := s.queue ++ [d] },
          [.entered d.call])
      else none
    | none => none
  | .dequeue w =>
    match s.stopping, s.workers[w]?, s.queue with
    | false, some .idle, d :: rest =>
      some ({ s with workers := s.workers.set w (.running d none), queue := rest },
        [.started d.call d.job])
    | _, _, _ => none
  | .perform w =>
    match s.workers[w]? with
    | some (.running d none) =>
      let (result, shared) := d.operation.run d.job s.shared
      some ({ s with workers := s.workers.set w (.running d (some result)), shared },
        [.performed d.call result])
    | some (.held d none) =>
      let (result, shared) := d.operation.run d.job s.shared
      some ({ s with workers := s.workers.set w (.held d (some result)), shared },
        [.performed d.call result])
    | _ => none
  | .finish w =>
    match s.workers[w]? with
    | some (.running d (some result)) =>
      some ({ s with workers := s.workers.set w .idle },
        .ended d.call :: s.answer d.call (outcomeOf result))
    | some (.held d (some _)) => some ({ s with workers := s.workers.set w .idle }, [.ended d.call])
    | _ => none
  | .overrun w elapsed =>
    match s.workers[w]? with
    | some (.running d result) =>
      if s.config.jobTimeout.nanos ≤ elapsed.nanos then
        some ({ s with workers := s.workers.set w (.held d result) },
          .overran d.call elapsed :: s.answer d.call (.error (d.operation.timeoutError elapsed)))
      else none
    | _ => none
  | .leave call =>
    if call < s.nextCall then
      some ({ s with
        departed := call :: s.departed
        waiting := s.waiting.filter fun d => d.call ≠ call }, [])
    else none
  | .shutdown => some ({ s with stopping := true }, [])
  | .exit w =>
    match s.stopping, s.workers[w]? with
    | true, some .idle => some (s.exit w)
    | _, _ => none

/-- The steps of a row of events, if all of them are possible, with all their notices. -/
def run : State σ → List Event → Option (State σ × List Notice)
  | s, [] => some (s, [])
  | s, event :: events => do
    let (s, first) ← step s event
    let (s, rest) ← run s events
    return (s, first ++ rest)

@[simp] theorem run_nil (s : State σ) : run s [] = some (s, []) := rfl

theorem run_cons (s : State σ) (event : Event) (events : List Event) :
    run s (event :: events) = (step s event).bind fun r =>
      (run r.1 events).map fun q => (q.1, r.2 ++ q.2) := by
  cases h : step s event with
  | none => simp [run, h]
  | some r =>
    cases hq : run r.1 events with
    | none => simp [run, h, hq]
    | some q => simp [run, h, hq]

end DerivationPool.Pool

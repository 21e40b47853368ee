import DerivationPool.Pool.Step
import Mathlib.Data.List.Induction

/-!
Runs of a pool, taken apart. A step that is possible makes one of fourteen moves,
and `Moves` says of each what it needs and what it does. What holds at the start
of a run and is kept by every move holds at its end; the events and the notices of
the part that is over are at hand on the way.
-/
namespace DerivationPool.Pool

variable {σ : Type}

/-- What an event does to a pool in which it is possible, and what is noticed of it. -/
inductive Moves (s : State σ) : Event → State σ → List Notice → Prop where
  | unknown {name : String} {data : Bytes} (hop : s.table.get? name = none) :
      Moves s (.submit name data) { s with nextCall := s.nextCall + 1 }
        [.answered s.nextCall (.error (.unknownOperation name))]
  | tooLate {name : String} {data : Bytes} {operation : Operation σ}
      (hop : s.table.get? name = some operation) (hclosed : s.closed = true) :
      Moves s (.submit name data)
        { s with nextCall := s.nextCall + 1, nextJob := s.nextJob + 1 }
        [.answered s.nextCall (.error .poolClosed)]
  | submit {name : String} {data : Bytes} {operation : Operation σ}
      (hop : s.table.get? name = some operation) (hopen : s.closed = false) :
      Moves s (.submit name data)
        { s with
          nextCall := s.nextCall + 1
          nextJob := s.nextJob + 1
          waiting := s.waiting ++ [⟨s.nextCall, operation, ⟨s.nextJob, data⟩⟩] }
        []
  | enqueue {place : Nat} {d : Dispatch σ} (hd : s.waiting[place]? = some d)
      (hspace : s.queue.length < s.config.queueDepth) :
      Moves s (.enqueue place)
        { s with waiting := s.waiting.eraseIdx place, queue := s.queue ++ [d] }
        [.entered d.call]
  | dequeue {w : Nat} {d : Dispatch σ} {rest : List (Dispatch σ)} (hgo : s.stopping = false)
      (hw : s.workers[w]? = some .idle) (hq : s.queue = d :: rest) :
      Moves s (.dequeue w)
        { s with workers := s.workers.set w (.running d none), queue := rest }
        [.started d.call d.job]
  | perform {w : Nat} {d : Dispatch σ} (hw : s.workers[w]? = some (.running d none)) :
      Moves s (.perform w)
        { s with
          workers := s.workers.set w (.running d (some (d.operation.run d.job s.shared).1))
          shared := (d.operation.run d.job s.shared).2 }
        [.performed d.call (d.operation.run d.job s.shared).1]
  | performHeld {w : Nat} {d : Dispatch σ} (hw : s.workers[w]? = some (.held d none)) :
      Moves s (.perform w)
        { s with
          workers := s.workers.set w (.held d (some (d.operation.run d.job s.shared).1))
          shared := (d.operation.run d.job s.shared).2 }
        [.performed d.call (d.operation.run d.job s.shared).1]
  | finish {w : Nat} {d : Dispatch σ} {result : Attempt Outcome}
      (hw : s.workers[w]? = some (.running d (some result))) :
      Moves s (.finish w) { s with workers := s.workers.set w .idle }
        (.ended d.call :: s.answer d.call (outcomeOf result))
  | finishHeld {w : Nat} {d : Dispatch σ} {result : Attempt Outcome}
      (hw : s.workers[w]? = some (.held d (some result))) :
      Moves s (.finish w) { s with workers := s.workers.set w .idle } [.ended d.call]
  | overrun {w : Nat} {t : Elapsed} {d : Dispatch σ} {result : Option (Attempt Outcome)}
      (hw : s.workers[w]? = some (.running d result))
      (htime : s.config.jobTimeout.nanos ≤ t.nanos) :
      Moves s (.overrun w t) { s with workers := s.workers.set w (.held d result) }
        (.overran d.call t :: s.answer d.call (.error (d.operation.timeoutError t)))
  | leave {call : Nat} (hcall : call < s.nextCall) :
      Moves s (.leave call)
        { s with
          departed := call :: s.departed
          waiting := s.waiting.filter fun d => d.call ≠ call }
        []
  | shutdown : Moves s .shutdown { s with stopping := true } []
  | exit {w : Nat} (hstop : s.stopping = true) (hw : s.workers[w]? = some .idle)
      (hopen : (s.workers.set w .exited).all Worker.hasExited = false) :
      Moves s (.exit w) { s with workers := s.workers.set w .exited } []
  | exitLast {w : Nat} (hstop : s.stopping = true) (hw : s.workers[w]? = some .idle)
      (hclosed : (s.workers.set w .exited).all Worker.hasExited = true) :
      Moves s (.exit w) { s with workers := s.workers.set w .exited, queue := [], waiting := [] }
        ((s.queue ++ s.waiting).flatMap fun d => s.answer d.call (.error .poolClosed))

theorem moves_of_submit (s : State σ) (name : String) (data : Bytes) :
    Moves s (.submit name data) (s.submit name data).1 (s.submit name data).2 := by
  cases hop : s.table.get? name with
  | none => simpa [State.submit, hop] using Moves.unknown hop
  | some operation =>
    cases hclosed : s.closed with
    | true =>
      have h : s.workers.all Worker.hasExited = true := hclosed
      simpa [State.submit, State.closed, hop, h] using Moves.tooLate hop hclosed
    | false =>
      have h : s.workers.all Worker.hasExited = false := hclosed
      simpa [State.submit, State.closed, hop, h] using Moves.submit hop hclosed

theorem moves_of_exit {s : State σ} {w : Nat} (hstop : s.stopping = true)
    (hw : s.workers[w]? = some .idle) : Moves s (.exit w) (s.exit w).1 (s.exit w).2 := by
  cases hclosed : (s.workers.set w .exited).all Worker.hasExited with
  | true =>
    simpa [State.exit, State.closed, State.answer, hclosed] using Moves.exitLast hstop hw hclosed
  | false => simpa [State.exit, State.closed, hclosed] using Moves.exit hstop hw hclosed

/-- A step that is possible makes one of the moves. -/
theorem moves_of_step {s s' : State σ} {event : Event} {new : List Notice}
    (h : step s event = some (s', new)) : Moves s event s' new := by
  cases event with
  | submit name data =>
    simp only [step, Option.some.injEq] at h
    simpa [h] using moves_of_submit s name data
  | enqueue place =>
    simp only [step] at h
    split at h
    · rename_i d hd
      split at h
      · rename_i hspace
        cases h
        exact .enqueue hd hspace
      · cases h
    · cases h
  | dequeue w =>
    simp only [step] at h
    split at h
    · rename_i hgo hw hq
      cases h
      exact .dequeue hgo hw hq
    · cases h
  | perform w =>
    simp only [step] at h
    split at h
    · rename_i hw
      cases h
      exact .perform hw
    · rename_i hw
      cases h
      exact .performHeld hw
    · cases h
  | finish w =>
    simp only [step] at h
    split at h
    · rename_i hw
      cases h
      exact .finish hw
    · rename_i hw
      cases h
      exact .finishHeld hw
    · cases h
  | overrun w t =>
    simp only [step] at h
    split at h
    · rename_i hw
      split at h
      · rename_i htime
        cases h
        exact .overrun hw htime
      · cases h
    · cases h
  | leave call =>
    simp only [step] at h
    split at h
    · rename_i hcall
      cases h
      exact .leave hcall
    · cases h
  | shutdown =>
    cases h
    exact .shutdown
  | exit w =>
    simp only [step] at h
    split at h
    · rename_i hstop hw
      simp only [Option.some.injEq] at h
      simpa [h] using moves_of_exit hstop hw
    · cases h

/-- Every move is a step of its event. -/
theorem step_of_moves {s s' : State σ} {event : Event} {new : List Notice}
    (h : Moves s event s' new) : step s event = some (s', new) := by
  cases h with
  | unknown hop => simp [step, State.submit, hop]
  | tooLate hop hclosed =>
    have hall : s.workers.all Worker.hasExited = true := hclosed
    simp [step, State.submit, State.closed, hop, hall]
  | submit hop hopen =>
    have hall : s.workers.all Worker.hasExited = false := hopen
    simp [step, State.submit, State.closed, hop, hall]
  | enqueue hd hspace => simp [step, hd, hspace]
  | dequeue hgo hw hq => simp [step, hgo, hw, hq]
  | perform hw | performHeld hw | finish hw | finishHeld hw => simp [step, hw]
  | overrun hw htime => simp [step, hw, htime]
  | leave hcall => simp [step, hcall]
  | shutdown => rfl
  | exit hstop hw hopen => simp [step, State.exit, State.closed, hstop, hw, hopen]
  | exitLast hstop hw hclosed =>
    simp [step, State.exit, State.closed, State.answer, hstop, hw, hclosed]

@[simp] theorem mem_answer (s : State σ) (call : Nat) (outcome : Outcome) (n : Notice) :
    n ∈ s.answer call outcome ↔ call ∉ s.departed ∧ n = .answered call outcome := by
  unfold State.answer
  split <;> simp_all

/-- No job is started once the pool was told to stop. -/
theorem Moves.of_started {s s' : State σ} {event : Event} {new : List Notice}
    (h : Moves s event s' new) {call : Nat} {job : Job} (hmem : .started call job ∈ new) :
    s.stopping = false := by
  cases h with
  | dequeue hgo hw hq => exact hgo
  | _ => simp at hmem

/-- Only an operation that takes effect changes what the operations share, and comes to a result. -/
theorem Moves.performs {s s' : State σ} {event : Event} {new : List Notice}
    (h : Moves s event s' new) :
    (s'.shared = s.shared ∧ ∀ call result, .performed call result ∉ new) ∨
    ∃ (w : Nat) (d : Dispatch σ), event = .perform w ∧
      (s.workers[w]? = some (.running d none) ∨ s.workers[w]? = some (.held d none)) ∧
      new = [.performed d.call (d.operation.run d.job s.shared).1] ∧
      s'.shared = (d.operation.run d.job s.shared).2 := by
  cases h with
  | perform hw => exact .inr ⟨_, _, rfl, .inl hw, rfl, rfl⟩
  | performHeld hw => exact .inr ⟨_, _, rfl, .inr hw, rfl, rfl⟩
  | _ => exact .inl ⟨rfl, by simp⟩

/-- No job is given up before its time is over. -/
theorem Moves.of_overran {s s' : State σ} {event : Event} {new : List Notice}
    (h : Moves s event s' new) {call : Nat} {t : Elapsed} (hmem : .overran call t ∈ new) :
    s.config.jobTimeout.nanos ≤ t.nanos := by
  cases h with
  | overrun hw htime =>
    simp only [List.mem_cons, Notice.overran.injEq, mem_answer, reduceCtorEq, and_false,
      or_false] at hmem
    exact hmem.2 ▸ htime
  | _ => simp at hmem

/-- What one worker does in a move: nothing, or the step of an event that is its own. -/
inductive Turn (s : State σ) : Worker σ → Worker σ → List Notice → Prop where
  | rest (a : Worker σ) (new : List Notice) : Turn s a a new
  | take (d : Dispatch σ) (hgo : s.stopping = false) :
      Turn s .idle (.running d none) [.started d.call d.job]
  | perform (d : Dispatch σ) (result : Attempt Outcome) :
      Turn s (.running d none) (.running d (some result)) [.performed d.call result]
  | performHeld (d : Dispatch σ) (result : Attempt Outcome) :
      Turn s (.held d none) (.held d (some result)) [.performed d.call result]
  | finish (d : Dispatch σ) (result : Attempt Outcome) :
      Turn s (.running d (some result)) .idle
        (.ended d.call :: s.answer d.call (outcomeOf result))
  | finishHeld (d : Dispatch σ) (result : Attempt Outcome) :
      Turn s (.held d (some result)) .idle [.ended d.call]
  | overrun (d : Dispatch σ) (result : Option (Attempt Outcome)) (t : Elapsed) :
      Turn s (.running d result) (.held d result)
        (.overran d.call t :: s.answer d.call (.error (d.operation.timeoutError t)))
  | exit (hstop : s.stopping = true) (new : List Notice) : Turn s .idle .exited new

/-- A move of the worker at `v` is a turn of that worker, and of any other it is a rest. -/
theorem turn_set {s : State σ} {v w : Nat} {a b c : Worker σ} {new : List Notice}
    (hv : s.workers[v]? = some b) (hturn : Turn s b c new) (hw : s.workers[w]? = some a) :
    ∃ a', (s.workers.set v c)[w]? = some a' ∧ Turn s a a' new := by
  obtain ⟨hlt, -⟩ := List.getElem?_eq_some_iff.mp hv
  by_cases heq : v = w
  · subst heq
    rw [hv] at hw
    cases hw
    exact ⟨c, List.getElem?_set_self hlt, hturn⟩
  · rw [List.getElem?_set_ne heq]
    exact ⟨a, hw, .rest a new⟩

/-- In every move, every worker takes a turn. -/
theorem Moves.turn {s s' : State σ} {event : Event} {new : List Notice}
    (h : Moves s event s' new) {w : Nat} {a : Worker σ} (hw : s.workers[w]? = some a) :
    ∃ b, s'.workers[w]? = some b ∧ Turn s a b new := by
  cases h with
  | unknown | tooLate | submit | enqueue | leave | shutdown => exact ⟨a, hw, .rest a _⟩
  | dequeue hgo hv hq => exact turn_set hv (.take _ hgo) hw
  | perform hv => exact turn_set hv (.perform _ _) hw
  | performHeld hv => exact turn_set hv (.performHeld _ _) hw
  | finish hv => exact turn_set hv (.finish _ _) hw
  | finishHeld hv => exact turn_set hv (.finishHeld _ _) hw
  | overrun hv htime => exact turn_set hv (.overrun _ _ _) hw
  | exit hstop hv hopen => exact turn_set hv (.exit hstop _) hw
  | exitLast hstop hv hclosed => exact turn_set hv (.exit hstop _) hw

theorem run_append (s : State σ) (first second : List Event) :
    run s (first ++ second) = (run s first).bind fun r =>
      (run r.1 second).map fun q => (q.1, r.2 ++ q.2) := by
  induction first generalizing s with
  | nil => cases h : run s second <;> simp [h]
  | cons event first ih =>
    simp only [List.cons_append, run_cons, ih]
    cases step s event with
    | none => rfl
    | some r =>
      cases hr : run r.1 first with
      | none => simp [hr]
      | some q => cases hq : run q.1 second <;> simp [hr, hq]

theorem run_trans {s mid s' : State σ} {first second : List Event} {earlier later : List Notice}
    (hfirst : run s first = some (mid, earlier)) (hsecond : run mid second = some (s', later)) :
    run s (first ++ second) = some (s', earlier ++ later) := by
  rw [run_append, hfirst, Option.bind_some, hsecond, Option.map_some]

theorem run_of_step {s mid s' : State σ} {event : Event} {events : List Event}
    {first rest : List Notice} (hstep : step s event = some (mid, first))
    (hrun : run mid events = some (s', rest)) :
    run s (event :: events) = some (s', first ++ rest) := by
  rw [run_cons, hstep, Option.bind_some, hrun, Option.map_some]

theorem run_concat {s s' : State σ} {events : List Event} {event : Event}
    {notices : List Notice} (h : run s (events ++ [event]) = some (s', notices)) :
    ∃ mid earlier new, run s events = some (mid, earlier) ∧ step mid event = some (s', new) ∧
      notices = earlier ++ new := by
  rw [run_append, Option.bind_eq_some_iff] at h
  obtain ⟨⟨mid, earlier⟩, hmid, h⟩ := h
  rw [run_cons] at h
  simp only [run_nil, Option.map_some, List.append_nil, Option.map_bind, Option.bind_eq_some_iff]
    at h
  obtain ⟨⟨last, new⟩, hlast, h⟩ := h
  cases h
  exact ⟨mid, earlier, new, hmid, hlast, rfl⟩

/-- What holds before any event and is kept by every move holds at the end of a run. -/
theorem run_induction {s₀ : State σ} {P : List Event → State σ → List Notice → Prop}
    (hstart : P [] s₀ [])
    (hmove : ∀ events s notices event s' new, run s₀ events = some (s, notices) →
      P events s notices → Moves s event s' new → P (events ++ [event]) s' (notices ++ new))
    {events : List Event} {s : State σ} {notices : List Notice}
    (hrun : run s₀ events = some (s, notices)) : P events s notices := by
  induction events using List.reverseRecOn generalizing s notices with
  | nil =>
    cases hrun
    exact hstart
  | append_singleton events event ih =>
    obtain ⟨mid, earlier, new, hmid, hstep, rfl⟩ := run_concat hrun
    exact hmove events mid earlier event s new hmid (ih hmid) (moves_of_step hstep)

end DerivationPool.Pool

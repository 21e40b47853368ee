import DerivationPool.Proofs.Pool.Invariant

/-!
The capacity of a pool. The calls whose operations are in progress are read off the
notices alone: a call is in flight from the start of its operation to its end,
whatever its caller was told in the meantime. At all times these calls are those of
the workers, each of one worker, and so there are never more of them than workers.
-/
namespace DerivationPool.Pool

variable {σ : Type}

/-- The calls in flight after one more notice. -/
def Notice.track (calls : List Nat) : Notice → List Nat
  | started call _ => call :: calls
  | ended call => calls.erase call
  | entered _ | performed _ _ | overran _ _ | answered _ _ => calls

/-- The calls whose operations are in progress. -/
def inFlight (notices : List Notice) : List Nat := notices.foldl Notice.track []

@[simp] theorem inFlight_nil : inFlight [] = [] := rfl

theorem inFlight_append (notices new : List Notice) :
    inFlight (notices ++ new) = new.foldl Notice.track (inFlight notices) := by
  simp [inFlight]

@[simp] theorem track_answer (s : State σ) (call : Nat) (outcome : Outcome) (calls : List Nat) :
    (s.answer call outcome).foldl Notice.track calls = calls := by
  unfold State.answer
  split <;> rfl

theorem track_refusals (s : State σ) (refused : List (Dispatch σ)) (outcome : Outcome)
    (calls : List Nat) :
    (refused.flatMap fun d => s.answer d.call outcome).foldl Notice.track calls = calls := by
  induction refused with
  | nil => rfl
  | cons d refused ih => rw [List.flatMap_cons, List.foldl_append, track_answer, ih]

def Worker.call? : Worker σ → Option Nat
  | running d _ | held d _ => some d.call
  | idle | exited => none

def State.boundCalls (s : State σ) : List Nat := s.workers.filterMap Worker.call?

theorem boundCalls_eq (s : State σ) :
    s.boundCalls = (s.workers.flatMap Worker.positions).map fun p => p.1.call := by
  rw [State.boundCalls]
  induction s.workers with
  | nil => rfl
  | cons a workers ih => cases a <;> simp [List.filterMap_cons, Worker.call?, Worker.positions, ih]

/-- Exchanging a worker exchanges its call. -/
theorem boundCalls_perm_set {s s' : State σ} {w : Nat} {a b : Worker σ}
    (hw : s.workers[w]? = some a) (hworkers : s'.workers = s.workers.set w b) :
    ∃ others, s.boundCalls.Perm (a.call?.toList ++ others) ∧
      s'.boundCalls.Perm (b.call?.toList ++ others) := by
  obtain ⟨hi, rfl⟩ := List.getElem?_eq_some_iff.mp hw
  have hcons : ∀ (c : Worker σ) (workers : List (Worker σ)),
      (c :: workers).filterMap Worker.call? = c.call?.toList ++ workers.filterMap Worker.call? := by
    intro c workers
    cases hc : c.call? <;> simp [hc]
  refine ⟨(s.workers.eraseIdx w).filterMap Worker.call?, ?_, ?_⟩
  · rw [← hcons]
    exact (List.getElem_cons_eraseIdx_perm hi).symm.filterMap _
  · rw [← hcons, State.boundCalls, hworkers]
    exact (List.set_perm_cons_eraseIdx hi b).filterMap _

/-- A worker takes its turn, with the notices that go with the change of its call. -/
theorem inFlight_worker {s s' : State σ} {w : Nat} {a b : Worker σ} {notices new : List Notice}
    (h : (inFlight notices).Perm s.boundCalls) (hw : s.workers[w]? = some a)
    (hworkers : s'.workers = s.workers.set w b)
    (htrack : ∀ calls others : List Nat, calls.Perm (a.call?.toList ++ others) →
      (new.foldl Notice.track calls).Perm (b.call?.toList ++ others)) :
    (inFlight (notices ++ new)).Perm s'.boundCalls := by
  obtain ⟨others, hbefore, hafter⟩ := boundCalls_perm_set hw hworkers
  rw [inFlight_append]
  exact (htrack _ others (h.trans hbefore)).trans hafter.symm

theorem erase_perm {calls others : List Nat} {call : Nat} (h : calls.Perm ([call] ++ others)) :
    (calls.erase call).Perm others := by
  have herased := h.erase call
  rw [List.singleton_append, List.erase_cons_head] at herased
  exact herased

/-- A move that changes which calls are in flight changes the workers' calls likewise. -/
theorem inFlight_move {s s' : State σ} {event : Event} {notices new : List Notice}
    (h : (inFlight notices).Perm s.boundCalls) (hmove : Moves s event s' new) :
    (inFlight (notices ++ new)).Perm s'.boundCalls := by
  cases hmove with
  | unknown | tooLate | submit | enqueue | leave | shutdown =>
    rw [inFlight_append]
    exact h
  | dequeue hgo hw hq => exact inFlight_worker h hw rfl fun _ _ hcalls => hcalls.cons _
  | perform hw => exact inFlight_worker h hw rfl fun _ _ hcalls => hcalls
  | performHeld hw => exact inFlight_worker h hw rfl fun _ _ hcalls => hcalls
  | finish hw =>
    refine inFlight_worker h hw rfl fun calls others hcalls => ?_
    rw [List.foldl_cons, track_answer]
    exact erase_perm hcalls
  | finishHeld hw => exact inFlight_worker h hw rfl fun _ _ hcalls => erase_perm hcalls
  | overrun hw htime =>
    refine inFlight_worker h hw rfl fun calls others hcalls => ?_
    rw [List.foldl_cons, track_answer]
    exact hcalls
  | exit hstop hw hopen => exact inFlight_worker h hw rfl fun _ _ hcalls => hcalls
  | exitLast hstop hw hclosed =>
    refine inFlight_worker h hw rfl fun calls others hcalls => ?_
    rw [track_refusals]
    exact hcalls

section Run

variable {config : Config} {table : Table σ} {shared : σ} {s₀ s : State σ} {events : List Event}
  {notices : List Notice}

/-- The calls in flight are those of the workers. -/
theorem inFlight_perm_boundCalls (hstart : State.start config table shared = .ok s₀)
    (hrun : run s₀ events = some (s, notices)) : (inFlight notices).Perm s.boundCalls := by
  obtain ⟨rfl, -⟩ := start_eq_ok hstart
  have hnone : (State.initial config table shared).boundCalls = [] := by
    simp [State.boundCalls, State.initial, Worker.call?]
  exact run_induction (P := fun _ s notices => (inFlight notices).Perm s.boundCalls)
    (by simp [hnone]) (fun _ _ _ _ _ _ _ h hmove => inFlight_move h hmove) hrun

/-- No call is with two workers. -/
theorem boundCalls_nodup (h : Sound config table events s notices) : s.boundCalls.Nodup := by
  have hdistinct := h.ledger.distinct
  rw [State.positions, List.map_append, List.nodup_append] at hdistinct
  rw [boundCalls_eq]
  exact hdistinct.2.1

end Run

/-- What holds of a worker that has a call and goes in each of its turns until the operation of the
call ends, goes in a whole run until then. -/
theorem until_ended {p : Worker σ → Prop} {call : Nat}
    (hturn : ∀ (s : State σ) (a b : Worker σ) (new : List Notice), p a → Turn s a b new →
      .ended call ∈ new ∨ p b)
    {s s' : State σ} {events : List Event} {notices : List Notice}
    (hrun : run s events = some (s', notices)) {w : Nat} {a : Worker σ}
    (hw : s.workers[w]? = some a) (ha : p a) :
    .ended call ∈ notices ∨ ∃ b, s'.workers[w]? = some b ∧ p b := by
  refine run_induction (P := fun _ s' notices => .ended call ∈ notices ∨
    ∃ b, s'.workers[w]? = some b ∧ p b) (.inr ⟨a, hw, ha⟩) ?_ hrun
  intro _ mid earlier _ _ new _ ih hmove
  obtain hended | ⟨b, hb, hp⟩ := ih
  · exact .inl (List.mem_append_left _ hended)
  · obtain ⟨c, hc, hbc⟩ := hmove.turn hb
    obtain hended | hp := hturn mid b c new hp hbc
    · exact .inl (List.mem_append_right _ hended)
    · exact .inr ⟨c, hc, hp⟩

/-- A worker that was left by its caller keeps the job until the operation ends. -/
theorem held_until_ended {s s' : State σ} {events : List Event} {notices : List Notice}
    (hrun : run s events = some (s', notices)) {w : Nat} {d : Dispatch σ}
    {result : Option (Attempt Outcome)} (hw : s.workers[w]? = some (.held d result))
    (hended : .ended d.call ∉ notices) : ∃ result', s'.workers[w]? = some (.held d result') := by
  have hturn : ∀ (s : State σ) (a b : Worker σ) (new : List Notice),
      (∃ result', a = .held d result') → Turn s a b new →
      .ended d.call ∈ new ∨ ∃ result', b = .held d result' := by
    rintro s _ b new ⟨result', rfl⟩ hturn
    cases hturn with
    | rest => exact .inr ⟨_, rfl⟩
    | performHeld => exact .inr ⟨_, rfl⟩
    | finishHeld => exact .inl List.mem_cons_self
  obtain h | ⟨b, hb, result', rfl⟩ := until_ended hturn hrun hw ⟨result, rfl⟩
  · exact absurd h hended
  · exact ⟨result', hb⟩

/-- A worker keeps its call until the operation ends. -/
theorem call_until_ended {s s' : State σ} {events : List Event} {notices : List Notice}
    (hrun : run s events = some (s', notices)) {w call : Nat} {a : Worker σ}
    (hw : s.workers[w]? = some a) (ha : a.call? = some call) :
    .ended call ∈ notices ∨ ∃ b, s'.workers[w]? = some b ∧ b.call? = some call := by
  refine until_ended ?_ hrun hw ha
  intro s a b new ha hturn
  cases hturn with
  | rest | perform | performHeld | overrun => exact .inr ha
  | finish | finishHeld =>
    cases ha
    exact .inl List.mem_cons_self
  | take | exit => cases ha

/-- How a worker is taken up, as the notices tell it: not at all, by a call that was not answered,
or by one that was and whose operation goes on. -/
inductive Slot (departed : List Nat) (notices : List Notice) : Worker σ → Prop where
  | waiting : Slot departed notices .idle
  | running (d : Dispatch σ) (result : Option (Attempt Outcome))
      (inflight : d.call ∈ inFlight notices)
      (unanswered : (account notices d.call).answers = [])
      (intime : (account notices d.call).overruns = []) :
      Slot departed notices (.running d result)
  | held (d : Dispatch σ) (result : Option (Attempt Outcome)) (t : Elapsed)
      (inflight : d.call ∈ inFlight notices)
      (overran : (account notices d.call).overruns = [t])
      (answered : Told departed d.call (.error (d.operation.timeoutError t))
        (account notices d.call).answers) :
      Slot departed notices (.held d result)

/-- Until the order to stop, each worker of a sound pool has one slot, which the notices tell. -/
theorem slot_of_getElem? {config : Config} {table : Table σ} {events : List Event} {s : State σ}
    {notices : List Notice} (h : Sound config table events s notices)
    (hflight : (inFlight notices).Perm s.boundCalls) (hgo : .shutdown ∉ events) {w : Nat}
    {a : Worker σ} (hw : s.workers[w]? = some a) : Slot s.departed notices a := by
  have hbound : ∀ call, a.call? = some call → call ∈ inFlight notices := by
    intro call hcall
    exact hflight.mem_iff.mpr (List.mem_filterMap.mpr ⟨a, List.mem_of_getElem? hw, hcall⟩)
  cases a with
  | idle => exact .waiting
  | running d result =>
    obtain ⟨-, kept⟩ := h.ledger.present _ (mem_positions hw (List.mem_singleton_self _))
    generalize haccount : account notices d.call = own at kept
    cases kept
    exact .running d result (hbound _ rfl) (by rw [haccount]) (by rw [haccount])
  | held d result =>
    obtain ⟨-, kept⟩ := h.ledger.present _ (mem_positions hw (List.mem_singleton_self _))
    generalize haccount : account notices d.call = own at kept
    cases kept with
    | held _ t answers told =>
      exact .held d result t (hbound _ rfl) (by rw [haccount]) (by rw [haccount]; exact told)
  | exited => exact absurd (h.stopping_iff.mp (h.stopping_of_exited w hw)) hgo

/-- No more operations are ever in progress than there are workers, those of calls that were
answered long before included. Until the order to stop every worker waits, runs a job, or is held
by the operation of a call that was answered; a worker that is held takes no job before that
operation has ended. -/
theorem capacity_of_run {config : Config} {table : Table σ} {shared : σ} {s₀ s : State σ}
    {events : List Event} {notices : List Notice}
    (hstart : State.start config table shared = .ok s₀)
    (hrun : run s₀ events = some (s, notices)) :
    (inFlight notices).length ≤ config.workers ∧
    (inFlight notices).Nodup ∧ (inFlight notices).Perm s.boundCalls ∧
    s.workers.length = config.workers ∧
    (.shutdown ∉ events → ∀ a ∈ s.workers, Slot s.departed notices a) ∧
    ∀ (w : Nat) (d : Dispatch σ) (result : Option (Attempt Outcome)),
      s.workers[w]? = some (.held d result) →
      ∀ (after : List Event) (s' : State σ) (later : List Notice),
        run s after = some (s', later) → .ended d.call ∉ later →
        (∃ result', s'.workers[w]? = some (.held d result')) ∧ step s' (.dequeue w) = none := by
  have hsound := sound_of_run hstart hrun
  have hflight := inFlight_perm_boundCalls hstart hrun
  refine ⟨?_, ?_, hflight, hsound.length_workers, ?_, ?_⟩
  · rw [hflight.length_eq, ← hsound.length_workers]
    exact List.length_filterMap_le _ _
  · exact hflight.nodup_iff.mpr (boundCalls_nodup hsound)
  · intro hgo a ha
    obtain ⟨w, hw⟩ := List.getElem?_of_mem ha
    exact slot_of_getElem? hsound hflight hgo hw
  · intro w d result hw after s' later hafter hended
    obtain ⟨result', hw'⟩ := held_until_ended hafter hw hended
    exact ⟨⟨result', hw'⟩, by simp [step, hw']⟩

/-- The only worker is held by a call that was answered, while a second call is in the queue. -/
theorem capacity_of_overrun :
    ∃ (s : State Unit) (notices : List Notice),
      .answered 0 (.error (.timedOut ⟨1⟩)) ∈ notices ∧ inFlight notices = [0] ∧
      (inFlight notices).length ≤ 1 ∧ [0].Perm s.boundCalls ∧
      ∀ a ∈ s.workers, Slot s.departed notices a := by
  let table : Table Unit := ⟨[("echo", .echo)]⟩
  have hstart : State.start ⟨1, 1, ⟨1⟩⟩ table () = .ok (.initial ⟨1, 1, ⟨1⟩⟩ table ()) := rfl
  obtain ⟨s, hrun⟩ : ∃ s, run (.initial ⟨1, 1, ⟨1⟩⟩ table ())
      [.submit "echo" [7], .enqueue 0, .dequeue 0, .submit "echo" [8], .enqueue 0,
        .overrun 0 ⟨1⟩] =
      some (s, [.entered 0, .started 0 ⟨1, [7]⟩, .entered 1, .overran 0 ⟨1⟩,
        .answered 0 (.error (.timedOut ⟨1⟩))]) := ⟨_, rfl⟩
  obtain ⟨hcount, -, hperm, -, hslot, -⟩ := capacity_of_run hstart hrun
  exact ⟨s, _, by simp, rfl, hcount, hperm, hslot (by decide)⟩

end DerivationPool.Pool

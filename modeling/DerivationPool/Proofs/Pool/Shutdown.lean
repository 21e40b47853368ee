import DerivationPool.Proofs.Pool.Answers
import DerivationPool.Proofs.Pool.Capacity

/-!
The end of a pool. After the order to stop no job is started any more; what runs is
let finish and answered as ever, and a worker ends only when the operation that it
runs, or is held by, has returned. When the last one has ended, nothing is in
progress, and every call has had its answer: its own if it was started, and otherwise
that the pool is closed.
-/
namespace DerivationPool.Pool

variable {σ : Type}

/-- A job that was started has come to its own outcome, and its caller is told of it: what a run of
its operation on its data returned in time, be it an output or an error, or that the run panicked,
or that its time was over. -/
inductive OwnOutcome (departed : List Nat) (d : Dispatch σ) (own : Account) : Prop where
  | returned (outcome : Outcome) (result : own.results = [.returned outcome])
      (ran : ∃ shared, (d.operation.run d.job shared).1 = .returned outcome)
      (intime : own.overruns = []) (told : Told departed d.call outcome own.answers)
  | panicked (result : own.results = [.panicked])
      (ran : ∃ shared, (d.operation.run d.job shared).1 = .panicked)
      (intime : own.overruns = [])
      (told : Told departed d.call (.error .workerPanicked) own.answers)
  | overran (t : Elapsed) (overran : own.overruns = [t])
      (told : Told departed d.call (.error (d.operation.timeoutError t)) own.answers)

/-- Of a job that was started the operation still runs in time, or else its outcome is there. -/
theorem Kept.ownOutcome {departed : List Nat} {stopping : Bool} {d : Dispatch σ}
    {standing : Standing} {own : Account} (h : Kept departed stopping d standing own)
    (hran : ∀ result ∈ own.results, ∃ shared, (d.operation.run d.job shared).1 = result)
    (hstarts : own.starts ≠ []) :
    (∃ result, standing = .running result) ∨ OwnOutcome departed d own := by
  cases h with
  | waiting | queued | left | refused => exact absurd rfl hstarts
  | running result => exact .inl ⟨result, rfl⟩
  | held _ t answers told | late _ t answers told => exact .inr (.overran t rfl told)
  | returned result answers told =>
    have hrun := hran result (List.mem_singleton_self _)
    cases result with
    | returned outcome => exact .inr (.returned outcome rfl hrun rfl told)
    | panicked => exact .inr (.panicked rfl hrun rfl told)

/-- A job that was never started and is over was refused, or its caller had left. -/
theorem Kept.told_of_unstarted {departed : List Nat} {stopping : Bool} {d : Dispatch σ}
    {own : Account} (h : Kept departed stopping d .over own) (hstarts : own.starts = []) :
    Told departed d.call (.error .poolClosed) own.answers := by
  cases h with
  | left gone => exact .inr ⟨gone, rfl⟩
  | refused entries answers stopped told => exact told
  | returned | late => cases hstarts

/-! ### After the order to stop -/

/-- The order to stop is never taken back. -/
theorem Moves.stopping_mono {s s' : State σ} {event : Event} {new : List Notice}
    (h : Moves s event s' new) (hstop : s.stopping = true) : s'.stopping = true := by
  cases h with
  | shutdown => rfl
  | _ => exact hstop

/-- From a pool that stops no run starts a job. -/
theorem not_started_of_stopping {s s' : State σ} {events : List Event} {notices : List Notice}
    (hrun : run s events = some (s', notices)) (hstop : s.stopping = true) :
    s'.stopping = true ∧ ∀ call job, .started call job ∉ notices := by
  refine run_induction (P := fun _ s' notices => s'.stopping = true ∧
    ∀ call job, .started call job ∉ notices) ⟨hstop, by simp⟩ ?_ hrun
  rintro _ mid earlier _ s' new _ ⟨hstop, hnone⟩ hmove
  refine ⟨hmove.stopping_mono hstop, ?_⟩
  intro call job hmem
  obtain hmem | hmem := List.mem_append.mp hmem
  · exact hnone call job hmem
  · rw [hmove.of_started hmem] at hstop
    cases hstop

/-- A run that brings a worker to its end and leaves the others where they are. -/
def Ends (w : Nat) (s : State σ) : Prop :=
  ∃ more s' new, run s more = some (s', new) ∧ s'.stopping = true ∧
    s'.workers = s.workers.set w .exited

/-- After one step of the worker, its end is still to be reached. -/
theorem ends_of_step {s s' : State σ} {w : Nat} {event : Event} {new : List Notice} {a b : Worker σ}
    (hw : s.workers[w]? = some a) (hstep : step s event = some (s', new))
    (hworkers : s'.workers = s.workers.set w b) (hstop : s'.stopping = true)
    (h : s'.stopping = true → s'.workers[w]? = some b → Ends w s') : Ends w s := by
  have hlt := (List.getElem?_eq_some_iff.mp hw).1
  have hb : s'.workers[w]? = some b := by
    rw [hworkers]
    exact List.getElem?_set_self hlt
  obtain ⟨more, last, rest, hrun, hlast⟩ := h hstop hb
  refine ⟨event :: more, last, new ++ rest, run_of_step hstep hrun, hlast.1, ?_⟩
  rw [hlast.2, hworkers, List.set_set]

theorem ends_of_idle {s : State σ} {w : Nat} (hstop : s.stopping = true)
    (hw : s.workers[w]? = some .idle) : Ends w s := by
  have hexit : (s.exit w).1.stopping = true ∧ (s.exit w).1.workers = s.workers.set w .exited := by
    unfold State.exit
    dsimp only
    split <;> exact ⟨hstop, rfl⟩
  refine ⟨[.exit w], (s.exit w).1, (s.exit w).2, ?_, hexit⟩
  simp [run_cons, step, hstop, hw]

/-- An operation that took effect has only to return. -/
theorem ends_of_performed {s : State σ} (hstop : s.stopping = true) {w : Nat} {a : Worker σ}
    {new : List Notice} (hw : s.workers[w]? = some a)
    (hstep : step s (.finish w) = some ({ s with workers := s.workers.set w .idle }, new)) :
    Ends w s :=
  ends_of_step hw hstep rfl hstop ends_of_idle

theorem ends_of_running {s : State σ} {w : Nat} {d : Dispatch σ} {result : Attempt Outcome}
    (hstop : s.stopping = true) (hw : s.workers[w]? = some (.running d (some result))) :
    Ends w s := by
  have hstep : step s (.finish w) = some ({ s with workers := s.workers.set w .idle },
      .ended d.call :: s.answer d.call (outcomeOf result)) := by
    simp only [step, hw]
  exact ends_of_performed hstop hw hstep

/-- A worker that is held by a late operation ends once that has returned. -/
theorem ends_of_held {s : State σ} {w : Nat} {d : Dispatch σ} {result : Attempt Outcome}
    (hstop : s.stopping = true) (hw : s.workers[w]? = some (.held d (some result))) :
    Ends w s := by
  have hstep : step s (.finish w) =
      some ({ s with workers := s.workers.set w .idle }, [.ended d.call]) := by
    simp only [step, hw]
  exact ends_of_performed hstop hw hstep

/-- After the order to stop, its own steps bring every worker to its end. -/
theorem ends_of_stopping {s : State σ} (hstop : s.stopping = true) {w : Nat} {a : Worker σ}
    (hw : s.workers[w]? = some a) : Ends w s := by
  cases a with
  | idle => exact ends_of_idle hstop hw
  | running d result =>
    cases result with
    | some result => exact ends_of_running hstop hw
    | none =>
      have hstep : step s (.perform w) = some
          ({ s with
              workers := s.workers.set w (.running d (some (d.operation.run d.job s.shared).1))
              shared := (d.operation.run d.job s.shared).2 },
            [.performed d.call (d.operation.run d.job s.shared).1]) := by
        simp only [step, hw]
      exact ends_of_step hw hstep rfl hstop ends_of_running
  | held d result =>
    cases result with
    | some result => exact ends_of_held hstop hw
    | none =>
      have hstep : step s (.perform w) = some
          ({ s with
              workers := s.workers.set w (.held d (some (d.operation.run d.job s.shared).1))
              shared := (d.operation.run d.job s.shared).2 },
            [.performed d.call (d.operation.run d.job s.shared).1]) := by
        simp only [step, hw]
      exact ends_of_step hw hstep rfl hstop ends_of_held
  | exited =>
    obtain ⟨hlt, hget⟩ := List.getElem?_eq_some_iff.mp hw
    refine ⟨[], s, [], rfl, hstop, ?_⟩
    rw [← hget, List.set_getElem_self]

/-- After the order to stop, a pool can always come to its end, one worker after the other. -/
theorem closed_of_stopping {s : State σ} (hstop : s.stopping = true) :
    ∃ more s' new, run s more = some (s', new) ∧ s'.closed = true := by
  have hsome : ∀ n ≤ s.workers.length, ∃ more s' new, run s more = some (s', new) ∧
      s'.stopping = true ∧ s'.workers.length = s.workers.length ∧
      ∀ w < n, s'.workers[w]? = some .exited := by
    intro n hn
    induction n with
    | zero => exact ⟨[], s, [], rfl, hstop, rfl, by omega⟩
    | succ n ih =>
      obtain ⟨more, s', new, hrun, hstop', hlength, hexited⟩ := ih (by omega)
      have hn' : n < s'.workers.length := by omega
      obtain ⟨last, s'', rest, hrun', hstop'', hworkers⟩ :=
        ends_of_stopping hstop' (List.getElem?_eq_getElem hn')
      refine ⟨more ++ last, s'', new ++ rest, run_trans hrun hrun', hstop'', ?_, ?_⟩
      · rw [hworkers, List.length_set, hlength]
      · intro w hw
        rw [hworkers]
        by_cases heq : n = w
        · subst heq
          exact List.getElem?_set_self hn'
        · rw [List.getElem?_set_ne heq]
          exact hexited w (by omega)
  obtain ⟨more, s', new, hrun, -, hlength, hexited⟩ := hsome _ (Nat.le_refl _)
  refine ⟨more, s', new, hrun, ?_⟩
  rw [State.closed, List.all_eq_true]
  intro a ha
  obtain ⟨w, hlt, rfl⟩ := List.mem_iff_getElem.mp ha
  have hget := hexited w (by omega)
  rw [List.getElem?_eq_getElem hlt, Option.some.injEq] at hget
  rw [hget]
  rfl

/-! ### When the last worker has ended -/

theorem eq_exited_of_closed {s : State σ} (hclosed : s.closed = true) {w : Nat} {a : Worker σ}
    (hw : s.workers[w]? = some a) : a = .exited := by
  have hexited := List.all_eq_true.mp hclosed a (List.mem_of_getElem? hw)
  cases a with
  | exited => rfl
  | _ => cases hexited

/-- A pool that is closed stays so. -/
theorem closed_move {s s' : State σ} {event : Event} {new : List Notice}
    (hclosed : s.closed = true) (hmove : Moves s event s' new) : s'.closed = true := by
  cases hmove with
  | unknown | tooLate | submit | enqueue | leave | shutdown => exact hclosed
  | exitLast hstop hw hlast => exact hlast
  | dequeue hgo hw hq => cases eq_exited_of_closed hclosed hw
  | perform hw | performHeld hw | finish hw | finishHeld hw =>
    cases eq_exited_of_closed hclosed hw
  | overrun hw htime => cases eq_exited_of_closed hclosed hw
  | exit hstop hw hopen => cases eq_exited_of_closed hclosed hw

theorem closed_run {s s' : State σ} {events : List Event} {notices : List Notice}
    (hclosed : s.closed = true) (hrun : run s events = some (s', notices)) : s'.closed = true :=
  run_induction (P := fun _ s' _ => s'.closed = true) hclosed
    (fun _ _ _ _ _ _ _ h hmove => closed_move h hmove) hrun

def refusal (table : Table σ) (name : String) : JobError :=
  match table.get? name with
  | none => .unknownOperation name
  | some _ => .poolClosed

theorem submit_of_closed {s : State σ} (hclosed : s.closed = true) (name : String) (data : Bytes) :
    (s.submit name data).2 = [.answered s.nextCall (.error (refusal s.table name))] := by
  have h : s.workers.all Worker.hasExited = true := hclosed
  cases hop : s.table.get? name <;> simp [State.submit, State.closed, refusal, hop, h]

section Run

variable {config : Config} {table : Table σ} {shared : σ} {s₀ s₁ s : State σ}
  {before after events : List Event} {earlier later notices : List Notice}

/-- When the last worker has ended no job is left anywhere. -/
theorem positions_of_closed (h : Sound config table events s notices) (hclosed : s.closed = true) :
    s.positions = [] := by
  have hworkers : s.workers.flatMap Worker.positions = [] := by
    rw [List.flatMap_eq_nil_iff]
    intro a ha
    obtain ⟨w, hw⟩ := List.getElem?_of_mem ha
    rw [eq_exited_of_closed hclosed hw]
    rfl
  rw [State.positions, h.empty_of_closed hclosed, hworkers, List.append_nil]

/-- In a closed pool every job is over. -/
theorem over_of_closed (h : Sound config table events s notices) (hclosed : s.closed = true)
    {call : Nat} {name : String} {data : Bytes} {operation : Operation σ}
    (hget : (requests events)[call]? = some (name, data))
    (hop : table.get? name = some operation) :
    Kept s.departed s.stopping (filed table (requests events) call operation data) .over
      (account notices call) := by
  obtain ⟨standing, kept, hin | rfl⟩ := h.ledger.standing hget hop
  · rw [positions_of_closed h hclosed] at hin
    cases hin
  · exact kept

/-- A job that a worker runs either still runs later, or has come to its own outcome. -/
theorem running_or_ownOutcome (hstart : State.start config table shared = .ok s₀)
    (hbefore : run s₀ before = some (s₁, earlier)) (hafter : run s₁ after = some (s, later))
    {w : Nat} {d : Dispatch σ} {result : Option (Attempt Outcome)}
    (hw : s₁.workers[w]? = some (.running d result)) :
    (∃ result', .running d result' ∈ s.workers) ∨
      OwnOutcome s.departed d (account (earlier ++ later) d.call) := by
  have hfirst := sound_of_run hstart hbefore
  have hrun := run_trans hbefore hafter
  have hsound := sound_of_run hstart hrun
  obtain ⟨hfiled, kept⟩ := hfirst.ledger.present _ (mem_positions hw (List.mem_singleton_self _))
  have hstarted : d.job ∈ (account (earlier ++ later) d.call).starts := by
    rw [mem_starts]
    refine List.mem_append_left _ ((mem_starts _ _ _).mp ?_)
    generalize account earlier d.call = own at kept
    cases kept
    exact List.mem_singleton_self _
  have hfiled' := hfiled.append (requests after)
  rw [← requests_append] at hfiled'
  obtain ⟨name, hget, hop⟩ := hfiled'.asked_for
  have hserved := served_of_run hstart hrun hget hop
  obtain ⟨standing, kept', hin⟩ := hsound.ledger.standing hget hop
  rw [← hfiled'.eq_filed hget hop] at kept' hin hserved
  obtain ⟨result', rfl⟩ | hown :=
    kept'.ownOutcome (fun result hresult => (hserved.ran result hresult).exists_run)
      (List.ne_nil_of_mem hstarted)
  · refine .inl ⟨result', ?_⟩
    obtain hin | hover := hin
    · exact mem_workers_of_running hin
    · cases hover
  · exact .inr hown

/-- What an order to stop in state `s₁` has led to in a later state `s`. -/
structure Stopped (s₁ s : State σ) (notices later : List Notice) : Prop where
  starts_none : ∀ call job, .started call job ∉ later
  running_answered : ∀ d result, .running d result ∈ s₁.workers →
    (∃ result', .running d result' ∈ s.workers) ∨
      OwnOutcome s.departed d (account notices d.call)
  /-- A worker that had a call has ended only if the operation of the call has. -/
  ended_first : ∀ (w call : Nat) (a : Worker σ), s₁.workers[w]? = some a →
    a.call? = some call → s.workers[w]? = some .exited → .ended call ∈ later
  /-- Nothing keeps the pool from coming to its end. -/
  closes : ∃ more s' new, run s more = some (s', new) ∧ s'.closed = true

/-- What holds when the last worker has ended. -/
structure Drained (table : Table σ) (events : List Event) (s : State σ) (notices : List Notice) :
    Prop where
  nothing_in_flight : inFlight notices = []
  /-- Who was never started is refused, unless the caller has left. -/
  refused : ∀ (call : Nat) (name : String) (data : Bytes) (operation : Operation σ),
    (requests events)[call]? = some (name, data) → table.get? name = some operation →
    (account notices call).starts = [] →
    Told s.departed call (.error .poolClosed) (account notices call).answers
  /-- Who was started has its own outcome. -/
  answered : ∀ (call : Nat) (name : String) (data : Bytes) (operation : Operation σ),
    (requests events)[call]? = some (name, data) → table.get? name = some operation →
    (account notices call).starts ≠ [] →
    OwnOutcome s.departed (filed table (requests events) call operation data)
      (account notices call)
  refuses : ∀ (more : List Event) (s' : State σ) (new : List Notice),
    run s more = some (s', new) → ∀ (name : String) (data : Bytes), ∃ s'',
      step s' (.submit name data) =
        some (s'', [.answered s'.nextCall (.error (refusal table name))])

/-- Whatever happens before and after an order to stop, this is what it leads to. -/
theorem stopped_of_run (hstart : State.start config table shared = .ok s₀)
    (hbefore : run s₀ before = some (s₁, earlier))
    (hafter : run s₁ (.shutdown :: after) = some (s, later)) :
    Stopped s₁ s (earlier ++ later) later := by
  obtain ⟨hstop, hstarts⟩ : s.stopping = true ∧ ∀ call job, .started call job ∉ later := by
    obtain ⟨rest, hrest, rfl⟩ : ∃ rest, run { s₁ with stopping := true } after = some (s, rest) ∧
        later = rest := by
      rw [run_cons] at hafter
      obtain ⟨⟨s', rest⟩, hrest, heq⟩ := Option.map_eq_some_iff.mp hafter
      cases heq
      exact ⟨rest, hrest, rfl⟩
    exact not_started_of_stopping hrest rfl
  refine ⟨hstarts, ?_, ?_, closed_of_stopping hstop⟩
  · intro d result hmem
    obtain ⟨w, hw⟩ := List.getElem?_of_mem hmem
    exact running_or_ownOutcome hstart hbefore hafter hw
  · intro w call a hw ha hexited
    obtain hended | ⟨b, hb, hcall⟩ := call_until_ended hafter hw ha
    · exact hended
    · rw [hexited] at hb
      cases hb
      cases hcall

/-- A closed pool has nothing in progress, and every caller that stayed has its answer. -/
theorem drained_of_closed (hstart : State.start config table shared = .ok s₀)
    (hrun : run s₀ events = some (s, notices)) (hclosed : s.closed = true) :
    Drained table events s notices := by
  have hsound := sound_of_run hstart hrun
  refine ⟨?_, ?_, ?_, ?_⟩
  · have hbound : s.boundCalls = [] := by
      rw [boundCalls_eq, List.map_eq_nil_iff]
      exact (List.append_eq_nil_iff.mp (positions_of_closed hsound hclosed)).2
    have hperm := inFlight_perm_boundCalls hstart hrun
    rw [hbound] at hperm
    exact hperm.eq_nil
  · intro call name data operation hget hop hstarts
    exact (over_of_closed hsound hclosed hget hop).told_of_unstarted hstarts
  · intro call name data operation hget hop hstarts
    have hserved := served_of_run hstart hrun hget hop
    obtain ⟨result, hrunning⟩ | hown :=
      (over_of_closed hsound hclosed hget hop).ownOutcome
        (fun result hresult => (hserved.ran result hresult).exists_run) hstarts
    · cases hrunning
    · exact hown
  · intro more s' new hmore name data
    have hrun' := run_trans hrun hmore
    refine ⟨(s'.submit name data).1, ?_⟩
    rw [← (sound_of_run hstart hrun').table_eq,
      ← submit_of_closed (closed_run hclosed hmore) name data]
    rfl

/-- From the order to stop on no job is started, the running ones come to their own outcomes, and
workers end only with their operations. The workers of a pool end only after such an order, and
once they all have, every call is answered, and refused if it comes later. -/
theorem shutdown_of_run (hstart : State.start config table shared = .ok s₀)
    (hrun : run s₀ events = some (s, notices)) :
    (∀ (before after : List Event) (s₁ : State σ) (earlier later : List Notice),
      events = before ++ .shutdown :: after → run s₀ before = some (s₁, earlier) →
      run s₁ (.shutdown :: after) = some (s, later) → Stopped s₁ s notices later) ∧
    (s.closed = true → .shutdown ∈ events ∧ Drained table events s notices) := by
  refine ⟨?_, ?_⟩
  · rintro before after s₁ earlier later rfl hbefore hafter
    cases hrun.symm.trans (run_trans hbefore hafter)
    exact stopped_of_run hstart hbefore hafter
  · intro hclosed
    have hsound := sound_of_run hstart hrun
    have hstop := hsound.stopping_of_closed (start_eq_ok hstart).2 hclosed
    exact ⟨hsound.stopping_iff.mp hstop, drained_of_closed hstart hrun hclosed⟩

end Run

/-- The order to stop comes while four workers run jobs, one job is in the queue and one waits for
space. Of the four one gives an output, one an error, one panics, and the last takes too long. -/
theorem shutdown_under_load :
    ∃ (s₁ s : State Unit) (notices later : List Notice),
      (account notices 0).answers = [.ok [7]] ∧
      (account notices 1).answers = [.error (.invalidJob "no")] ∧
      (account notices 2).answers = [.error .workerPanicked] ∧
      (account notices 3).answers = [.error (.timedOut ⟨1⟩)] ∧
      (account notices 4).answers = [.error .poolClosed] ∧
      (account notices 5).answers = [.error .poolClosed] ∧
      Stopped s₁ s notices later ∧ inFlight notices = [] := by
  obtain ⟨table, s₀, s₁, s, hstart, hbefore, hafter, hclosed⟩ :
      ∃ (table : Table Unit) (s₀ s₁ s : State Unit), State.start ⟨4, 1, ⟨1⟩⟩ table () = .ok s₀ ∧
        run s₀
          [.submit "echo" [7], .submit "fail" [], .submit "boom" [], .submit "echo" [8],
            .submit "echo" [9], .submit "fail" [], .enqueue 0, .dequeue 0, .enqueue 0, .dequeue 1,
            .enqueue 0, .dequeue 2, .enqueue 0, .dequeue 3, .enqueue 0] =
          some (s₁,
            [.entered 0, .started 0 ⟨1, [7]⟩, .entered 1, .started 1 ⟨2, []⟩, .entered 2,
              .started 2 ⟨3, []⟩, .entered 3, .started 3 ⟨4, [8]⟩, .entered 4]) ∧
        run s₁
          [.shutdown, .perform 0, .finish 0, .exit 0, .perform 1, .finish 1, .exit 1, .perform 2,
            .finish 2, .exit 2, .overrun 3 ⟨1⟩, .perform 3, .finish 3, .exit 3] =
          some (s,
            [.performed 0 (.returned (.ok [7])), .ended 0, .answered 0 (.ok [7]),
              .performed 1 (.returned (.error (.invalidJob "no"))), .ended 1,
              .answered 1 (.error (.invalidJob "no")), .performed 2 .panicked, .ended 2,
              .answered 2 (.error .workerPanicked), .overran 3 ⟨1⟩,
              .answered 3 (.error (.timedOut ⟨1⟩)), .performed 3 (.returned (.ok [8])), .ended 3,
              .answered 4 (.error .poolClosed), .answered 5 (.error .poolClosed)]) ∧
        s.closed = true :=
    ⟨⟨[("echo", .echo), ("fail", .fail (.invalidJob "no")), ("boom", .panic)]⟩,
      .initial ⟨4, 1, ⟨1⟩⟩ ⟨[("echo", .echo), ("fail", .fail (.invalidJob "no")), ("boom", .panic)]⟩ (),
      { config := ⟨4, 1, ⟨1⟩⟩
        table := ⟨[("echo", .echo), ("fail", .fail (.invalidJob "no")), ("boom", .panic)]⟩
        shared := ()
        nextJob := 7
        nextCall := 6
        waiting := [⟨5, .fail (.invalidJob "no"), ⟨6, []⟩⟩]
        queue := [⟨4, .echo, ⟨5, [9]⟩⟩]
        workers := [.running ⟨0, .echo, ⟨1, [7]⟩⟩ none,
          .running ⟨1, .fail (.invalidJob "no"), ⟨2, []⟩⟩ none,
          .running ⟨2, .panic, ⟨3, []⟩⟩ none, .running ⟨3, .echo, ⟨4, [8]⟩⟩ none]
        stopping := false
        departed := [] },
      _, rfl, rfl, rfl, rfl⟩
  obtain ⟨hstopped, hdrained⟩ := shutdown_of_run hstart (run_trans hbefore hafter)
  exact ⟨_, _, _, _, rfl, rfl, rfl, rfl, rfl, rfl, hstopped _ _ _ _ _ rfl hbefore hafter,
    (hdrained hclosed).2.nothing_in_flight⟩

end DerivationPool.Pool

import DerivationPool.Proofs.Pool.Invariant
import Mathlib.Data.List.Forall2

/-!
Two pools side by side. Where every call finds operations in both that are alike, whatever
happens to one pool can happen to the other: events that are possible in one are possible
in the other, and what is noticed of them is alike too. What it means for two outcomes to
be alike may differ from call to call; only failures always have to be like themselves.
-/
namespace DerivationPool

variable {σ : Type}

/-- Two attempts that both panicked, or came to values that are alike. -/
inductive Attempt.Alike {α β : Type} (R : α → β → Prop) : Attempt α → Attempt β → Prop where
  | returned {a : α} {b : β} (value : R a b) : Alike R (.returned a) (.returned b)
  | panicked : Alike R .panicked .panicked

theorem Attempt.Alike.mono {α β : Type} {R S : α → β → Prop} {first : Attempt α}
    {second : Attempt β} (h : first.Alike R second) (himp : ∀ a b, R a b → S a b) :
    first.Alike S second := by
  cases h with
  | returned value => exact .returned (himp _ _ value)
  | panicked => exact .panicked

/-- Two operations that leave the same state behind and come to outcomes that are alike. -/
structure Operation.Alike (R : Outcome → Outcome → Prop) (operation other : Operation σ) : Prop where
  result : ∀ job state, Attempt.Alike R (operation.run job state).1 (other.run job state).1
  shared_eq : ∀ job state, (operation.run job state).2 = (other.run job state).2
  timeoutError_eq : operation.timeoutError = other.timeoutError

namespace Operation.Alike

variable {R S : Outcome → Outcome → Prop} {operation other : Operation σ}

/-- An operation is like itself where outcomes are like themselves. -/
theorem of_refl (hR : ∀ outcome, R outcome outcome) (operation : Operation σ) :
    operation.Alike R operation where
  result job state := by
    cases (operation.run job state).1 with
    | returned outcome => exact .returned (hR outcome)
    | panicked => exact .panicked
  shared_eq _ _ := rfl
  timeoutError_eq := rfl

theorem mono (h : operation.Alike R other) (himp : ∀ outcome outcome', R outcome outcome' →
    S outcome outcome') : operation.Alike S other where
  result job state := (h.result job state).mono himp
  shared_eq := h.shared_eq
  timeoutError_eq := h.timeoutError_eq

end Operation.Alike

namespace Pool

/-- When two outcomes of a call are alike. -/
abbrev Likeness := Nat → Outcome → Outcome → Prop

variable {E : Likeness}

structure Dispatch.Alike (E : Likeness) (d d' : Dispatch σ) : Prop where
  call_eq : d.call = d'.call
  job_eq : d.job = d'.job
  operation : d.operation.Alike (E d.call) d'.operation

inductive Worker.Alike (E : Likeness) : Worker σ → Worker σ → Prop where
  | idle : Alike E .idle .idle
  | running {d d' : Dispatch σ} {result result' : Option (Attempt Outcome)}
      (dispatch : d.Alike E d') (results : Option.Rel (Attempt.Alike (E d.call)) result result') :
      Alike E (.running d result) (.running d' result')
  | held {d d' : Dispatch σ} {result result' : Option (Attempt Outcome)}
      (dispatch : d.Alike E d') (results : Option.Rel (Attempt.Alike (E d.call)) result result') :
      Alike E (.held d result) (.held d' result')
  | exited : Alike E .exited .exited

/-- Two pools that differ at most in their operations and in what these have come to. -/
structure State.Alike (E : Likeness) (s t : State σ) : Prop where
  config_eq : s.config = t.config
  shared_eq : s.shared = t.shared
  nextJob_eq : s.nextJob = t.nextJob
  nextCall_eq : s.nextCall = t.nextCall
  stopping_eq : s.stopping = t.stopping
  departed_eq : s.departed = t.departed
  waiting : List.Forall₂ (Dispatch.Alike E) s.waiting t.waiting
  queue : List.Forall₂ (Dispatch.Alike E) s.queue t.queue
  workers : List.Forall₂ (Worker.Alike E) s.workers t.workers

inductive Notice.Alike (E : Likeness) : Notice → Notice → Prop where
  | entered (call : Nat) : Alike E (.entered call) (.entered call)
  | started (call : Nat) (job : Job) : Alike E (.started call job) (.started call job)
  | performed {call : Nat} {result result' : Attempt Outcome}
      (results : Attempt.Alike (E call) result result') :
      Alike E (.performed call result) (.performed call result')
  | overran (call : Nat) (elapsed : Elapsed) :
      Alike E (.overran call elapsed) (.overran call elapsed)
  | ended (call : Nat) : Alike E (.ended call) (.ended call)
  | answered {call : Nat} {outcome outcome' : Outcome} (outcomes : E call outcome outcome') :
      Alike E (.answered call outcome) (.answered call outcome')

section Lists

variable {α β : Type} {R : α → β → Prop} {l : List α} {l' : List β}

theorem eq_none_of_rel {b : Option β} (h : Option.Rel R none b) : b = none := by
  cases h
  rfl

theorem exists_of_rel_some {a : α} {b : Option β} (h : Option.Rel R (some a) b) :
    ∃ c, b = some c ∧ R a c := by
  cases h with
  | some hvalue => exact ⟨_, rfl, hvalue⟩

theorem exists_getElem?_of_forall₂ (h : List.Forall₂ R l l') {i : Nat} {a : α}
    (ha : l[i]? = some a) : ∃ b, l'[i]? = some b ∧ R a b := by
  induction h generalizing i with
  | nil => cases ha
  | cons hfirst _ ih =>
    cases i with
    | zero =>
      cases ha
      exact ⟨_, rfl, hfirst⟩
    | succ i => exact ih ha

theorem forall₂_set (h : List.Forall₂ R l l') (i : Nat) {a : α} {b : β} (hab : R a b) :
    List.Forall₂ R (l.set i a) (l'.set i b) := by
  induction h generalizing i with
  | nil => exact .nil
  | cons hfirst hrest ih =>
    cases i with
    | zero => exact .cons hab hrest
    | succ i => exact .cons hfirst (ih i)

theorem forall₂_eraseIdx (h : List.Forall₂ R l l') (i : Nat) :
    List.Forall₂ R (l.eraseIdx i) (l'.eraseIdx i) := by
  induction h generalizing i with
  | nil => exact .nil
  | cons hfirst hrest ih =>
    cases i with
    | zero => exact hrest
    | succ i => exact .cons hfirst (ih i)

end Lists

/-- Pools that are alike have ended alike. -/
theorem all_hasExited_eq {workers workers' : List (Worker σ)}
    (h : List.Forall₂ (Worker.Alike E) workers workers') :
    workers.all Worker.hasExited = workers'.all Worker.hasExited := by
  induction h with
  | nil => rfl
  | cons hfirst _ ih =>
    rw [List.all_cons, List.all_cons, ih]
    cases hfirst <;> rfl

/-- Callers that have left one pool have left the other, so both answer or neither does. -/
theorem forall₂_answer {s t : State σ} (h : s.departed = t.departed) {call : Nat}
    {outcome outcome' : Outcome} (houtcomes : E call outcome outcome') :
    List.Forall₂ (Notice.Alike E) (s.answer call outcome) (t.answer call outcome') := by
  rw [State.answer, State.answer, h]
  split
  · exact .nil
  · exact .cons (.answered houtcomes) .nil

section Counterparts

variable {d d' : Dispatch σ} {result : Option (Attempt Outcome)}

/-- The counterpart of a dispatch differs from it in the operation. -/
theorem Dispatch.Alike.exists_operation (h : d.Alike E d') :
    ∃ operation', d' = ⟨d.call, operation', d.job⟩ ∧ d.operation.Alike (E d.call) operation' := by
  obtain ⟨hcall, hjob, halike⟩ := h
  exact ⟨d'.operation, by rw [hcall, hjob], halike⟩

section Workers

variable {workers workers' : List (Worker σ)} {w : Nat}

/-- Where a worker runs a job, the worker at its place in the other pool runs the counterpart. -/
theorem exists_running_of_forall₂ (h : List.Forall₂ (Worker.Alike E) workers workers')
    (hw : workers[w]? = some (.running d result)) :
    ∃ operation' result', workers'[w]? = some (.running ⟨d.call, operation', d.job⟩ result') ∧
      d.operation.Alike (E d.call) operation' ∧
      Option.Rel (Attempt.Alike (E d.call)) result result' := by
  obtain ⟨b, hw', halike⟩ := exists_getElem?_of_forall₂ h hw
  cases halike with
  | running hdispatch hresults =>
    obtain ⟨operation', rfl, hoperation⟩ := hdispatch.exists_operation
    exact ⟨operation', _, hw', hoperation, hresults⟩

theorem exists_held_of_forall₂ (h : List.Forall₂ (Worker.Alike E) workers workers')
    (hw : workers[w]? = some (.held d result)) :
    ∃ operation' result', workers'[w]? = some (.held ⟨d.call, operation', d.job⟩ result') ∧
      d.operation.Alike (E d.call) operation' ∧
      Option.Rel (Attempt.Alike (E d.call)) result result' := by
  obtain ⟨b, hw', halike⟩ := exists_getElem?_of_forall₂ h hw
  cases halike with
  | held hdispatch hresults =>
    obtain ⟨operation', rfl, hoperation⟩ := hdispatch.exists_operation
    exact ⟨operation', _, hw', hoperation, hresults⟩

theorem idle_of_forall₂ (h : List.Forall₂ (Worker.Alike E) workers workers')
    (hw : workers[w]? = some .idle) : workers'[w]? = some .idle := by
  obtain ⟨b, hw', halike⟩ := exists_getElem?_of_forall₂ h hw
  cases halike
  exact hw'

end Workers

/-- A caller is told of attempts that are alike in outcomes that are alike. -/
theorem outcomeOf_alike (hE : ∀ call e, E call (.error e) (.error e)) {call : Nat}
    {first second : Attempt Outcome} (h : first.Alike (E call) second) :
    E call (outcomeOf first) (outcomeOf second) := by
  cases h with
  | returned hvalue => exact hvalue
  | panicked => exact hE call .workerPanicked

end Counterparts

section Move

variable {s t s' : State σ} {event : Event} {new : List Notice}

/-- What can happen to one pool can happen to the other. -/
theorem Moves.counterpart (hE : ∀ call e, E call (.error e) (.error e)) (hmove : Moves s event s' new)
    (h : s.Alike E t)
    (hasked : ∀ name data, event = .submit name data →
      Option.Rel (Operation.Alike (E s.nextCall)) (s.table.get? name) (t.table.get? name)) :
    ∃ t' new', Moves t event t' new' ∧ s'.Alike E t' ∧
      List.Forall₂ (Notice.Alike E) new new' := by
  -- Of the other pool only the table, the lists and what is in them are its own.
  obtain ⟨config, table', shared, nextJob, nextCall, waiting', queue', workers', stopping,
    departed⟩ := t
  obtain ⟨rfl, rfl, rfl, rfl, rfl, rfl, hwaiting, hqueue, hworkers⟩ := h
  dsimp only at hwaiting hqueue hworkers hasked
  have hset := forall₂_set hworkers
  have hclosed_eq := all_hasExited_eq hworkers
  cases hmove with
  | @unknown name data hop =>
    have hop' := eq_none_of_rel (hop ▸ hasked name data rfl)
    exact ⟨_, _, .unknown hop', ⟨rfl, rfl, rfl, rfl, rfl, rfl, hwaiting, hqueue, hworkers⟩,
      .cons (.answered (hE _ _)) .nil⟩
  | @tooLate name data operation hop hclosed =>
    obtain ⟨operation', hop', -⟩ := exists_of_rel_some (hop ▸ hasked name data rfl)
    exact ⟨_, _, .tooLate hop' (hclosed_eq.symm.trans hclosed),
      ⟨rfl, rfl, rfl, rfl, rfl, rfl, hwaiting, hqueue, hworkers⟩,
      .cons (.answered (hE _ _)) .nil⟩
  | @submit name data operation hop hopen =>
    obtain ⟨operation', hop', halike⟩ := exists_of_rel_some (hop ▸ hasked name data rfl)
    exact ⟨_, _, .submit hop' (hclosed_eq.symm.trans hopen),
      ⟨rfl, rfl, rfl, rfl, rfl, rfl,
        List.rel_append hwaiting (.cons ⟨rfl, rfl, halike⟩ .nil), hqueue, hworkers⟩, .nil⟩
  | enqueue hd hspace =>
    obtain ⟨d', hd', hdispatch⟩ := exists_getElem?_of_forall₂ hwaiting hd
    obtain ⟨operation', rfl, halike⟩ := hdispatch.exists_operation
    exact ⟨_, _, .enqueue hd' (hqueue.length_eq ▸ hspace),
      ⟨rfl, rfl, rfl, rfl, rfl, rfl, forall₂_eraseIdx hwaiting _,
        List.rel_append hqueue (.cons ⟨rfl, rfl, halike⟩ .nil), hworkers⟩,
      .cons (.entered _) .nil⟩
  | dequeue hgo hw hq =>
    have hw' := idle_of_forall₂ hworkers hw
    rw [hq] at hqueue
    obtain ⟨d', rest', hdispatch, hrest, rfl⟩ := List.forall₂_cons_left_iff.mp hqueue
    obtain ⟨operation', rfl, halike⟩ := hdispatch.exists_operation
    exact ⟨_, _, .dequeue hgo hw' rfl,
      ⟨rfl, rfl, rfl, rfl, rfl, rfl, hwaiting, hrest,
        hset _ (.running ⟨rfl, rfl, halike⟩ .none)⟩,
      .cons (.started _ _) .nil⟩
  | @perform w d hw =>
    obtain ⟨operation', result', hw', halike, ⟨⟩⟩ := exists_running_of_forall₂ hworkers hw
    have hresult := halike.result d.job s.shared
    exact ⟨_, _, .perform hw',
      ⟨rfl, halike.shared_eq _ _, rfl, rfl, rfl, rfl, hwaiting, hqueue,
        hset _ (.running ⟨rfl, rfl, halike⟩ (.some hresult))⟩,
      .cons (.performed hresult) .nil⟩
  | @performHeld w d hw =>
    obtain ⟨operation', result', hw', halike, ⟨⟩⟩ := exists_held_of_forall₂ hworkers hw
    have hresult := halike.result d.job s.shared
    exact ⟨_, _, .performHeld hw',
      ⟨rfl, halike.shared_eq _ _, rfl, rfl, rfl, rfl, hwaiting, hqueue,
        hset _ (.held ⟨rfl, rfl, halike⟩ (.some hresult))⟩,
      .cons (.performed hresult) .nil⟩
  | finish hw =>
    obtain ⟨operation', result', hw', halike, hresults⟩ := exists_running_of_forall₂ hworkers hw
    cases hresults with
    | some hresult =>
      exact ⟨_, _, .finish hw',
        ⟨rfl, rfl, rfl, rfl, rfl, rfl, hwaiting, hqueue, hset _ .idle⟩,
        .cons (.ended _) (forall₂_answer rfl (outcomeOf_alike hE hresult))⟩
  | finishHeld hw =>
    obtain ⟨operation', result', hw', halike, hresults⟩ := exists_held_of_forall₂ hworkers hw
    cases hresults with
    | some hresult =>
      exact ⟨_, _, .finishHeld hw',
        ⟨rfl, rfl, rfl, rfl, rfl, rfl, hwaiting, hqueue, hset _ .idle⟩, .cons (.ended _) .nil⟩
  | overrun hw htime =>
    obtain ⟨operation', result', hw', halike, hresults⟩ := exists_running_of_forall₂ hworkers hw
    refine ⟨_, _, .overrun hw' htime,
      ⟨rfl, rfl, rfl, rfl, rfl, rfl, hwaiting, hqueue,
        hset _ (.held ⟨rfl, rfl, halike⟩ hresults)⟩,
      .cons (.overran _ _) (forall₂_answer rfl ?_)⟩
    rw [halike.timeoutError_eq]
    exact hE _ _
  | leave hcall =>
    refine ⟨_, _, .leave hcall, ⟨rfl, rfl, rfl, rfl, rfl, rfl, ?_, hqueue, hworkers⟩, .nil⟩
    refine List.rel_filter ?_ hwaiting
    intro d d' hdispatch
    simp only [hdispatch.call_eq]
  | shutdown =>
    exact ⟨_, _, .shutdown, ⟨rfl, rfl, rfl, rfl, rfl, rfl, hwaiting, hqueue, hworkers⟩, .nil⟩
  | exit hstop hw hopen =>
    have hw' := idle_of_forall₂ hworkers hw
    exact ⟨_, _, .exit hstop hw' ((all_hasExited_eq (hset _ .exited)).symm.trans hopen),
      ⟨rfl, rfl, rfl, rfl, rfl, rfl, hwaiting, hqueue, hset _ .exited⟩, .nil⟩
  | exitLast hstop hw hclosed =>
    have hw' := idle_of_forall₂ hworkers hw
    refine ⟨_, _, .exitLast hstop hw' ((all_hasExited_eq (hset _ .exited)).symm.trans hclosed),
      ⟨rfl, rfl, rfl, rfl, rfl, rfl, .nil, .nil, hset _ .exited⟩, ?_⟩
    refine List.rel_flatMap (List.rel_append hqueue hwaiting) ?_
    intro d d' hdispatch
    dsimp only
    rw [← hdispatch.call_eq]
    exact forall₂_answer rfl (hE _ _)

end Move

section Run

variable {config : Config} {table table' : Table σ} {shared : σ} {s₀ t₀ s : State σ}
  {events : List Event} {notices notices' : List Notice}

/-- Pools of one configuration start alike, whatever their tables are. -/
theorem State.Alike.initial (config : Config) (table table' : Table σ) (shared : σ) :
    (State.initial config table shared).Alike E (.initial config table' shared) where
  config_eq := rfl
  shared_eq := rfl
  nextJob_eq := rfl
  nextCall_eq := rfl
  stopping_eq := rfl
  departed_eq := rfl
  waiting := .nil
  queue := .nil
  workers := List.forall₂_same.mpr fun a ha => by
    rw [List.eq_of_mem_replicate ha]
    exact .idle

/-- A run of one pool is a run of the other, step by step. -/
theorem run_counterpart (hE : ∀ call e, E call (.error e) (.error e))
    (hstart : State.start config table shared = .ok s₀)
    (hstart' : State.start config table' shared = .ok t₀)
    (hasked : ∀ call name data, (requests events)[call]? = some (name, data) →
      Option.Rel (Operation.Alike (E call)) (table.get? name) (table'.get? name))
    (hrun : run s₀ events = some (s, notices)) :
    ∃ t notices', run t₀ events = some (t, notices') ∧ s.Alike E t ∧
      List.Forall₂ (Notice.Alike E) notices notices' := by
  refine run_induction (P := fun events s notices =>
    (∀ call name data, (requests events)[call]? = some (name, data) →
      Option.Rel (Operation.Alike (E call)) (table.get? name) (table'.get? name)) →
    ∃ t notices', run t₀ events = some (t, notices') ∧ s.Alike E t ∧
      List.Forall₂ (Notice.Alike E) notices notices') ?_ ?_ hrun hasked
  · intro _
    rw [(start_eq_ok hstart).1, (start_eq_ok hstart').1]
    exact ⟨_, [], rfl, .initial config table table' shared, .nil⟩
  · intro events s notices event s' new hrun ih hmove hasked
    have hbefore : ∀ (call : Nat) name data, (requests events)[call]? = some (name, data) →
        (requests (events ++ [event]))[call]? = some (name, data) := by
      intro call name data hget
      rw [requests_append, List.getElem?_append_left (List.getElem?_eq_some_iff.mp hget).1, hget]
    obtain ⟨t, earlier', hrun', halike, hnotices⟩ :=
      ih fun call name data hget => hasked call name data (hbefore call name data hget)
    have hsound := sound_of_run hstart hrun
    have hsound' := sound_of_run hstart' hrun'
    obtain ⟨t', new', hmove', halike', hnew⟩ := hmove.counterpart hE halike (by
      rintro name data rfl
      rw [hsound.table_eq, hsound'.table_eq, hsound.nextCall_eq]
      refine hasked _ name data ?_
      rw [requests_append, List.getElem?_append_right (Nat.le_refl _), Nat.sub_self]
      rfl)
    refine ⟨t', earlier' ++ new', ?_, halike', List.rel_append hnotices hnew⟩
    rw [run_append, hrun', Option.bind_some, run_cons, step_of_moves hmove', Option.bind_some,
      run_nil, Option.map_some, Option.map_some, List.append_nil]

/-- An answer has its counterpart. -/
theorem exists_answered (h : List.Forall₂ (Notice.Alike E) notices notices') {call : Nat}
    {outcome : Outcome} (hmem : .answered call outcome ∈ notices) :
    ∃ outcome', .answered call outcome' ∈ notices' ∧ E call outcome outcome' := by
  obtain ⟨i, hi⟩ := List.getElem?_of_mem hmem
  obtain ⟨n, hn, halike⟩ := exists_getElem?_of_forall₂ h hi
  cases halike with
  | answered houtcomes => exact ⟨_, List.mem_of_getElem? hn, houtcomes⟩

end Run

end Pool

end DerivationPool

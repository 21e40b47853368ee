import DerivationPool.Proofs.Pool.Invariant

/-!
What callers are told. A call of an operation that is not registered is refused and
leaves no other trace. Any other call is answered at most once, and every answer has
one of four grounds: the operation returned it, it took too long, it panicked, or
the pool was closed before it was started. What an operation came to is the result
of one run of the operation that was asked for, on the data of that very call.
-/
namespace DerivationPool.Pool

variable {σ : Type}

/-- What entitles a caller to an answer, by all that is noticed of its call. -/
inductive Grounds (config : Config) (events : List Event) (operation : Operation σ)
    (own : Account) : Outcome → Prop where
  | returned (outcome : Outcome) (result : own.results = [.returned outcome])
      (intime : own.overruns = []) (ended : own.endings = 1) :
      Grounds config events operation own outcome
  | overran (t : Elapsed) (time : config.jobTimeout.nanos ≤ t.nanos)
      (overran : own.overruns = [t]) :
      Grounds config events operation own (.error (operation.timeoutError t))
  | panicked (result : own.results = [.panicked]) (intime : own.overruns = [])
      (ended : own.endings = 1) :
      Grounds config events operation own (.error .workerPanicked)
  | refused (stopped : .shutdown ∈ events) (unstarted : own.starts = [])
      (idle : own.results = []) :
      Grounds config events operation own (.error .poolClosed)

/-- A job was performed in the course of a run, by a worker that had it then, with this result. -/
def Ran (s₀ : State σ) (events : List Event) (d : Dispatch σ) (result : Attempt Outcome) : Prop :=
  ∃ (earlier : List Event) (w : Nat) (later : List Event) (s : State σ) (notices : List Notice),
    events = earlier ++ .perform w :: later ∧ run s₀ earlier = some (s, notices) ∧
    (s.workers[w]? = some (.running d none) ∨ s.workers[w]? = some (.held d none)) ∧
    result = (d.operation.run d.job s.shared).1

/-- A call of a registered operation, by all that is noticed of it. -/
structure Served (config : Config) (s₀ : State σ) (events : List Event) (d : Dispatch σ)
    (own : Account) : Prop where
  answers_le : own.answers.length ≤ 1
  starts_le : own.starts.length ≤ 1
  results_le : own.results.length ≤ 1
  starts_eq : ∀ job ∈ own.starts, job = d.job
  ran : ∀ result ∈ own.results, Ran s₀ events d result
  /-- What an operation comes to after its time is delivered to nobody. -/
  late : ∀ t ∈ own.overruns, ∀ outcome ∈ own.answers,
    outcome = .error (d.operation.timeoutError t)
  grounds : ∀ outcome ∈ own.answers, Grounds config events d.operation own outcome

/-- The result is that of a run of the operation on the data. -/
theorem Ran.exists_run {s₀ : State σ} {events : List Event} {d : Dispatch σ}
    {result : Attempt Outcome} (h : Ran s₀ events d result) :
    ∃ shared, (d.operation.run d.job shared).1 = result := by
  obtain ⟨-, -, -, s, -, -, -, -, hresult⟩ := h
  exact ⟨s.shared, hresult.symm⟩

theorem Ran.append {s₀ : State σ} {events : List Event} {d : Dispatch σ} {result : Attempt Outcome}
    (h : Ran s₀ events d result) (more : List Event) : Ran s₀ (events ++ more) d result := by
  obtain ⟨earlier, w, later, s, notices, rfl, hrun, hw, hresult⟩ := h
  exact ⟨earlier, w, later ++ more, s, notices, by simp, hrun, hw, hresult⟩

section Account

variable {config : Config} {events : List Event} {departed : List Nat} {stopping : Bool}
  {d : Dispatch σ} {standing : Standing} {own : Account}

/-- Wherever a job stands, its caller has had one answer at most. -/
theorem Kept.answers_le (h : Kept departed stopping d standing own) : own.answers.length ≤ 1 := by
  cases h with
  | waiting | queued | running | left => exact Nat.zero_le 1
  | held _ _ _ told | refused _ _ _ told | returned _ _ told | late _ _ _ told =>
    exact told.length_le

theorem Kept.starts_eq (h : Kept departed stopping d standing own) :
    own.starts = [] ∨ own.starts = [d.job] := by
  cases h with
  | waiting | queued | left | refused => exact .inl rfl
  | running | held | returned | late => exact .inr rfl

theorem Kept.results_le (h : Kept departed stopping d standing own) : own.results.length ≤ 1 := by
  cases h with
  | waiting | queued | left | refused => exact Nat.zero_le 1
  | running result | held result => cases result <;> simp
  | returned | late => exact Nat.le_refl 1

/-- After an overrun the only answer is the one about the time. -/
theorem Kept.eq_of_late (h : Kept departed stopping d standing own) {t : Elapsed}
    (ht : t ∈ own.overruns) {outcome : Outcome} (hmem : outcome ∈ own.answers) :
    outcome = .error (d.operation.timeoutError t) := by
  cases h with
  | waiting | queued | running | left | refused | returned => cases ht
  | held _ t' answers told | late _ t' answers told =>
    rw [List.mem_singleton.mp ht]
    exact told.eq_of_mem hmem

/-- An answer has its grounds in the account of the call. -/
theorem Kept.grounds (h : Kept departed stopping d standing own)
    (hstop : stopping = true → .shutdown ∈ events)
    (htime : ∀ t ∈ own.overruns, config.jobTimeout.nanos ≤ t.nanos) {outcome : Outcome}
    (hmem : outcome ∈ own.answers) : Grounds config events d.operation own outcome := by
  cases h with
  | waiting | queued | running | left => cases hmem
  | held _ t answers told | late _ t answers told =>
    rw [told.eq_of_mem hmem]
    exact .overran t (htime t (List.mem_singleton_self t)) rfl
  | refused entries answers stopped told =>
    rw [told.eq_of_mem hmem]
    exact .refused (hstop stopped) rfl rfl
  | returned result answers told =>
    rw [told.eq_of_mem hmem]
    cases result with
    | returned outcome => exact .returned outcome rfl rfl rfl
    | panicked => exact .panicked rfl rfl rfl

end Account

section Run

variable {config : Config} {table : Table σ} {shared : σ} {s₀ s : State σ} {events : List Event}
  {notices : List Notice}

/-- A job overruns no less than the time that the pool gives it. -/
theorem limit_le_of_overran (hstart : State.start config table shared = .ok s₀)
    (hrun : run s₀ events = some (s, notices)) :
    ∀ call t, .overran call t ∈ notices → config.jobTimeout.nanos ≤ t.nanos := by
  refine run_induction (P := fun _ _ notices => ∀ call t, .overran call t ∈ notices →
    config.jobTimeout.nanos ≤ t.nanos) (by simp) ?_ hrun
  intro events s notices event s' new hrun ih hmove call t hmem
  obtain hmem | hmem := List.mem_append.mp hmem
  · exact ih call t hmem
  · rw [← (sound_of_run hstart hrun).config_eq]
    exact hmove.of_overran hmem

/-- Every result is that of a job which was asked for, run once a worker had it. -/
theorem ran_of_performed (hstart : State.start config table shared = .ok s₀)
    (hrun : run s₀ events = some (s, notices)) :
    ∀ call result, .performed call result ∈ notices → ∃ d : Dispatch σ, d.call = call ∧
      Filed table (requests events) d ∧ Ran s₀ events d result := by
  refine run_induction (P := fun events _ notices => ∀ call result,
    .performed call result ∈ notices → ∃ d : Dispatch σ, d.call = call ∧
      Filed table (requests events) d ∧ Ran s₀ events d result) (by simp) ?_ hrun
  intro events s notices event s' new hrun ih hmove call result hmem
  obtain hmem | hmem := List.mem_append.mp hmem
  · obtain ⟨d, hcall, hfiled, hran⟩ := ih call result hmem
    rw [requests_append]
    exact ⟨d, hcall, hfiled.append _, hran.append _⟩
  · obtain ⟨-, hnone⟩ | ⟨w, d, rfl, hw, rfl, -⟩ := hmove.performs
    · exact absurd hmem (hnone call result)
    · simp only [List.mem_singleton, Notice.performed.injEq] at hmem
      obtain ⟨hfiled, -⟩ := (sound_of_run hstart hrun).of_unperformed hw
      rw [requests_append]
      exact ⟨d, hmem.1.symm, hfiled.append _, events, w, [], s, notices, rfl, hrun, hw, hmem.2⟩

/-- Whatever happens, each call of a registered operation is served. -/
theorem served_of_run (hstart : State.start config table shared = .ok s₀)
    (hrun : run s₀ events = some (s, notices)) {call : Nat} {name : String} {data : Bytes}
    {operation : Operation σ} (hget : (requests events)[call]? = some (name, data))
    (hop : table.get? name = some operation) :
    Served config s₀ events (filed table (requests events) call operation data)
      (account notices call) := by
  have hsound := sound_of_run hstart hrun
  obtain ⟨standing, kept, -⟩ := hsound.ledger.standing hget hop
  have hstarts := kept.starts_eq
  refine ⟨kept.answers_le, ?_, kept.results_le, ?_, ?_, ?_, ?_⟩
  · obtain h | h := hstarts <;> simp [h]
  · intro job hjob
    obtain h | h := hstarts
    · rw [h] at hjob
      cases hjob
    · rw [h] at hjob
      exact List.mem_singleton.mp hjob
  · intro result hresult
    obtain ⟨d, rfl, hfiled, hran⟩ :=
      ran_of_performed hstart hrun call result ((mem_results _ _ _).mp hresult)
    rw [← hfiled.eq_filed hget hop]
    exact hran
  · intro t ht outcome hmem
    exact kept.eq_of_late ht hmem
  · intro outcome hmem
    refine kept.grounds hsound.stopping_iff.mp ?_ hmem
    intro t ht
    exact limit_le_of_overran hstart hrun call t ((mem_overruns _ _ _).mp ht)

/-- A call of an operation that is not registered is told so, and there is nothing else of it: no
number is spent on it. Any other call is served as it should be, and nothing is noticed of calls
that were not made. -/
theorem answers_of_run (hstart : State.start config table shared = .ok s₀)
    (hrun : run s₀ events = some (s, notices)) :
    (∀ (call : Nat) (name : String) (data : Bytes),
      (requests events)[call]? = some (name, data) →
      match table.get? name with
      | none => account notices call = { answers := [.error (.unknownOperation name)] }
      | some operation =>
        Served config s₀ events (filed table (requests events) call operation data)
          (account notices call)) ∧
    (∀ call, (requests events).length ≤ call → account notices call = {}) ∧
    s.nextJob = jobNumber table (requests events) := by
  have hsound := sound_of_run hstart hrun
  refine ⟨?_, hsound.ledger.unmade, hsound.nextJob_eq⟩
  intro call name data hget
  cases hop : table.get? name with
  | none => exact hsound.ledger.unknown call name data hget hop
  | some operation => exact served_of_run hstart hrun hget hop

end Run

/-- The first call is answered before its operation returns, the second is unknown, and the third
is served by the same worker afterwards. -/
theorem answers_of_late_return :
    ∃ (s₀ : State Unit) (events : List Event) (notices : List Notice),
      (account notices 0).results = [.returned (.ok [7])] ∧
      (account notices 0).answers = [.error (.timedOut ⟨1⟩)] ∧
      account notices 1 = { answers := [.error (.unknownOperation "none")] } ∧
      (account notices 2).answers = [.ok [8]] ∧
      Served ⟨1, 2, ⟨1⟩⟩ s₀ events ⟨2, .echo, ⟨2, [8]⟩⟩ (account notices 2) := by
  let table : Table Unit := ⟨[("echo", .echo)]⟩
  have hstart : State.start ⟨1, 2, ⟨1⟩⟩ table () = .ok (.initial ⟨1, 2, ⟨1⟩⟩ table ()) := rfl
  obtain ⟨s, hrun⟩ : ∃ s, run (.initial ⟨1, 2, ⟨1⟩⟩ table ())
      [.submit "echo" [7], .submit "none" [], .submit "echo" [8], .enqueue 0, .enqueue 0,
        .dequeue 0, .overrun 0 ⟨1⟩, .perform 0, .finish 0, .dequeue 0, .perform 0, .finish 0] =
      some (s, [.answered 1 (.error (.unknownOperation "none")), .entered 0, .entered 2,
        .started 0 ⟨1, [7]⟩, .overran 0 ⟨1⟩, .answered 0 (.error (.timedOut ⟨1⟩)),
        .performed 0 (.returned (.ok [7])), .ended 0, .started 2 ⟨2, [8]⟩,
        .performed 2 (.returned (.ok [8])), .ended 2, .answered 2 (.ok [8])]) := ⟨_, rfl⟩
  obtain ⟨hcalls, -, -⟩ := answers_of_run hstart hrun
  exact ⟨_, _, _, rfl, rfl, hcalls 1 "none" [] rfl, rfl, hcalls 2 "echo" [8] rfl⟩

end DerivationPool.Pool

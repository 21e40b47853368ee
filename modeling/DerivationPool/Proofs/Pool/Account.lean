import DerivationPool.Proofs.Pool.Run

/-!
The account of a call: everything that a run notices of it, whichever of the other
calls it is noticed between. `Kept` says what the account of a call holds by where
its job stands. It is the whole of what a call can live through: it is started at
most once, it comes to at most one result, and it is answered at most once.
-/
namespace DerivationPool.Pool

/-- The calls that are made, in their order: the call of number `n` stands at place `n`. -/
def requests (events : List Event) : List (String × Bytes) :=
  events.filterMap fun event =>
    match event with
    | .submit name data => some (name, data)
    | _ => none

@[simp] theorem requests_nil : requests [] = [] := rfl

@[simp] theorem requests_append (first second : List Event) :
    requests (first ++ second) = requests first ++ requests second := by
  simp [requests]

def Notice.call : Notice → Nat
  | entered call | started call _ | performed call _ | overran call _ | ended call
  | answered call _ => call

/-- What is noticed of one call, kind by kind and each in its order. -/
@[ext]
structure Account where
  entries : Nat := 0
  starts : List Job := []
  results : List (Attempt Outcome) := []
  overruns : List Elapsed := []
  endings : Nat := 0
  answers : List Outcome := []

/-- An account with one more notice. -/
def Account.note (a : Account) : Notice → Account
  | .entered _ => { a with entries := a.entries + 1 }
  | .started _ job => { a with starts := a.starts ++ [job] }
  | .performed _ result => { a with results := a.results ++ [result] }
  | .overran _ t => { a with overruns := a.overruns ++ [t] }
  | .ended _ => { a with endings := a.endings + 1 }
  | .answered _ outcome => { a with answers := a.answers ++ [outcome] }

def account (notices : List Notice) (call : Nat) : Account :=
  (notices.filter fun n => n.call = call).foldl Account.note {}

@[simp] theorem account_nil (call : Nat) : account [] call = {} := rfl

theorem account_append (notices new : List Notice) (call : Nat) :
    account (notices ++ new) call =
      (new.filter fun n => n.call = call).foldl Account.note (account notices call) := by
  simp [account]

theorem account_append_own {notices new : List Notice} {call : Nat}
    (h : ∀ n ∈ new, n.call = call) :
    account (notices ++ new) call = new.foldl Account.note (account notices call) := by
  have hall : new.filter (fun n => n.call = call) = new := by simpa using h
  rw [account_append, hall]

/-- Notices about one call leave the account of any other as it is. -/
theorem account_append_other {notices new : List Notice} {call other : Nat}
    (h : ∀ n ∈ new, n.call = other) (hne : call ≠ other) :
    account (notices ++ new) call = account notices call := by
  have hnone : new.filter (fun n => n.call = call) = [] := by
    simp only [List.filter_eq_nil_iff, decide_eq_true_eq]
    intro n hn heq
    exact hne (heq.symm.trans (h n hn))
  rw [account_append, hnone, List.foldl_nil]

theorem account_concat (notices : List Notice) (n : Notice) (call : Nat) :
    account (notices ++ [n]) call =
      if n.call = call then (account notices call).note n else account notices call := by
  rw [account_append]
  by_cases h : n.call = call <;> simp [h]

/-- An account holds of one kind of notices just what was noticed of its call. -/
theorem mem_account {β : Type} (field : Account → List β) (notice : Nat → β → Notice)
    (hempty : field {} = []) (hcall : ∀ call x, (notice call x).call = call)
    (hnote : ∀ a n x, x ∈ field (a.note n) ↔ x ∈ field a ∨ n = notice n.call x)
    (notices : List Notice) (call : Nat) (x : β) :
    x ∈ field (account notices call) ↔ notice call x ∈ notices := by
  induction notices using List.reverseRecOn with
  | nil => simp [hempty]
  | append_singleton notices n ih =>
    rw [account_concat, List.mem_append, List.mem_singleton]
    by_cases h : n.call = call
    · rw [if_pos h, hnote, ih, h, eq_comm (a := n)]
    · rw [if_neg h, ih, or_iff_left]
      rintro rfl
      exact h (hcall call x)

theorem mem_starts (notices : List Notice) (call : Nat) (job : Job) :
    job ∈ (account notices call).starts ↔ .started call job ∈ notices := by
  refine mem_account Account.starts .started rfl (fun _ _ => rfl) ?_ notices call job
  intro a n job
  cases n <;> simp [Account.note, Notice.call, eq_comm]

theorem mem_results (notices : List Notice) (call : Nat) (result : Attempt Outcome) :
    result ∈ (account notices call).results ↔ .performed call result ∈ notices := by
  refine mem_account Account.results .performed rfl (fun _ _ => rfl) ?_ notices call result
  intro a n result
  cases n <;> simp [Account.note, Notice.call, eq_comm]

theorem mem_overruns (notices : List Notice) (call : Nat) (t : Elapsed) :
    t ∈ (account notices call).overruns ↔ .overran call t ∈ notices := by
  refine mem_account Account.overruns .overran rfl (fun _ _ => rfl) ?_ notices call t
  intro a n t
  cases n <;> simp [Account.note, Notice.call, eq_comm]

theorem mem_answers (notices : List Notice) (call : Nat) (outcome : Outcome) :
    outcome ∈ (account notices call).answers ↔ .answered call outcome ∈ notices := by
  refine mem_account Account.answers .answered rfl (fun _ _ => rfl) ?_ notices call outcome
  intro a n outcome
  cases n <;> simp [Account.note, Notice.call, eq_comm]

variable {σ : Type}

/-- Where the job of a call stands. -/
inductive Standing where
  | waiting | queued
  | running (result : Option (Attempt Outcome))
  | held (result : Option (Attempt Outcome))
  | over

/-- The answers of a call to which an outcome is due: that outcome, or nothing where the caller has
left. -/
def Told (departed : List Nat) (call : Nat) (outcome : Outcome) (answers : List Outcome) : Prop :=
  answers = [outcome] ∨ call ∈ departed ∧ answers = []

/-- What the account of a job's call holds, by where the job stands. -/
inductive Kept (departed : List Nat) (stopping : Bool) (d : Dispatch σ) :
    Standing → Account → Prop where
  | waiting : Kept departed stopping d .waiting {}
  | queued : Kept departed stopping d .queued { entries := 1 }
  | running (result : Option (Attempt Outcome)) :
      Kept departed stopping d (.running result)
        { entries := 1, starts := [d.job], results := result.toList }
  | held (result : Option (Attempt Outcome)) (t : Elapsed) (answers : List Outcome)
      (told : Told departed d.call (.error (d.operation.timeoutError t)) answers) :
      Kept departed stopping d (.held result)
        { entries := 1, starts := [d.job], results := result.toList, overruns := [t], answers }
  /-- The caller left before the job was in the queue. -/
  | left (gone : d.call ∈ departed) : Kept departed stopping d .over {}
  /-- The pool was closed before the job was started. -/
  | refused (entries : Nat) (answers : List Outcome) (stopped : stopping = true)
      (told : Told departed d.call (.error .poolClosed) answers) :
      Kept departed stopping d .over { entries, answers }
  | returned (result : Attempt Outcome) (answers : List Outcome)
      (told : Told departed d.call (outcomeOf result) answers) :
      Kept departed stopping d .over
        { entries := 1, starts := [d.job], results := [result], endings := 1, answers }
  /-- The operation returned after its time was over. -/
  | late (result : Attempt Outcome) (t : Elapsed) (answers : List Outcome)
      (told : Told departed d.call (.error (d.operation.timeoutError t)) answers) :
      Kept departed stopping d .over
        { entries := 1, starts := [d.job], results := [result], overruns := [t], endings := 1,
          answers }

/-- An answer adds to an account what its caller is told. -/
theorem told_of_answer (s : State σ) (call : Nat) (outcome : Outcome) :
    ∃ answers, Told s.departed call outcome answers ∧ ∀ a : Account,
      (s.answer call outcome).foldl Account.note a = { a with answers := a.answers ++ answers } := by
  by_cases hgone : call ∈ s.departed
  · exact ⟨[], .inr ⟨hgone, rfl⟩, fun a => by simp [State.answer, hgone]⟩
  · exact ⟨[outcome], .inl rfl, fun a => by simp [State.answer, hgone, Account.note]⟩

theorem call_of_mem_answer {s : State σ} {call : Nat} {outcome : Outcome} {n : Notice}
    (h : n ∈ s.answer call outcome) : n.call = call := by
  rw [((mem_answer s call outcome n).mp h).2]
  rfl

/-- What was told stays told when more callers leave. -/
theorem Told.mono {departed departed' : List Nat} {call : Nat} {outcome : Outcome}
    {answers : List Outcome} (h : Told departed call outcome answers)
    (hdeparted : departed ⊆ departed') : Told departed' call outcome answers :=
  h.imp_right fun gone => ⟨hdeparted gone.1, gone.2⟩

theorem Told.length_le {departed : List Nat} {call : Nat} {outcome : Outcome}
    {answers : List Outcome} (h : Told departed call outcome answers) : answers.length ≤ 1 := by
  obtain rfl | ⟨-, rfl⟩ := h <;> simp

theorem Told.eq_of_mem {departed : List Nat} {call : Nat} {outcome outcome' : Outcome}
    {answers : List Outcome} (h : Told departed call outcome answers) (hmem : outcome' ∈ answers) :
    outcome' = outcome := by
  obtain rfl | ⟨-, rfl⟩ := h
  · simpa using hmem
  · cases hmem

/-- More callers may leave, and the pool may begin to stop, without a change to any account. -/
theorem Kept.mono {departed departed' : List Nat} {stopping stopping' : Bool} {d : Dispatch σ}
    {standing : Standing} {a : Account} (h : Kept departed stopping d standing a)
    (hdeparted : departed ⊆ departed') (hstopping : stopping = true → stopping' = true) :
    Kept departed' stopping' d standing a := by
  cases h with
  | waiting => exact .waiting
  | queued => exact .queued
  | running result => exact .running result
  | held result t answers told => exact .held result t answers (told.mono hdeparted)
  | left gone => exact .left (hdeparted gone)
  | refused entries answers stopped told =>
    exact .refused entries answers (hstopping stopped) (told.mono hdeparted)
  | returned result answers told => exact .returned result answers (told.mono hdeparted)
  | late result t answers told => exact .late result t answers (told.mono hdeparted)

/-- Nothing is noticed of a call while its caller waits for space. -/
theorem Kept.eq_of_waiting {departed : List Nat} {stopping : Bool} {d : Dispatch σ} {a : Account}
    (h : Kept departed stopping d .waiting a) : a = {} := by
  cases h
  rfl

section Life

variable {departed : List Nat} {stopping : Bool} {d : Dispatch σ} {a : Account}

theorem Kept.enter (h : Kept departed stopping d .waiting a) :
    Kept departed stopping d .queued (a.note (.entered d.call)) := by
  cases h
  exact .queued

theorem Kept.start (h : Kept departed stopping d .queued a) :
    Kept departed stopping d (.running none) (a.note (.started d.call d.job)) := by
  cases h
  exact .running none

theorem Kept.perform (h : Kept departed stopping d (.running none) a)
    (result : Attempt Outcome) :
    Kept departed stopping d (.running (some result)) (a.note (.performed d.call result)) := by
  cases h
  exact .running (some result)

theorem Kept.performHeld (h : Kept departed stopping d (.held none) a)
    (result : Attempt Outcome) :
    Kept departed stopping d (.held (some result)) (a.note (.performed d.call result)) := by
  cases h with
  | held _ t answers told => exact .held (some result) t answers told

/-- A job that waits for space is dropped when its caller leaves. -/
theorem Kept.leave (h : Kept departed stopping d .waiting a) (hgone : d.call ∈ departed) :
    Kept departed stopping d .over a := by
  cases h
  exact .left hgone

variable {s : State σ}

/-- The caller of a job whose time is over is told so, if it still waits. -/
theorem Kept.overrun {result : Option (Attempt Outcome)}
    (h : Kept s.departed stopping d (.running result) a) (t : Elapsed) :
    Kept s.departed stopping d (.held result)
      ((.overran d.call t :: s.answer d.call (.error (d.operation.timeoutError t))).foldl
        Account.note a) := by
  obtain ⟨answers, told, hanswer⟩ :=
    told_of_answer s d.call (.error (d.operation.timeoutError t))
  cases h
  rw [List.foldl_cons, hanswer]
  exact .held result t answers told

theorem Kept.finish {result : Attempt Outcome}
    (h : Kept s.departed stopping d (.running (some result)) a) :
    Kept s.departed stopping d .over
      ((.ended d.call :: s.answer d.call (outcomeOf result)).foldl Account.note a) := by
  obtain ⟨answers, told, hanswer⟩ := told_of_answer s d.call (outcomeOf result)
  cases h
  rw [List.foldl_cons, hanswer]
  exact .returned result answers told

theorem Kept.finishHeld {result : Attempt Outcome}
    (h : Kept departed stopping d (.held (some result)) a) :
    Kept departed stopping d .over (a.note (.ended d.call)) := by
  cases h with
  | held _ t answers told => exact .late result t answers told

/-- A job that was not started is refused when the pool is closed. -/
theorem Kept.refuse {standing : Standing} (hstanding : standing = .waiting ∨ standing = .queued)
    (h : Kept s.departed true d standing a) :
    Kept s.departed true d .over ((s.answer d.call (.error .poolClosed)).foldl Account.note a) := by
  obtain ⟨answers, told, hanswer⟩ := told_of_answer s d.call (.error .poolClosed)
  rw [hanswer]
  obtain rfl | rfl := hstanding
  · cases h
    exact .refused 0 answers rfl told
  · cases h
    exact .refused 1 answers rfl told

end Life

end DerivationPool.Pool

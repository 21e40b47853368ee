import DerivationPool.Proofs.Pool.Progress
import DerivationPool.Proofs.Pool.Shutdown
import Mathlib.Data.List.Nodup

/-!
The queue of a pool and the numbers of its jobs. Both orders are read off the notices: in
which order jobs entered the queue, and in which they were started. Jobs are started in
the order in which they entered, so that what entered is always what was started and,
behind it, what is still in the queue; only the last worker to end drops what is left. A
job has the number of its call among the calls of registered operations.
-/
namespace DerivationPool.Pool

variable {σ : Type}

def Notice.entered? : Notice → Option Nat
  | entered call => some call
  | started _ _ | performed _ _ | overran _ _ | ended _ | answered _ _ => none

def Notice.started? : Notice → Option (Nat × Job)
  | started call job => some (call, job)
  | entered _ | performed _ _ | overran _ _ | ended _ | answered _ _ => none

/-- The calls whose jobs entered the queue, in the order in which they did. -/
def entered (notices : List Notice) : List Nat := notices.filterMap Notice.entered?

/-- The jobs that were given to operations, in the order in which they were, with their calls. -/
def started (notices : List Notice) : List (Nat × Job) := notices.filterMap Notice.started?

@[simp] theorem entered_append (first second : List Notice) :
    entered (first ++ second) = entered first ++ entered second := by
  simp [entered]

@[simp] theorem started_append (first second : List Notice) :
    started (first ++ second) = started first ++ started second := by
  simp [started]

theorem mem_started {notices : List Notice} {call : Nat} {job : Job} :
    (call, job) ∈ started notices ↔ .started call job ∈ notices := by
  rw [started, List.mem_filterMap]
  constructor
  · rintro ⟨n, hn, heq⟩
    cases n <;> cases heq
    exact hn
  · intro h
    exact ⟨_, h, rfl⟩

theorem eq_nil_of_quiet {new : List Notice}
    (hnew : ∀ n ∈ new, n.entered? = none ∧ n.started? = none) :
    entered new = [] ∧ started new = [] := by
  constructor
  · exact List.filterMap_eq_nil_iff.mpr fun n hn => (hnew n hn).1
  · exact List.filterMap_eq_nil_iff.mpr fun n hn => (hnew n hn).2

/-- A call has entered the queue as often as its account has it. -/
theorem entries_account (notices : List Notice) (call : Nat) :
    (account notices call).entries = (entered notices).count call := by
  induction notices using List.reverseRecOn with
  | nil => rfl
  | append_singleton notices n ih =>
    rw [account_concat, entered_append, List.count_append, ← ih]
    by_cases h : n.call = call
    · rw [if_pos h, ← h]
      cases n <;> simp [Account.note, entered, List.filterMap_cons, Notice.entered?, Notice.call]
    · rw [if_neg h]
      cases n <;> simp_all [entered, List.filterMap_cons, Notice.entered?, Notice.call]

theorem entries_eq_zero_iff {notices : List Notice} {call : Nat} :
    (account notices call).entries = 0 ↔ call ∉ entered notices := by
  rw [entries_account, List.count_eq_zero]

/-! ### The order of the queue -/

/-- A pool is open while a worker has not ended, -/
theorem open_of_worker {s : State σ} {w : Nat} {a : Worker σ} (hw : s.workers[w]? = some a)
    (ha : a.hasExited = false) : s.closed = false := by
  cases hclosed : s.closed with
  | false => rfl
  | true =>
    rw [eq_exited_of_closed hclosed hw] at ha
    cases ha

section Waiting

variable {config : Config} {table : Table σ} {events : List Event} {s : State σ}
  {notices : List Notice} {d : Dispatch σ}

/-- and while somebody waits. -/
theorem open_of_waiting (h : Sound config table events s notices) (hd : d ∈ s.waiting) :
    s.closed = false := by
  cases hclosed : s.closed with
  | false => rfl
  | true =>
    have hnone := h.empty_of_closed hclosed
    simp only [State.pending, List.append_eq_nil_iff, List.map_eq_nil_iff] at hnone
    rw [hnone.2] at hd
    cases hd

/-- Of a call whose job waits nothing was noticed. -/
theorem not_entered_of_waiting (h : Sound config table events s notices) (hd : d ∈ s.waiting) :
    d.call ∉ entered notices := by
  have hmem : (d, Standing.waiting) ∈ s.positions :=
    List.mem_append_left _ (List.mem_append_right _ (List.mem_map_of_mem hd))
  obtain ⟨-, kept⟩ := h.ledger.present _ hmem
  rw [← entries_eq_zero_iff, kept.eq_of_waiting]

end Waiting

/-- What has entered the queue of a pool, and what has become of it. -/
structure Queued (s : State σ) (notices : List Notice) : Prop where
  length_le : s.queue.length ≤ s.config.queueDepth
  once : (entered notices).Nodup
  /-- Nothing is dropped before the last worker has ended. -/
  order : ∃ dropped, entered notices =
      (started notices).map Prod.fst ++ s.queue.map Dispatch.call ++ dropped ∧
    (s.closed = false → dropped = [])

namespace Queued

variable {s s' : State σ} {notices new : List Notice} {event : Event}

theorem initial (config : Config) (table : Table σ) (shared : σ) :
    Queued (State.initial config table shared) [] where
  length_le := Nat.zero_le _
  once := .nil
  order := ⟨[], rfl, fun _ => rfl⟩

/-- Moves that the queue has no part in. -/
theorem of_quiet (h : Queued s notices) (hmove : Moves s event s' new)
    (hconfig : s'.config = s.config) (hqueue : s'.queue = s.queue)
    (hnew : ∀ n ∈ new, n.entered? = none ∧ n.started? = none) : Queued s' (notices ++ new) := by
  obtain ⟨hentered, hstarted⟩ := eq_nil_of_quiet hnew
  obtain ⟨dropped, horder, hdropped⟩ := h.order
  refine ⟨?_, ?_, dropped, ?_, ?_⟩
  · rw [hconfig, hqueue]
    exact h.length_le
  · rw [entered_append, hentered, List.append_nil]
    exact h.once
  · rw [entered_append, hentered, started_append, hstarted, hqueue, List.append_nil,
      List.append_nil]
    exact horder
  · intro hopen
    apply hdropped
    cases hclosed : s.closed with
    | false => rfl
    | true => exact (closed_move hclosed hmove).symm.trans hopen

/-- An answer has nothing to do with the queue. -/
theorem answer_quiet (s : State σ) (call : Nat) (outcome : Outcome) :
    ∀ n ∈ s.answer call outcome, n.entered? = none ∧ n.started? = none := by
  intro n hn
  rw [((mem_answer s call outcome n).mp hn).2]
  exact ⟨rfl, rfl⟩

theorem enqueue {place : Nat} {d : Dispatch σ} (h : Queued s notices)
    (hnew : d.call ∉ entered notices) (hopen : s.closed = false)
    (hspace : s.queue.length < s.config.queueDepth) :
    Queued { s with waiting := s.waiting.eraseIdx place, queue := s.queue ++ [d] }
      (notices ++ [.entered d.call]) := by
  obtain ⟨dropped, horder, hdropped⟩ := h.order
  have hentered : entered (notices ++ [.entered d.call]) = entered notices ++ [d.call] :=
    entered_append _ _
  refine ⟨?_, ?_, [], ?_, fun _ => rfl⟩
  · rw [List.length_append]
    exact hspace
  · rw [hentered, List.nodup_append]
    refine ⟨h.once, List.pairwise_singleton _ d.call, ?_⟩
    rintro call hcall other hother rfl
    rw [List.mem_singleton.mp hother] at hcall
    exact hnew hcall
  · rw [hentered, horder, hdropped hopen]
    simp [started, Notice.started?]

theorem dequeue {w : Nat} {d : Dispatch σ} {rest : List (Dispatch σ)} (h : Queued s notices)
    (hopen : s.closed = false) (hq : s.queue = d :: rest) :
    Queued { s with workers := s.workers.set w (.running d none), queue := rest }
      (notices ++ [.started d.call d.job]) := by
  obtain ⟨dropped, horder, hdropped⟩ := h.order
  have hlength := h.length_le
  have hentered : entered (notices ++ [.started d.call d.job]) = entered notices := by
    simp [entered, Notice.entered?]
  rw [hq, List.length_cons] at hlength
  refine ⟨?_, ?_, [], ?_, fun _ => rfl⟩
  · exact Nat.le_of_succ_le hlength
  · rw [hentered]
    exact h.once
  · rw [hentered, horder, hdropped hopen, hq]
    simp [started, Notice.started?]

/-- What the last worker leaves in the queue is dropped. -/
theorem exitLast {w : Nat} (h : Queued s notices) (hopen : s.closed = false)
    (hclosed : (s.workers.set w .exited).all Worker.hasExited = true)
    (hnew : ∀ n ∈ new, n.entered? = none ∧ n.started? = none) :
    Queued { s with workers := s.workers.set w .exited, queue := [], waiting := [] }
      (notices ++ new) := by
  obtain ⟨hentered, hstarted⟩ := eq_nil_of_quiet hnew
  obtain ⟨dropped, horder, hdropped⟩ := h.order
  refine ⟨Nat.zero_le _, ?_, s.queue.map Dispatch.call, ?_, ?_⟩
  · rw [entered_append, hentered, List.append_nil]
    exact h.once
  · rw [entered_append, hentered, started_append, hstarted, horder, hdropped hopen]
    simp
  · intro hstill
    exact absurd (hstill.symm.trans hclosed) (by decide)

/-- Every move keeps the order of the queue. -/
theorem move {config : Config} {table : Table σ} {events : List Event} (h : Queued s notices)
    (hsound : Sound config table events s notices) (hmove : Moves s event s' new) :
    Queued s' (notices ++ new) := by
  have hquiet := h.of_quiet hmove
  cases hmove with
  | enqueue hd hspace =>
    have hmem := List.mem_of_getElem? hd
    exact h.enqueue (not_entered_of_waiting hsound hmem) (open_of_waiting hsound hmem) hspace
  | dequeue hgo hw hq => exact h.dequeue (open_of_worker hw rfl) hq
  | exitLast hstop hw hclosed =>
    apply h.exitLast (open_of_worker hw rfl) hclosed
    intro n hn
    obtain ⟨d, -, hn⟩ := List.mem_flatMap.mp hn
    exact answer_quiet s _ _ n hn
  | finish | overrun =>
    exact hquiet rfl rfl (List.forall_mem_cons.mpr ⟨⟨rfl, rfl⟩, answer_quiet s _ _⟩)
  | _ => exact hquiet rfl rfl (by simp [Notice.entered?, Notice.started?])

end Queued

/-! ### The numbers of jobs -/

section Numbers

variable {table : Table σ} {asked : List (String × Bytes)} {call call' : Nat} {name : String}
  {data : Bytes} {operation : Operation σ}

def registered (table : Table σ) (asked : List (String × Bytes)) : Nat :=
  asked.countP fun request => table.contains request.1

/-- The place of a call among the calls of registered operations, where the first has place one. -/
def ordinal (table : Table σ) (asked : List (String × Bytes)) (call : Nat) : Nat :=
  registered table (asked.take (call + 1))

theorem ordinal_eq (hget : asked[call]? = some (name, data))
    (hop : table.get? name = some operation) :
    ordinal table asked call = registered table (asked.take call) + 1 := by
  have hin : table.contains name = true := by simp [Table.contains, hop]
  simp [ordinal, registered, List.take_add_one, hget, List.countP_append, hin]

theorem registered_take_le (hle : call ≤ call') :
    registered table (asked.take call) ≤ registered table (asked.take call') :=
  (List.take_sublist_take_left hle).countP_le

theorem ordinal_lt (hlt : call < call') (hget : asked[call']? = some (name, data))
    (hop : table.get? name = some operation) :
    ordinal table asked call < ordinal table asked call' := by
  rw [ordinal_eq hget hop]
  exact Nat.lt_succ_of_le (registered_take_le hlt)

/-- The number of a job is the place of its call, as long as numbers do not run out. -/
theorem Filed.id_eq_ordinal {d : Dispatch σ} (h : Filed table asked d)
    (hfew : registered table asked < 1 <<< 64) :
    d.job.id.toNat = ordinal table asked d.call := by
  obtain ⟨name, hget, hop⟩ := h.asked_for
  have hord := ordinal_eq hget hop
  have hle : ordinal table asked d.call ≤ registered table asked :=
    (List.take_sublist _ _).countP_le
  have hsmall : registered table (asked.take d.call) + 1 < UInt64.size := by
    rw [← hord]
    exact Nat.lt_of_le_of_lt hle hfew
  have hnumber : d.job.id = UInt64.ofNat (registered table (asked.take d.call)) + 1 := h.id_eq
  rw [hnumber, UInt64.toNat_add, UInt64.toNat_ofNat_of_lt' (Nat.lt_of_succ_lt hsmall), hord]
  exact Nat.mod_eq_of_lt hsmall

theorem Filed.call_eq {d d' : Dispatch σ} (h : Filed table asked d) (h' : Filed table asked d')
    (hfew : registered table asked < 1 <<< 64) (hid : d.job.id = d'.job.id) :
    d.call = d'.call := by
  have hord := congrArg UInt64.toNat hid
  rw [h.id_eq_ordinal hfew, h'.id_eq_ordinal hfew] at hord
  obtain ⟨name, hget, hop⟩ := h.asked_for
  obtain ⟨name', hget', hop'⟩ := h'.asked_for
  obtain hlt | heq | hgt := Nat.lt_trichotomy d.call d'.call
  · have := ordinal_lt hlt hget' hop'
    omega
  · exact heq
  · have := ordinal_lt hgt hget hop
    omega

end Numbers

section Run

variable {config : Config} {table : Table σ} {shared : σ} {s₀ s : State σ} {events : List Event}
  {notices : List Notice}

/-- In every run, what has entered was started in that order or is still in the queue. -/
theorem queued_of_run (hstart : State.start config table shared = .ok s₀)
    (hrun : run s₀ events = some (s, notices)) : Queued s notices := by
  have hsound : ∀ events s notices, run s₀ events = some (s, notices) →
      Sound config table events s notices := fun _ _ _ hrun => sound_of_run hstart hrun
  obtain ⟨rfl, -⟩ := start_eq_ok hstart
  exact run_induction (P := fun _ s notices => Queued s notices)
    (Queued.initial config table shared)
    (fun events s notices _ _ _ hrun h hmove => h.move (hsound events s notices hrun) hmove) hrun

/-- A caller whose job has not entered the queue, who stays and has no answer, waits for space. -/
theorem waiting_of_not_entered (h : Sound config table events s notices) {call : Nat}
    {name : String} {data : Bytes} {operation : Operation σ}
    (hget : (requests events)[call]? = some (name, data))
    (hop : table.get? name = some operation) (hnew : call ∉ entered notices)
    (hstay : call ∉ s.departed) (hnone : ∀ outcome, .answered call outcome ∉ notices) :
    call ∈ s.waiting.map Dispatch.call := by
  obtain ⟨standing, kept, hin⟩ := h.ledger.standing hget hop
  have hentries := entries_eq_zero_iff.mpr hnew
  obtain ⟨outcome, hanswer⟩ | (rfl | rfl) | ⟨result, rfl⟩ := kept.answered_or hstay
  · exact absurd ((mem_answers _ _ _).mp hanswer) (hnone outcome)
  · have hpending := mem_pending (hin.resolve_right nofun) (.inl rfl)
    simp only [State.pending, List.mem_append, List.mem_map, Prod.mk.injEq, reduceCtorEq,
      and_false, exists_false, and_true, exists_eq_right, false_or] at hpending
    exact List.mem_map_of_mem hpending
  · generalize account notices call = own at kept hentries
    cases kept
    cases hentries
  · generalize account notices call = own at kept hentries
    cases kept
    cases hentries

/-- A job that was given to an operation is that of the call it was given for. -/
theorem filed_of_started (h : Sound config table events s notices) {call : Nat} {job : Job}
    (hmem : (call, job) ∈ started notices) :
    ∃ operation, Filed table (requests events) ⟨call, operation, job⟩ := by
  rw [mem_started, ← mem_starts] at hmem
  by_cases hmade : (requests events).length ≤ call
  · rw [h.ledger.unmade call hmade] at hmem
    cases hmem
  · obtain ⟨⟨name, data⟩, hget⟩ : ∃ request, (requests events)[call]? = some request :=
      ⟨_, List.getElem?_eq_getElem (Nat.lt_of_not_le hmade)⟩
    cases hop : table.get? name with
    | none =>
      rw [h.ledger.unknown call name data hget hop] at hmem
      cases hmem
    | some operation =>
      obtain ⟨standing, kept, -⟩ := h.ledger.standing hget hop
      obtain hnone | hone := kept.starts_eq
      · rw [hnone] at hmem
        cases hmem
      · rw [hone] at hmem
        rw [List.mem_singleton.mp hmem]
        exact ⟨operation, ⟨name, hget, hop⟩, rfl⟩

/-- What a worker has was given to its operation. -/
theorem started_of_position (h : Sound config table events s notices) {w : Nat} {a : Worker σ}
    (hw : s.workers[w]? = some a) : ∀ p ∈ a.positions, (p.1.call, p.1.job) ∈ started notices := by
  intro p hp
  obtain ⟨-, kept⟩ := h.ledger.present p (mem_positions hw hp)
  rw [mem_started, ← mem_starts]
  generalize account notices p.1.call = own at kept
  cases a with
  | running d result | held d result =>
    cases List.mem_singleton.mp hp
    cases kept
    exact List.mem_singleton_self _
  | idle | exited => cases hp

/-- The jobs that take up a worker are those in flight. -/
theorem inProgress_eq (hflight : (inFlight notices).Perm s.boundCalls) :
    s.inProgress = (inFlight notices).length := by
  rw [hflight.length_eq, State.boundCalls, List.length_filterMap_eq_countP, State.inProgress]
  apply List.countP_congr
  intro a _
  cases a <;> simp [Worker.busy, Worker.call?]

end Run

/-- A queue that is bounded and first in, first out. -/
structure Fifo (config : Config) (table : Table σ) (events : List Event) (s : State σ)
    (notices : List Notice) : Prop where
  queue_le : s.queue.length ≤ config.queueDepth
  /-- A job takes up a place in the queue or a worker, and a worker until its operation has
  ended. -/
  inside_le : s.queue.length + s.inProgress ≤ config.workers + config.queueDepth
  inProgress_eq : s.inProgress = (inFlight notices).length
  /-- Nobody gets past a queue that is full; -/
  full : s.queue.length = config.queueDepth → ∀ place, step s (.enqueue place) = none
  /-- who has not got into it waits until then. -/
  waits : ∀ (call : Nat) (name : String) (data : Bytes) (operation : Operation σ),
    (requests events)[call]? = some (name, data) → table.get? name = some operation →
    call ∉ entered notices → call ∉ s.departed → (∀ outcome, .answered call outcome ∉ notices) →
    call ∈ s.waiting.map Dispatch.call
  /-- Nothing enters the queue twice, so that nothing is started twice. -/
  once : (entered notices).Nodup
  /-- What was started is what entered first, in that order. -/
  order : (started notices).map Prod.fst <+: entered notices
  /-- While a worker is left, what entered and was not started is in the queue. -/
  rest : s.closed = false →
    entered notices = (started notices).map Prod.fst ++ s.queue.map Dispatch.call

/-- Jobs that are numbered by the calls of registered operations. -/
structure Numbered (table : Table σ) (events : List Event) (s : State σ) (notices : List Notice) :
    Prop where
  /-- Every job that the pool has got the place of its call for a number, -/
  given : ∀ p ∈ s.positions, p.1.job.id.toNat = ordinal table (requests events) p.1.call
  /-- and so did every job that was given to an operation. -/
  handed : ∀ (call : Nat) (job : Job), (call, job) ∈ started notices →
    (∃ name operation, (requests events)[call]? = some (name, job.data) ∧
      table.get? name = some operation) ∧
    job.id.toNat = ordinal table (requests events) call
  distinct : ((started notices).map fun start => start.2.id).Nodup
  /-- Operations are run on no other jobs. -/
  held : ∀ (w : Nat) (d : Dispatch σ) (result : Option (Attempt Outcome)),
    s.workers[w]? = some (.running d result) ∨ s.workers[w]? = some (.held d result) →
    (d.call, d.job) ∈ started notices
  next : s.nextJob = UInt64.ofNat (registered table (requests events) + 1)
  /-- A call of a name that is not registered takes no number. -/
  unknown : ∀ (name : String) (data : Bytes), table.get? name = none →
    (s.submit name data).1.nextJob = s.nextJob

section Run

variable {config : Config} {table : Table σ} {shared : σ} {s₀ s : State σ} {events : List Event}
  {notices : List Notice}

theorem fifo_of_run (hstart : State.start config table shared = .ok s₀)
    (hrun : run s₀ events = some (s, notices)) : Fifo config table events s notices := by
  have hsound := sound_of_run hstart hrun
  have hqueued := queued_of_run hstart hrun
  have hlength := hqueued.length_le
  obtain ⟨dropped, horder, hdropped⟩ := hqueued.order
  rw [hsound.config_eq] at hlength
  refine ⟨hlength, ?_, inProgress_eq (inFlight_perm_boundCalls hstart hrun), ?_, ?_,
    hqueued.once, ?_, ?_⟩
  · have hbusy : s.inProgress ≤ s.workers.length := List.countP_le_length
    rw [hsound.length_workers] at hbusy
    omega
  · intro hfull place
    rw [← hsound.config_eq] at hfull
    simp only [step, hfull, Nat.lt_irrefl]
    split <;> rfl
  · intro call name data operation hget hop
    exact waiting_of_not_entered hsound hget hop
  · rw [horder, List.append_assoc]
    exact List.prefix_append _ _
  · intro hopen
    rw [horder, hdropped hopen, List.append_nil]

theorem numbered_of_run (hstart : State.start config table shared = .ok s₀)
    (hrun : run s₀ events = some (s, notices))
    (hfew : registered table (requests events) < 1 <<< 64) :
    Numbered table events s notices := by
  have hsound := sound_of_run hstart hrun
  have hfifo := fifo_of_run hstart hrun
  refine ⟨?_, ?_, ?_, ?_, ?_, ?_⟩
  · intro p hp
    exact (hsound.ledger.present p hp).1.id_eq_ordinal hfew
  · intro call job hmem
    obtain ⟨operation, hfiled⟩ := filed_of_started hsound hmem
    obtain ⟨name, hget, hop⟩ := hfiled.asked_for
    exact ⟨⟨name, operation, hget, hop⟩, hfiled.id_eq_ordinal hfew⟩
  · have hcalls : ((started notices).map Prod.fst).Nodup := hfifo.order.sublist.nodup hfifo.once
    refine List.Nodup.map_on ?_ (List.Nodup.of_map _ hcalls)
    intro start hmem start' hmem' hid
    obtain ⟨operation, hfiled⟩ := filed_of_started hsound hmem
    obtain ⟨operation', hfiled'⟩ := filed_of_started hsound hmem'
    exact List.inj_on_of_nodup_map hcalls hmem hmem' (hfiled.call_eq hfiled' hfew hid)
  · rintro w d result (hw | hw)
    · exact started_of_position hsound hw _ (List.mem_singleton_self _)
    · exact started_of_position hsound hw _ (List.mem_singleton_self _)
  · rw [hsound.nextJob_eq, UInt64.ofNat_add]
    rfl
  · intro name data hop
    rw [← hsound.table_eq] at hop
    simp [State.submit, hop]

/-- The queue of a pool is bounded, jobs are started in the order in which they entered it, and they
are numbered by the calls of registered operations while numbers do not run out. -/
theorem queue_of_run (hstart : State.start config table shared = .ok s₀)
    (hrun : run s₀ events = some (s, notices)) :
    Fifo config table events s notices ∧
      (registered table (requests events) < 1 <<< 64 → Numbered table events s notices) :=
  ⟨fifo_of_run hstart hrun, numbered_of_run hstart hrun⟩

end Run

/-- The third call is overtaken by the fourth on the way into a queue of one place, and waits while
that one runs; the second, of a name that is not registered, has no number. -/
theorem queue_of_overtaken_call :
    ∃ (events : List Event) (s : State Unit) (notices : List Notice),
      entered notices = [0, 3] ∧ started notices = [(0, ⟨1, [7]⟩), (3, ⟨3, [9]⟩)] ∧
      s.waiting.map Dispatch.call = [2] ∧
      Fifo ⟨1, 1, ⟨1⟩⟩ ⟨[("echo", .echo)]⟩ events s notices ∧
      Numbered ⟨[("echo", .echo)]⟩ events s notices := by
  let table : Table Unit := ⟨[("echo", .echo)]⟩
  have hstart : State.start ⟨1, 1, ⟨1⟩⟩ table () = .ok (.initial ⟨1, 1, ⟨1⟩⟩ table ()) := rfl
  let events : List Event := [.submit "echo" [7], .submit "none" [], .submit "echo" [8],
    .submit "echo" [9], .enqueue 0, .dequeue 0, .enqueue 1, .perform 0, .finish 0, .dequeue 0]
  obtain ⟨s, hrun, hwaiting⟩ : ∃ s, run (.initial ⟨1, 1, ⟨1⟩⟩ table ()) events =
      some (s, [.answered 1 (.error (.unknownOperation "none")), .entered 0, .started 0 ⟨1, [7]⟩,
        .entered 3, .performed 0 (.returned (.ok [7])), .ended 0, .answered 0 (.ok [7]),
        .started 3 ⟨3, [9]⟩]) ∧ s.waiting.map Dispatch.call = [2] := ⟨_, rfl, rfl⟩
  obtain ⟨hfifo, hnumbered⟩ := queue_of_run hstart hrun
  exact ⟨events, s, _, rfl, rfl, hwaiting, hfifo, hnumbered (by decide)⟩

end DerivationPool.Pool

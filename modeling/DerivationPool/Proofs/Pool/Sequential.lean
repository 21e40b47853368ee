import DerivationPool.Proofs.Pool.Progress
import DerivationPool.Proofs.Pool.Queue

/-!
A pool with one caller, who waits for every answer before the next call. While nobody
else interferes, the pool has at most one job, and each job takes the same four steps
whichever worker takes it; after the last of them the pool is as it was, but for its
counters and for what the operations share. So the outcomes are those of the table
itself, called without a pool, and neither the workers nor the queue show in them.
-/
namespace DerivationPool

variable {σ : Type}

namespace Table

/-- A call without a pool: what the operation returns is the outcome, and for a panic there is an
error. What goes from one call to the next is the number of the next job and what the operations
share. -/
def call (table : Table σ) (name : String) (data : Bytes) : StateM (Nat × σ) Outcome :=
  fun (number, shared) =>
    match table.get? name with
    | none => (.error (.unknownOperation name), number, shared)
    | some operation =>
      match operation.run ⟨UInt64.ofNat number, data⟩ shared with
      | (.returned outcome, shared) => (outcome, number + 1, shared)
      | (.panicked, shared) => (.error .workerPanicked, number + 1, shared)

def callAll (table : Table σ) (calls : List (String × Bytes)) :
    StateM (Nat × σ) (List Outcome) :=
  calls.mapM fun call => table.call call.1 call.2

/-- The jobs of calls, numbered from `number` on: a call of an operation that is not registered has
none. -/
def jobs (table : Table σ) : Nat → List (String × Bytes) → List Job
  | _, [] => []
  | number, (name, data) :: calls =>
    if table.contains name then ⟨UInt64.ofNat number, data⟩ :: jobs table (number + 1) calls
    else jobs table number calls

theorem call_of_none {table : Table σ} {name : String} (hop : table.get? name = none)
    (data : Bytes) (number : Nat) (shared : σ) :
    table.call name data (number, shared) = (.error (.unknownOperation name), number, shared) := by
  simp only [call, hop]

/-- A pool tells its callers of a result in the same way. -/
theorem call_of_some {table : Table σ} {name : String} {operation : Operation σ}
    (hop : table.get? name = some operation) (data : Bytes) (number : Nat) (shared : σ) :
    table.call name data (number, shared) =
      (Pool.outcomeOf (operation.run ⟨UInt64.ofNat number, data⟩ shared).1, number + 1,
        (operation.run ⟨UInt64.ofNat number, data⟩ shared).2) := by
  simp only [call, hop]
  generalize operation.run ⟨UInt64.ofNat number, data⟩ shared = ran
  obtain ⟨result, shared⟩ := ran
  cases result <;> rfl

theorem callAll_cons (table : Table σ) (name : String) (data : Bytes)
    (calls : List (String × Bytes)) (state : Nat × σ) :
    table.callAll ((name, data) :: calls) state =
      ((table.call name data state).1 :: (table.callAll calls (table.call name data state).2).1,
        (table.callAll calls (table.call name data state).2).2) := by
  rw [callAll, List.mapM_cons]
  rfl

theorem jobs_cons (table : Table σ) (name : String) (data : Bytes) (calls : List (String × Bytes))
    (number : Nat) (shared : σ) :
    table.jobs number ((name, data) :: calls) =
      table.jobs number [(name, data)] ++
        table.jobs (table.call name data (number, shared)).2.1 calls := by
  cases hop : table.get? name with
  | none =>
    have hnot : table.contains name = false := by simp [contains, hop]
    simp [jobs, hnot, call_of_none hop]
  | some operation =>
    have hin : table.contains name = true := by simp [contains, hop]
    simp [jobs, hin, call_of_some hop]

end Table

namespace Pool

namespace Course

/-- Asks for an operation and waits for the answer, while nobody interferes: the pool takes steps of
its own and no others. -/
def executeAlone (name : String) (data : Bytes) : Course σ Outcome :=
  fun s outcome s' notices => ∃ events, (∀ event ∈ events, Event.Own event) ∧
    run s (.submit name data :: events) = some (s', notices) ∧
    .answered s.nextCall outcome ∈ notices

/-- Asks for operations one after the other, each after the answer to the one before. -/
def inTurn (calls : List (String × Bytes)) : Course σ (List Outcome) :=
  calls.mapM fun call => executeAlone call.1 call.2

end Course

/-- A pool that has nothing to do. -/
structure AtRest (config : Config) (table : Table σ) (number : Nat) (shared : σ)
    (s : State σ) : Prop where
  config_eq : s.config = config
  table_eq : s.table = table
  nextJob_eq : s.nextJob = UInt64.ofNat number
  shared_eq : s.shared = shared
  workers_eq : s.workers = List.replicate config.workers .idle
  waiting_eq : s.waiting = []
  queue_eq : s.queue = []
  stopping_eq : s.stopping = false
  departed_eq : s.departed = []

/-- The only job of a pool on its way, with the number of steps that are left to it. All but the
job is as in the pool that it came to. -/
inductive Stage (s : State σ) (d : Dispatch σ) : Nat → State σ → List Notice → Prop where
  | waiting : Stage s d 4 { s with waiting := [d] } []
  | queued : Stage s d 3 { s with queue := [d] } [.entered d.call]
  | running {w : Nat} (hw : s.workers[w]? = some .idle) :
      Stage s d 2 { s with workers := s.workers.set w (.running d none) }
        [.entered d.call, .started d.call d.job]
  | performed {w : Nat} (hw : s.workers[w]? = some .idle) :
      Stage s d 1
        { s with
          workers := s.workers.set w (.running d (some (d.operation.run d.job s.shared).1))
          shared := (d.operation.run d.job s.shared).2 }
        [.entered d.call, .started d.call d.job,
          .performed d.call (d.operation.run d.job s.shared).1]
  | ended :
      Stage s d 0 { s with shared := (d.operation.run d.job s.shared).2 }
        [.entered d.call, .started d.call d.job,
          .performed d.call (d.operation.run d.job s.shared).1, .ended d.call,
          .answered d.call (outcomeOf (d.operation.run d.job s.shared).1)]

section Rest

variable {config : Config} {table : Table σ} {number : Nat} {shared : σ} {s mid s' : State σ}
  {d : Dispatch σ} {left : Nat} {event : Event} {events : List Event}
  {notices new : List Notice}

theorem AtRest.initial (config : Config) (table : Table σ) (shared : σ) :
    AtRest config table 1 shared (.initial config table shared) :=
  ⟨rfl, rfl, rfl, rfl, rfl, rfl, rfl, rfl, rfl⟩

theorem AtRest.idle (h : AtRest config table number shared s) {w : Nat} {a : Worker σ}
    (hw : s.workers[w]? = some a) : a = .idle := by
  have hmem := List.mem_of_getElem? hw
  rw [h.workers_eq] at hmem
  exact List.eq_of_mem_replicate hmem

/-- Only one worker is not idle where one has been set. -/
theorem AtRest.idle_or_set (h : AtRest config table number shared s) {v w : Nat} {a b : Worker σ}
    (hw : (s.workers.set v b)[w]? = some a) : a = .idle ∨ v = w ∧ a = b := by
  rw [List.getElem?_set] at hw
  split at hw
  · rename_i heq
    split at hw
    · cases hw
      exact .inr ⟨heq, rfl⟩
    · cases hw
  · exact .inl (h.idle hw)

/-- A pool that has nothing to do takes no step of its own. -/
theorem AtRest.still (h : AtRest config table number shared s) (hmove : Moves s event s' new) :
    ¬ event.Own := by
  intro hown
  cases hmove with
  | unknown | tooLate | submit | overrun | leave | shutdown => exact hown
  | enqueue hd => simp [h.waiting_eq] at hd
  | dequeue hgo hw hq => simp [h.queue_eq] at hq
  | perform hw | performHeld hw | finish hw | finishHeld hw => cases h.idle hw
  | exit hstop | exitLast hstop => simp [h.stopping_eq] at hstop

/-- A job that waits for a place in the queue takes the only one. -/
theorem Stage.move_waiting (hrest : AtRest config table number shared s)
    (hmove : Moves { s with waiting := [d] } event s' new) (hown : event.Own) :
    Stage s d 3 s' new := by
  cases hmove with
  | unknown | tooLate | submit | overrun | leave | shutdown => exact hown.elim
  | @enqueue place d' hd hspace =>
    cases place with
    | zero =>
      cases hd
      have hstate : ({ s with waiting := [d].eraseIdx 0, queue := s.queue ++ [d] } : State σ) =
          { s with queue := [d] } := by
        simp [hrest.waiting_eq, hrest.queue_eq]
      exact hstate ▸ .queued
    | succ place => cases hd
  | dequeue hgo hw hq => simp [hrest.queue_eq] at hq
  | perform hw | performHeld hw | finish hw | finishHeld hw => cases hrest.idle hw
  | exit hstop | exitLast hstop => simp [hrest.stopping_eq] at hstop

/-- A job in the queue is taken by some worker. -/
theorem Stage.move_queued (hrest : AtRest config table number shared s)
    (hmove : Moves { s with queue := [d] } event s' new) (hown : event.Own) :
    Stage s d 2 s' ([.entered d.call] ++ new) := by
  cases hmove with
  | unknown | tooLate | submit | overrun | leave | shutdown => exact hown.elim
  | enqueue hd => simp [hrest.waiting_eq] at hd
  | dequeue hgo hw hq =>
    cases hq
    rw [← hrest.queue_eq]
    exact .running hw
  | perform hw | performHeld hw | finish hw | finishHeld hw => cases hrest.idle hw
  | exit hstop | exitLast hstop => simp [hrest.stopping_eq] at hstop

/-- A worker with a job takes the step that is next for it: it runs the operation if it has not, and
else hands over what the run came to. -/
theorem AtRest.move_busy (hrest : AtRest config table number shared s) {v : Nat}
    (hv : s.workers[v]? = some .idle) {result : Option (Attempt Outcome)} {state : σ}
    (hmove : Moves { s with workers := s.workers.set v (.running d result), shared := state } event
      s' new) (hown : event.Own) :
    (result = none ∧ new = [.performed d.call (d.operation.run d.job state).1] ∧
      s' = { s with
        workers := s.workers.set v (.running d (some (d.operation.run d.job state).1))
        shared := (d.operation.run d.job state).2 }) ∨
    ∃ came, result = some came ∧
      new = [.ended d.call, .answered d.call (outcomeOf came)] ∧ s' = { s with shared := state } := by
  cases hmove with
  | unknown | tooLate | submit | overrun | leave | shutdown => exact hown.elim
  | enqueue hd => simp [hrest.waiting_eq] at hd
  | dequeue hgo hw hq => simp [hrest.queue_eq] at hq
  | perform hw =>
    obtain hidle | ⟨rfl, hset⟩ := hrest.idle_or_set hw
    · cases hidle
    · cases hset
      refine .inl ⟨rfl, rfl, ?_⟩
      rw [List.set_set]
  | finish hw =>
    obtain hidle | ⟨rfl, hset⟩ := hrest.idle_or_set hw
    · cases hidle
    · cases hset
      have hstay : d.call ∉ s.departed := by simp [hrest.departed_eq]
      obtain ⟨hlt, hget⟩ := List.getElem?_eq_some_iff.mp hv
      refine .inr ⟨_, rfl, ?_, ?_⟩
      · rw [State.answer, if_neg hstay]
      · rw [List.set_set, ← hget, List.set_getElem_self]
  | performHeld hw | finishHeld hw =>
    obtain hidle | ⟨-, hset⟩ := hrest.idle_or_set hw
    · cases hidle
    · cases hset
  | exit hstop | exitLast hstop => simp [hrest.stopping_eq] at hstop

/-- A job takes its next step, and the pool no other. -/
theorem Stage.move (h : Stage s d left mid notices) (hrest : AtRest config table number shared s)
    (hmove : Moves mid event s' new) (hown : event.Own) :
    ∃ fewer, left = fewer + 1 ∧ Stage s d fewer s' (notices ++ new) := by
  cases h with
  | waiting => exact ⟨3, rfl, .move_waiting hrest hmove hown⟩
  | queued => exact ⟨2, rfl, .move_queued hrest hmove hown⟩
  | running hv =>
    obtain ⟨-, rfl, rfl⟩ | ⟨came, hcame, -⟩ := hrest.move_busy hv hmove hown
    · exact ⟨1, rfl, .performed hv⟩
    · cases hcame
  | performed hv =>
    obtain ⟨hnone, -⟩ | ⟨came, hcame, rfl, rfl⟩ := hrest.move_busy hv hmove hown
    · cases hnone
    · cases hcame
      exact ⟨0, rfl, .ended⟩
  | ended =>
    have hstill : AtRest config table number (d.operation.run d.job s.shared).2
        { s with shared := (d.operation.run d.job s.shared).2 } := { hrest with shared_eq := rfl }
    exact absurd hown (hstill.still hmove)

/-- So after some steps a job is at the stage after as many. -/
theorem Stage.of_run (hrest : AtRest config table number shared s)
    (hrun : run { s with waiting := [d] } events = some (s', notices))
    (hown : ∀ event ∈ events, Event.Own event) :
    ∃ left, left + events.length = 4 ∧ Stage s d left s' notices := by
  refine run_induction (P := fun events s' notices => (∀ event ∈ events, Event.Own event) →
    ∃ left, left + events.length = 4 ∧ Stage s d left s' notices)
    (fun _ => ⟨4, rfl, .waiting⟩) ?_ hrun hown
  rintro events mid notices event s' new - ih hmove hown
  obtain ⟨left, hsum, hstage⟩ := ih fun event hmem => hown event (List.mem_append_left _ hmem)
  obtain ⟨fewer, rfl, hnext⟩ := hstage.move hrest hmove (hown event (by simp))
  refine ⟨fewer, ?_, hnext⟩
  rw [List.length_append, List.length_singleton]
  omega

theorem AtRest.not_closed (h : AtRest config table number shared s) (hworkers : 0 < config.workers) :
    s.closed = false := by
  refine open_of_worker (w := 0) (a := .idle) ?_ rfl
  rw [h.workers_eq, List.getElem?_replicate, if_pos hworkers]

/-- Before the last of its steps a job has a next one. -/
theorem Stage.goes (h : Stage s d (left + 1) mid notices)
    (hrest : AtRest config table number shared s) (hworkers : 0 < config.workers)
    (hdepth : 0 < config.queueDepth) : mid.Goes := by
  have hopen := hrest.not_closed hworkers
  rw [← hrest.config_eq] at hdepth
  cases h with
  | waiting => exact goes_of_pending hdepth hopen (by simp [State.pending])
  | queued => exact goes_of_pending hdepth hopen (by simp [State.pending])
  | running hw | performed hw =>
    obtain ⟨hlt, -⟩ := List.getElem?_eq_some_iff.mp hw
    exact goes_of_busy (List.getElem?_set_self hlt) rfl

/-- So it comes to its end. -/
theorem Stage.exists_run (h : Stage s d left mid notices)
    (hrest : AtRest config table number shared s) (hworkers : 0 < config.workers)
    (hdepth : 0 < config.queueDepth) :
    ∃ events s' new, (∀ event ∈ events, Event.Own event) ∧ run mid events = some (s', new) ∧
      Stage s d 0 s' (notices ++ new) := by
  induction left generalizing mid notices with
  | zero => exact ⟨[], mid, [], by simp, rfl, by rwa [List.append_nil]⟩
  | succ left ih =>
    obtain ⟨event, next, first, hown, hstep⟩ := h.goes hrest hworkers hdepth
    obtain ⟨fewer, heq, hnext⟩ := h.move hrest (moves_of_step hstep) hown
    cases heq
    obtain ⟨events, s', new, howns, hrun, hover⟩ := ih hnext
    refine ⟨event :: events, s', first ++ new, List.forall_mem_cons.mpr ⟨hown, howns⟩,
      run_of_step hstep hrun, ?_⟩
    rwa [← List.append_assoc]

/-- The answer comes with the last of the steps. -/
theorem Stage.answered_iff (h : Stage s d left mid notices) {outcome : Outcome} :
    .answered d.call outcome ∈ notices ↔
      left = 0 ∧ outcome = outcomeOf (d.operation.run d.job s.shared).1 := by
  cases h <;> simp

end Rest

section Calls

variable {config : Config} {table : Table σ} {number : Nat} {shared : σ} {s s' : State σ}
  {events : List Event} {notices : List Notice} {name : String} {data : Bytes}
  {operation : Operation σ} {outcome : Outcome} {outcomes : List Outcome}
  {calls : List (String × Bytes)}

/-- The pool after a call of an operation that is not registered, which is answered at once. -/
def State.passed (s : State σ) : State σ := { s with nextCall := s.nextCall + 1 }

/-- The pool after a call that has a job, but for the job. -/
def State.numbered (s : State σ) : State σ :=
  { s with nextCall := s.nextCall + 1, nextJob := s.nextJob + 1 }

namespace AtRest

theorem passed (h : AtRest config table number shared s) :
    AtRest config table number shared s.passed :=
  { h with }

theorem numbered (h : AtRest config table number shared s) :
    AtRest config table (number + 1) shared s.numbered :=
  { h with
    nextJob_eq := by
      rw [UInt64.ofNat_add, ← h.nextJob_eq]
      rfl }

/-- A call of an operation that is not registered is over with its answer. -/
theorem run_unknown (h : AtRest config table number shared s) (hop : table.get? name = none)
    (hrun : run s (.submit name data :: events) = some (s', notices))
    (hown : ∀ event ∈ events, Event.Own event) :
    events = [] ∧ s' = s.passed ∧
      notices = [.answered s.nextCall (.error (.unknownOperation name))] := by
  rw [← h.table_eq] at hop
  rw [run_cons, Option.bind_eq_some_iff] at hrun
  obtain ⟨⟨mid, first⟩, hstep, hrun⟩ := hrun
  cases moves_of_step hstep with
  | tooLate hop' | submit hop' => simp [hop] at hop'
  | unknown =>
    cases events with
    | nil =>
      cases hrun
      exact ⟨rfl, rfl, rfl⟩
    | cons event events =>
      rw [run_cons, Option.map_bind, Option.bind_eq_some_iff] at hrun
      obtain ⟨⟨next, new⟩, hnext, -⟩ := hrun
      exact absurd (List.forall_mem_cons.mp hown).1 (h.passed.still (moves_of_step hnext))

/-- Any other has a job, which is at one of its stages. -/
theorem run_registered (h : AtRest config table number shared s) (hworkers : 0 < config.workers)
    (hop : table.get? name = some operation)
    (hrun : run s (.submit name data :: events) = some (s', notices))
    (hown : ∀ event ∈ events, Event.Own event) :
    ∃ left, left + events.length = 4 ∧
      Stage s.numbered ⟨s.nextCall, operation, ⟨s.nextJob, data⟩⟩ left s' notices := by
  rw [← h.table_eq] at hop
  rw [run_cons, Option.bind_eq_some_iff] at hrun
  obtain ⟨⟨mid, first⟩, hstep, hrun⟩ := hrun
  cases moves_of_step hstep with
  | unknown hop' => simp [hop] at hop'
  | tooLate hop' hclosed => simp [h.not_closed hworkers] at hclosed
  | submit hop' =>
    cases hop.symm.trans hop'
    simp only [h.waiting_eq, List.nil_append, Option.map_id_fun', id] at hrun
    exact Stage.of_run h.numbered hrun hown

/-- One call is answered as the table answers it, and leaves a pool at rest behind. -/
theorem executeAlone (h : AtRest config table number shared s) (hworkers : 0 < config.workers)
    (hcourse : Course.executeAlone name data s outcome s' notices) :
    outcome = (table.call name data (number, shared)).1 ∧
      AtRest config table (table.call name data (number, shared)).2.1
        (table.call name data (number, shared)).2.2 s' ∧
      (started notices).map Prod.snd = table.jobs number [(name, data)] := by
  obtain ⟨events, hown, hrun, hanswered⟩ := hcourse
  cases hop : table.get? name with
  | none =>
    obtain ⟨-, rfl, rfl⟩ := h.run_unknown hop hrun hown
    rw [Table.call_of_none hop]
    refine ⟨by simpa using hanswered, h.passed, ?_⟩
    simp [Table.jobs, Table.contains, hop, started, Notice.started?]
  | some operation =>
    obtain ⟨left, -, hstage⟩ := h.run_registered hworkers hop hrun hown
    obtain ⟨rfl, rfl⟩ := hstage.answered_iff.mp hanswered
    rw [Table.call_of_some hop, ← h.nextJob_eq, ← h.shared_eq]
    cases hstage
    refine ⟨rfl, { h.numbered with shared_eq := rfl }, ?_⟩
    simp [Table.jobs, Table.contains, hop, started, List.filterMap_cons, Notice.started?,
      h.nextJob_eq]

/-- A call comes to its answer. -/
theorem exists_executeAlone (h : AtRest config table number shared s)
    (hworkers : 0 < config.workers) (hdepth : 0 < config.queueDepth) (name : String)
    (data : Bytes) : ∃ outcome s' notices, Course.executeAlone name data s outcome s' notices := by
  obtain ⟨mid, first, hstep⟩ : ∃ mid first, run s [.submit name data] = some (mid, first) :=
    ⟨_, _, rfl⟩
  cases hop : table.get? name with
  | none =>
    obtain ⟨-, rfl, rfl⟩ := h.run_unknown hop hstep (by simp)
    exact ⟨_, _, _, [], by simp, hstep, List.mem_singleton_self _⟩
  | some operation =>
    obtain ⟨left, -, hstage⟩ := h.run_registered hworkers hop hstep (by simp)
    obtain ⟨events, s', new, hown, hrun, hover⟩ := hstage.exists_run h.numbered hworkers hdepth
    exact ⟨_, s', first ++ new, events, hown, run_trans hstep hrun,
      hover.answered_iff.mpr ⟨rfl, rfl⟩⟩

/-- After a call the pool goes on for four steps at most, and not without coming to the answer. -/
theorem answered_or_goes (h : AtRest config table number shared s)
    (hworkers : 0 < config.workers) (hdepth : 0 < config.queueDepth)
    (hrun : run s (.submit name data :: events) = some (s', notices))
    (hown : ∀ event ∈ events, Event.Own event) :
    events.length ≤ 4 ∧
      ((∃ outcome, Course.executeAlone name data s outcome s' notices) ∨ s'.Goes) := by
  cases hop : table.get? name with
  | none =>
    obtain ⟨rfl, rfl, rfl⟩ := h.run_unknown hop hrun hown
    exact ⟨by simp, .inl ⟨_, [], by simp, hrun, List.mem_singleton_self _⟩⟩
  | some operation =>
    obtain ⟨left, hsum, hstage⟩ := h.run_registered hworkers hop hrun hown
    refine ⟨by omega, ?_⟩
    cases left with
    | zero => exact .inl ⟨_, events, hown, hrun, hstage.answered_iff.mpr ⟨rfl, rfl⟩⟩
    | succ left => exact .inr (hstage.goes h.numbered hworkers hdepth)

/-- Calls in turn are answered as the table answers them. -/
theorem inTurn (h : AtRest config table number shared s) (hworkers : 0 < config.workers)
    (hcourse : Course.inTurn calls s outcomes s' notices) :
    outcomes = (table.callAll calls (number, shared)).1 ∧
      AtRest config table (table.callAll calls (number, shared)).2.1
        (table.callAll calls (number, shared)).2.2 s' ∧
      (started notices).map Prod.snd = table.jobs number calls := by
  induction calls generalizing number shared s outcomes notices with
  | nil =>
    obtain ⟨rfl, rfl, rfl⟩ := Course.pure_iff.mp hcourse
    exact ⟨rfl, h, rfl⟩
  | cons call calls ih =>
    obtain ⟨name, data⟩ := call
    rw [Course.inTurn, List.mapM_cons] at hcourse
    obtain ⟨outcome, mid, first, later, hfirst, hlater, rfl⟩ := Course.bind_iff.mp hcourse
    obtain ⟨rest, last, second, ending, hsecond, hending, rfl⟩ := Course.bind_iff.mp hlater
    obtain ⟨rfl, rfl, rfl⟩ := Course.pure_iff.mp hending
    obtain ⟨rfl, hmid, hjob⟩ := h.executeAlone hworkers hfirst
    obtain ⟨rfl, hlast, hjobs⟩ := ih hmid hsecond
    rw [Table.callAll_cons]
    refine ⟨rfl, hlast, ?_⟩
    rw [List.append_nil, started_append, List.map_append, hjob, hjobs,
      Table.jobs_cons table name data calls number shared]

/-- They all come to their answers. -/
theorem exists_inTurn (h : AtRest config table number shared s) (hworkers : 0 < config.workers)
    (hdepth : 0 < config.queueDepth) (calls : List (String × Bytes)) :
    ∃ outcomes s' notices, Course.inTurn calls s outcomes s' notices := by
  induction calls generalizing number shared s with
  | nil => exact ⟨[], s, [], Course.pure_iff.mpr ⟨rfl, rfl, rfl⟩⟩
  | cons call calls ih =>
    obtain ⟨outcome, mid, first, hfirst⟩ := h.exists_executeAlone hworkers hdepth call.1 call.2
    obtain ⟨-, hmid, -⟩ := h.executeAlone hworkers hfirst
    obtain ⟨rest, s', second, hsecond⟩ := ih hmid
    refine ⟨outcome :: rest, s', first ++ (second ++ []), ?_⟩
    rw [Course.inTurn, List.mapM_cons]
    exact ⟨outcome, mid, first, second ++ [], hfirst,
      ⟨rest, s', second, [], hsecond, ⟨rfl, rfl, rfl⟩, rfl⟩, rfl⟩

end AtRest

/-- A pool that is called in turn does what its table does without a pool. However its workers
share the calls among them, the outcomes are those of the operations run directly, one after the
other from what they share at first; the jobs are numbered from one on, without gaps; and every
call comes to its answer, within four steps. So no pool of the same table answers otherwise,
whatever the number of its workers and the depth of its queue. -/
theorem inTurn_of_start {s₀ : State σ} (hstart : State.start config table shared = .ok s₀)
    (calls : List (String × Bytes)) :
    (∃ outcomes s notices, Course.inTurn calls s₀ outcomes s notices) ∧
      ∀ outcomes s notices, Course.inTurn calls s₀ outcomes s notices →
        outcomes = (table.callAll calls (1, shared)).1 ∧
        s.shared = (table.callAll calls (1, shared)).2.2 ∧
        (started notices).map Prod.snd = table.jobs 1 calls ∧
        (∀ name data events s' new, run s (.submit name data :: events) = some (s', new) →
          (∀ event ∈ events, Event.Own event) →
          events.length ≤ 4 ∧
            ((∃ outcome, Course.executeAlone name data s outcome s' new) ∨ s'.Goes)) ∧
        ∀ config' s₀' outcomes' s' notices', State.start config' table shared = .ok s₀' →
          Course.inTurn calls s₀' outcomes' s' notices' → outcomes' = outcomes := by
  have hrest : ∀ {config : Config} {s₀ : State σ}, State.start config table shared = .ok s₀ →
      AtRest config table 1 shared s₀ ∧ 0 < config.workers ∧ 0 < config.queueDepth := by
    intro config s₀ hstart
    obtain ⟨hvalid, -, rfl⟩ := State.start_eq_ok_iff.mp hstart
    obtain ⟨hworkers, hdepth, -⟩ := (Config.validate_eq_ok_iff config).mp hvalid
    exact ⟨.initial config table shared, hworkers, hdepth⟩
  obtain ⟨hrest₀, hworkers, hdepth⟩ := hrest hstart
  refine ⟨hrest₀.exists_inTurn hworkers hdepth calls, fun outcomes s notices hcourse => ?_⟩
  obtain ⟨rfl, hlast, hjobs⟩ := hrest₀.inTurn hworkers hcourse
  refine ⟨rfl, hlast.shared_eq, hjobs, ?_, ?_⟩
  · intro name data events s' new hrun hown
    exact hlast.answered_or_goes hworkers hdepth hrun hown
  · intro config' s₀' outcomes' s' notices' hstart' hcourse'
    obtain ⟨hrest', hworkers', -⟩ := hrest hstart'
    exact (hrest'.inTurn hworkers' hcourse').1

end Calls

/-- Two workers share five calls: of an operation that counts, of none, of one that panics, of one
that returns an error, and of the first again. -/
theorem inTurn_of_five_calls :
    ∃ (table : Table Nat) (s₀ s : State Nat) (outcomes : List Outcome) (notices : List Notice),
      State.start ⟨2, 1, ⟨1⟩⟩ table 0 = .ok s₀ ∧
      Course.inTurn [("count", []), ("none", []), ("boom", []), ("fail", []), ("count", [])] s₀
        outcomes s notices ∧
      outcomes = [.ok [0], .error (.unknownOperation "none"), .error .workerPanicked,
        .error (.invalidJob "no"), .ok [1]] ∧
      s.shared = 2 ∧ (started notices).map Prod.snd = [⟨1, []⟩, ⟨2, []⟩, ⟨3, []⟩, ⟨4, []⟩] := by
  let count : Operation Nat :=
    ⟨fun _ n => (.returned (.ok [UInt8.ofNat n]), n + 1), .timedOut, fun _ _ => false⟩
  let table : Table Nat :=
    ⟨[("boom", .panic), ("count", count), ("fail", .fail (.invalidJob "no"))]⟩
  let calls : List (String × Bytes) :=
    [("count", []), ("none", []), ("boom", []), ("fail", []), ("count", [])]
  have hstart : State.start ⟨2, 1, ⟨1⟩⟩ table 0 = .ok (.initial ⟨2, 1, ⟨1⟩⟩ table 0) := rfl
  obtain ⟨⟨outcomes, s, notices, hcourse⟩, hall⟩ := inTurn_of_start hstart calls
  obtain ⟨houtcomes, hshared, hjobs, -⟩ := hall outcomes s notices hcourse
  exact ⟨table, _, s, outcomes, notices, hstart, hcourse, houtcomes, hshared, hjobs⟩

end Pool

end DerivationPool

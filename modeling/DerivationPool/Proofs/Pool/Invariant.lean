import DerivationPool.Proofs.Pool.Ledger

/-!
The invariant of a pool. The jobs of a state are those that wait for space, those in
the queue and those of the workers; `Sound` says that the ledger of these jobs is in
order, that no worker is lost, and that workers end only after the pool was told to
stop. A pool that starts is sound, every move keeps it so, and thus every run does.
-/
namespace DerivationPool.Pool

variable {σ : Type}

def Worker.positions : Worker σ → List (Position σ)
  | running d result => [(d, .running result)]
  | held d result => [(d, .held result)]
  | idle | exited => []

namespace State

def pending (s : State σ) : List (Position σ) :=
  s.queue.map (·, .queued) ++ s.waiting.map (·, .waiting)

def positions (s : State σ) : List (Position σ) :=
  s.pending ++ s.workers.flatMap Worker.positions

end State

/-- The jobs of a pool but for that of one worker. -/
def State.positionsBut (s : State σ) (w : Nat) : List (Position σ) :=
  s.pending ++ (s.workers.eraseIdx w).flatMap Worker.positions

theorem positions_perm {s : State σ} {w : Nat} {a : Worker σ} (hw : s.workers[w]? = some a) :
    s.positions.Perm (a.positions ++ s.positionsBut w) := by
  obtain ⟨hi, rfl⟩ := List.getElem?_eq_some_iff.mp hw
  have hworkers := (List.getElem_cons_eraseIdx_perm hi).symm.flatMap_right Worker.positions
  exact (hworkers.append_left s.pending).trans (List.perm_append_comm_assoc _ _ _)

/-- Exchanging one worker for another exchanges their jobs. -/
theorem positions_perm_set {s : State σ} (s' : State σ) {w : Nat} {a b : Worker σ}
    (hw : s.workers[w]? = some a) (hworkers : s'.workers = s.workers.set w b) :
    s'.positions.Perm
      (b.positions ++ (s'.pending ++ (s.workers.eraseIdx w).flatMap Worker.positions)) := by
  obtain ⟨hi, -⟩ := List.getElem?_eq_some_iff.mp hw
  have hset := (List.set_perm_cons_eraseIdx hi b).flatMap_right Worker.positions
  rw [State.positions, hworkers]
  exact (hset.append_left s'.pending).trans (List.perm_append_comm_assoc _ _ _)

theorem mem_positions {s : State σ} {w : Nat} {a : Worker σ} (hw : s.workers[w]? = some a)
    {p : Position σ} (hp : p ∈ a.positions) : p ∈ s.positions :=
  List.mem_append_right _ (List.mem_flatMap.mpr ⟨a, List.mem_of_getElem? hw, hp⟩)

/-- Only workers run jobs. -/
theorem mem_workers_of_running {s : State σ} {d : Dispatch σ} {result : Option (Attempt Outcome)}
    (h : (d, .running result) ∈ s.positions) : .running d result ∈ s.workers := by
  obtain hpending | hworkers := List.mem_append.mp h
  · simp [State.pending] at hpending
  · obtain ⟨a, ha, hp⟩ := List.mem_flatMap.mp hworkers
    cases a with
    | running d' result' =>
      cases List.mem_singleton.mp hp
      exact ha
    | held d' result' => cases List.mem_singleton.mp hp
    | idle | exited => cases hp

/-- What holds in a run of a pool after some events and their notices. -/
structure Sound (config : Config) (table : Table σ) (events : List Event) (s : State σ)
    (notices : List Notice) : Prop where
  config_eq : s.config = config
  table_eq : s.table = table
  nextCall_eq : s.nextCall = (requests events).length
  nextJob_eq : s.nextJob = jobNumber table (requests events)
  length_workers : s.workers.length = config.workers
  stopping_iff : s.stopping = true ↔ .shutdown ∈ events
  stopping_of_exited : ∀ w : Nat, s.workers[w]? = some .exited → s.stopping = true
  empty_of_closed : s.closed = true → s.pending = []
  ledger : Ledger table (requests events) s.departed s.stopping s.positions notices

namespace Sound

variable {config : Config} {table : Table σ} {events : List Event} {s s' : State σ}
  {notices new : List Notice} {event : Event}

/-- A pool that starts is sound: no call was made and every worker is there. -/
theorem initial (config : Config) (table : Table σ) (shared : σ) :
    Sound config table [] (State.initial config table shared) [] where
  config_eq := rfl
  table_eq := rfl
  nextCall_eq := rfl
  nextJob_eq := rfl
  length_workers := List.length_replicate
  stopping_iff := by simp [State.initial]
  stopping_of_exited w hw := by
    have hmem := List.mem_of_getElem? hw
    rw [State.initial, List.mem_replicate] at hmem
    cases hmem.2
  empty_of_closed _ := rfl
  ledger := by
    have hnone : (State.initial config table shared).positions = [] := by
      simp [State.positions, State.pending, State.initial, Worker.positions]
    rw [hnone]
    exact .initial table [] false

/-- The ledger, with the job of one worker in front. -/
theorem ledger_at (h : Sound config table events s notices) {w : Nat} {a : Worker σ}
    (hw : s.workers[w]? = some a) :
    Ledger table (requests events) s.departed s.stopping (a.positions ++ s.positionsBut w)
      notices := h.ledger.perm (positions_perm hw)

/-- Notices of a step whose first is about a call and whose others answer it. -/
theorem call_of_mem_cons {first : Notice} {call : Nat} {outcome : Outcome}
    (hfirst : first.call = call) : ∀ n ∈ first :: s.answer call outcome, n.call = call := by
  intro n hn
  obtain rfl | hn := List.mem_cons.mp hn
  · exact hfirst
  · exact call_of_mem_answer hn

theorem ledger_enqueue (h : Sound config table events s notices) {place : Nat} {d : Dispatch σ}
    (hd : s.waiting[place]? = some d) :
    Ledger table (requests events) s.departed s.stopping
      { s with waiting := s.waiting.eraseIdx place, queue := s.queue ++ [d] }.positions
      (notices ++ [.entered d.call]) := by
  obtain ⟨hplace, rfl⟩ := List.getElem?_eq_some_iff.mp hd
  let others := s.queue.map (·, Standing.queued) ++
    (s.waiting.eraseIdx place).map (·, Standing.waiting) ++ s.workers.flatMap Worker.positions
  have hbefore : s.positions.Perm ((s.waiting[place], .waiting) :: others) := by
    have hwaiting := (List.getElem_cons_eraseIdx_perm hplace).symm.map (·, Standing.waiting)
    refine ((hwaiting.append_left _).append_right _).trans ?_
    simp [others]
  have hafter : (((s.waiting[place], .queued) :: others)).Perm
      { s with waiting := s.waiting.eraseIdx place
               queue := s.queue ++ [s.waiting[place]] }.positions := by
    simp only [State.positions, State.pending, List.map_append, List.append_assoc, others]
    exact List.perm_middle.symm
  have hledger := h.ledger.perm hbefore
  exact (hledger.advance (by simp [Notice.call]) hledger.kept.enter).perm hafter

theorem ledger_dequeue (h : Sound config table events s notices) {w : Nat} {d : Dispatch σ}
    {rest : List (Dispatch σ)} (hw : s.workers[w]? = some .idle) (hq : s.queue = d :: rest) :
    Ledger table (requests events) s.departed s.stopping
      { s with workers := s.workers.set w (.running d none), queue := rest }.positions
      (notices ++ [.started d.call d.job]) := by
  have hbefore := h.ledger_at hw
  have hafter := positions_perm_set
    { s with workers := s.workers.set w (.running d none), queue := rest } hw rfl
  simp only [Worker.positions, State.positionsBut, State.pending, hq, List.map_cons,
    List.cons_append, List.nil_append] at hbefore hafter
  exact (hbefore.advance (by simp [Notice.call]) hbefore.kept.start).perm hafter.symm

/-- A worker whose job goes from one standing to the next. -/
theorem ledger_advance (h : Sound config table events s notices) {w : Nat} {a b : Worker σ}
    {d : Dispatch σ} {standing standing' : Standing} (hw : s.workers[w]? = some a)
    (ha : a.positions = [(d, standing)]) (hb : b.positions = [(d, standing')])
    (hworkers : s'.workers = s.workers.set w b) (hpending : s'.pending = s.pending)
    (hnew : ∀ n ∈ new, n.call = d.call)
    (hkept : ∀ account, Kept s.departed s.stopping d standing account →
      Kept s.departed s.stopping d standing' (new.foldl Account.note account)) :
    Ledger table (requests events) s.departed s.stopping s'.positions (notices ++ new) := by
  have hbefore := h.ledger_at hw
  have hafter := positions_perm_set s' hw hworkers
  rw [ha] at hbefore
  rw [hb, hpending] at hafter
  exact (hbefore.advance hnew (hkept _ hbefore.kept)).perm hafter.symm

/-- A worker that is done with its job. -/
theorem ledger_retire (h : Sound config table events s notices) {w : Nat} {a : Worker σ}
    {d : Dispatch σ} {standing : Standing} (hw : s.workers[w]? = some a)
    (ha : a.positions = [(d, standing)]) (hworkers : s'.workers = s.workers.set w .idle)
    (hpending : s'.pending = s.pending) (hnew : ∀ n ∈ new, n.call = d.call)
    (hkept : ∀ account, Kept s.departed s.stopping d standing account →
      Kept s.departed s.stopping d .over (new.foldl Account.note account)) :
    Ledger table (requests events) s.departed s.stopping s'.positions (notices ++ new) := by
  have hbefore := h.ledger_at hw
  have hafter := positions_perm_set s' hw hworkers
  rw [ha] at hbefore
  rw [hpending] at hafter
  exact (hbefore.retire hnew (hkept _ hbefore.kept)).perm hafter.symm

theorem ledger_leave (h : Sound config table events s notices) (call : Nat) :
    Ledger table (requests events) (call :: s.departed) s.stopping
      { s with
        departed := call :: s.departed
        waiting := s.waiting.filter fun d => d.call ≠ call }.positions
      notices := by
  let gone := (s.waiting.filter fun d => d.call = call).map (·, Standing.waiting)
  have hwaiting : (s.waiting.map (·, Standing.waiting)).Perm
      (gone ++ (s.waiting.filter fun d => d.call ≠ call).map (·, Standing.waiting)) := by
    have hsplit := List.filter_append_perm (fun d => decide (d.call = call)) s.waiting
    rw [← List.map_append]
    simpa using (hsplit.map (·, Standing.waiting)).symm
  have hpending := (hwaiting.append_left (s.queue.map (·, Standing.queued))).trans
    (List.perm_append_comm_assoc _ _ _)
  have hperm := hpending.append_right (s.workers.flatMap Worker.positions)
  rw [List.append_assoc gone] at hperm
  have hledger := (h.ledger.perm hperm).mono (List.subset_cons_self call s.departed) id
  have hretired := hledger.retire_all (fun _ => []) (by simp) (by
    intro p hp account kept
    obtain ⟨d, hd, rfl⟩ := List.mem_map.mp hp
    have hcall : d.call = call := by simpa using (List.mem_filter.mp hd).2
    exact kept.leave (by simp [hcall]))
  have hnone : gone.flatMap (fun _ => ([] : List Notice)) = [] := by simp
  rw [hnone, List.append_nil] at hretired
  exact hretired

/-- The job of a new call comes into the ledger as one that waits for space. -/
theorem ledger_submit (h : Sound config table events s notices) {name : String} (data : Bytes)
    {operation : Operation σ} (hop : s.table.get? name = some operation) :
    Ledger table (requests events ++ [(name, data)]) s.departed s.stopping
      ((⟨s.nextCall, operation, ⟨s.nextJob, data⟩⟩, .waiting) :: s.positions) notices := by
  rw [h.nextCall_eq, h.nextJob_eq]
  exact h.ledger.accept data (h.table_eq ▸ hop)

theorem stopping_of_closed (h : Sound config table events s notices) (hsize : 0 < config.workers)
    (hclosed : s.closed = true) : s.stopping = true := by
  have hlen : 0 < s.workers.length := h.length_workers ▸ hsize
  have hexited := List.all_eq_true.mp hclosed _ (List.getElem_mem hlen)
  refine h.stopping_of_exited 0 ?_
  rw [List.getElem?_eq_getElem hlen]
  cases hworker : s.workers[0] with
  | exited => rfl
  | _ => simp [hworker, Worker.hasExited] at hexited

/-- A call that comes when the pool is closed is refused. -/
theorem ledger_tooLate (h : Sound config table events s notices) (hsize : 0 < config.workers)
    {name : String} (data : Bytes) {operation : Operation σ}
    (hop : s.table.get? name = some operation) (hclosed : s.closed = true) :
    Ledger table (requests events ++ [(name, data)]) s.departed s.stopping s.positions
      (notices ++ [.answered s.nextCall (.error .poolClosed)]) := by
  refine (h.ledger_submit data hop).retire (by simp [Notice.call]) ?_
  rw [(h.ledger_submit data hop).kept.eq_of_waiting]
  exact .refused 0 _ (h.stopping_of_closed hsize hclosed) (.inl rfl)

/-- The jobs that no worker has taken are refused when the last worker ends. -/
theorem ledger_exitLast (h : Sound config table events s notices) (hstop : s.stopping = true)
    {w : Nat} (hw : s.workers[w]? = some .idle) :
    Ledger table (requests events) s.departed s.stopping
      { s with workers := s.workers.set w .exited, queue := [], waiting := [] }.positions
      (notices ++
        (s.queue ++ s.waiting).flatMap fun d => s.answer d.call (.error .poolClosed)) := by
  let news : Position σ → List Notice := fun p => s.answer p.1.call (.error .poolClosed)
  have hledger : Ledger table (requests events) s.departed s.stopping
      (s.pending ++ s.workers.flatMap Worker.positions) notices := h.ledger
  have hretired := hledger.retire_all news (fun p _ n hn => call_of_mem_answer hn) (by
      intro p hp a kept
      have hstanding : p.2 = .waiting ∨ p.2 = .queued := by
        obtain hp | hp := List.mem_append.mp hp
        · obtain ⟨d, -, rfl⟩ := List.mem_map.mp hp
          exact .inr rfl
        · obtain ⟨d, -, rfl⟩ := List.mem_map.mp hp
          exact .inl rfl
      rw [hstop] at kept ⊢
      exact kept.refuse hstanding)
  have hnews : s.pending.flatMap news =
      (s.queue ++ s.waiting).flatMap fun d => s.answer d.call (.error .poolClosed) := by
    simp [State.pending, news, List.flatMap_map]
  have hbefore := positions_perm (s := { s with queue := [], waiting := [] }) hw
  have hafter := positions_perm_set
    { s with workers := s.workers.set w .exited, queue := [], waiting := [] } hw rfl
  rw [hnews] at hretired
  exact hretired.perm (hbefore.trans hafter.symm)

/-- Moves that are neither calls nor the order to stop. -/
theorem of_quiet (h : Sound config table events s notices)
    (hevent : requests [event] = [] ∧ event ≠ .shutdown)
    (hsame : s'.config = s.config ∧ s'.table = s.table ∧ s'.nextCall = s.nextCall ∧
      s'.nextJob = s.nextJob ∧ s'.stopping = s.stopping)
    (hlength : s'.workers.length = s.workers.length)
    (hexited : ∀ w : Nat, s'.workers[w]? = some .exited → s.stopping = true)
    (hempty : s'.closed = true → s'.pending = [])
    (hledger : Ledger table (requests events) s'.departed s'.stopping s'.positions
      (notices ++ new)) :
    Sound config table (events ++ [event]) s' (notices ++ new) := by
  obtain ⟨hconfig, htable, hcall, hjob, hstopping⟩ := hsame
  have hrequests : requests (events ++ [event]) = requests events := by simp [hevent.1]
  have hmem : .shutdown ∈ events ++ [event] ↔ .shutdown ∈ events := by
    simp [hevent.2.symm]
  refine ⟨hconfig.trans h.config_eq, htable.trans h.table_eq, ?_, ?_,
    hlength.trans h.length_workers, ?_, ?_, hempty, ?_⟩
  · rw [hrequests, hcall, h.nextCall_eq]
  · rw [hrequests, hjob, h.nextJob_eq]
  · rw [hstopping, hmem, h.stopping_iff]
  · intro w hw
    rw [hstopping]
    exact hexited w hw
  · rw [hrequests]
    exact hledger

theorem not_closed_of_set {w : Nat} {a b : Worker σ} (hw : s.workers[w]? = some a)
    (hb : b.hasExited = false) (hworkers : s'.workers = s.workers.set w b) : s'.closed = false := by
  obtain ⟨hlt, -⟩ := List.getElem?_eq_some_iff.mp hw
  rw [State.closed, hworkers, List.all_eq_false]
  exact ⟨b, List.mem_set hlt b, by simp [hb]⟩

/-- Moves of one worker that goes on afterwards. -/
theorem of_worker (h : Sound config table events s notices)
    (hevent : requests [event] = [] ∧ event ≠ .shutdown)
    (hsame : s'.config = s.config ∧ s'.table = s.table ∧ s'.nextCall = s.nextCall ∧
      s'.nextJob = s.nextJob ∧ s'.stopping = s.stopping)
    {w : Nat} {a b : Worker σ} (hw : s.workers[w]? = some a) (hb : b.hasExited = false)
    (hworkers : s'.workers = s.workers.set w b)
    (hledger : Ledger table (requests events) s'.departed s'.stopping s'.positions
      (notices ++ new)) :
    Sound config table (events ++ [event]) s' (notices ++ new) := by
  refine h.of_quiet hevent hsame (by simp [hworkers]) ?_ ?_ hledger
  · intro v hv
    rw [hworkers, List.getElem?_set] at hv
    split at hv
    · split at hv
      · cases hv
        cases hb
      · cases hv
    · exact h.stopping_of_exited v hv
  · intro hclosed
    rw [not_closed_of_set hw hb hworkers] at hclosed
    cases hclosed

/-- Moves that take in one more call. -/
theorem of_request (h : Sound config table events s notices) {name : String} {data : Bytes}
    (hsame : s'.config = s.config ∧ s'.table = s.table ∧ s'.nextCall = s.nextCall + 1 ∧
      s'.workers = s.workers ∧ s'.stopping = s.stopping)
    (hjob : s'.nextJob = jobNumber table (requests events ++ [(name, data)]))
    (hempty : s'.closed = true → s'.pending = [])
    (hledger : Ledger table (requests events ++ [(name, data)]) s'.departed s'.stopping s'.positions
      (notices ++ new)) :
    Sound config table (events ++ [.submit name data]) s' (notices ++ new) := by
  obtain ⟨hconfig, htable, hcall, hworkers, hstopping⟩ := hsame
  have hrequests : requests (events ++ [.submit name data]) =
      requests events ++ [(name, data)] := by
    simp [requests]
  have hmem : Event.shutdown ∈ events ++ [.submit name data] ↔ .shutdown ∈ events := by simp
  refine ⟨hconfig.trans h.config_eq, htable.trans h.table_eq, ?_, ?_, ?_, ?_, ?_, hempty, ?_⟩
  · simp [hrequests, hcall, h.nextCall_eq]
  · rw [hrequests]
    exact hjob
  · rw [hworkers]
    exact h.length_workers
  · rw [hstopping, hmem]
    exact h.stopping_iff
  · rw [hworkers, hstopping]
    exact h.stopping_of_exited
  · rw [hrequests]
    exact hledger

/-- A call, whatever becomes of it. -/
theorem of_submit (h : Sound config table events s notices) (hsize : 0 < config.workers)
    {name : String} {data : Bytes} (hmove : Moves s (.submit name data) s' new) :
    Sound config table (events ++ [.submit name data]) s' (notices ++ new) := by
  have htable := h.table_eq
  have hsame : s.config = s.config ∧ s.table = s.table ∧ s.nextCall + 1 = s.nextCall + 1 ∧
      s.workers = s.workers ∧ s.stopping = s.stopping := ⟨rfl, rfl, rfl, rfl, rfl⟩
  cases hmove with
  | unknown hop =>
    rw [htable] at hop
    refine h.of_request hsame ?_ h.empty_of_closed ?_
    · rw [jobNumber_append_unknown table _ data hop]
      exact h.nextJob_eq
    · rw [h.nextCall_eq]
      exact h.ledger.reject data hop
  | tooLate hop hclosed =>
    refine h.of_request hsame ?_ h.empty_of_closed (h.ledger_tooLate hsize data hop hclosed)
    rw [jobNumber_append table _ data (htable ▸ hop), h.nextJob_eq]
  | submit hop hopen =>
    refine h.of_request hsame ?_ ?_ ?_
    · rw [jobNumber_append table _ data (htable ▸ hop), h.nextJob_eq]
    · intro hclosed
      exact absurd (hopen.symm.trans hclosed) (by decide)
    · rw [List.append_nil]
      refine (h.ledger_submit data hop).perm ?_
      simp only [State.positions, State.pending, List.map_append, List.map_cons, List.map_nil,
        List.append_assoc, List.singleton_append]
      rw [← List.append_assoc, ← List.append_assoc]
      exact List.perm_middle.symm

/-- Every move keeps a pool sound. -/
theorem move (h : Sound config table events s notices) (hsize : 0 < config.workers)
    (hmove : Moves s event s' new) :
    Sound config table (events ++ [event]) s' (notices ++ new) := by
  have hsame : s.config = s.config ∧ s.table = s.table ∧ s.nextCall = s.nextCall ∧
      s.nextJob = s.nextJob ∧ s.stopping = s.stopping := ⟨rfl, rfl, rfl, rfl, rfl⟩
  cases hmove with
  | unknown hop => exact h.of_submit hsize (.unknown hop)
  | tooLate hop hclosed => exact h.of_submit hsize (.tooLate hop hclosed)
  | submit hop hopen => exact h.of_submit hsize (.submit hop hopen)
  | enqueue hd hspace =>
    refine h.of_quiet ⟨rfl, by simp⟩ hsame rfl h.stopping_of_exited ?_ (h.ledger_enqueue hd)
    intro hclosed
    have hnone := h.empty_of_closed hclosed
    simp only [State.pending, List.append_eq_nil_iff, List.map_eq_nil_iff] at hnone
    simp [hnone.2] at hd
  | dequeue hgo hw hq =>
    exact h.of_worker ⟨rfl, by simp⟩ hsame hw rfl rfl (h.ledger_dequeue hw hq)
  | perform hw =>
    exact h.of_worker ⟨rfl, by simp⟩ hsame hw rfl rfl
      (h.ledger_advance hw rfl rfl rfl rfl (by simp [Notice.call]) fun a kept => kept.perform _)
  | performHeld hw =>
    exact h.of_worker ⟨rfl, by simp⟩ hsame hw rfl rfl
      (h.ledger_advance hw rfl rfl rfl rfl (by simp [Notice.call]) fun a kept => kept.performHeld _)
  | finish hw =>
    exact h.of_worker ⟨rfl, by simp⟩ hsame hw rfl rfl
      (h.ledger_retire hw rfl rfl rfl (call_of_mem_cons rfl) fun a kept => kept.finish)
  | finishHeld hw =>
    exact h.of_worker ⟨rfl, by simp⟩ hsame hw rfl rfl
      (h.ledger_retire hw rfl rfl rfl (by simp [Notice.call]) fun a kept => kept.finishHeld)
  | overrun hw htime =>
    exact h.of_worker ⟨rfl, by simp⟩ hsame hw rfl rfl
      (h.ledger_advance hw rfl rfl rfl rfl (call_of_mem_cons rfl) fun a kept => kept.overrun _)
  | leave hcall =>
    refine h.of_quiet ⟨rfl, by simp⟩ hsame rfl h.stopping_of_exited ?_ ?_
    · intro hclosed
      have hnone := h.empty_of_closed hclosed
      simp only [State.pending, List.append_eq_nil_iff, List.map_eq_nil_iff] at hnone ⊢
      simp [hnone.1, hnone.2]
    · rw [List.append_nil]
      exact h.ledger_leave _
  | shutdown =>
    have hrequests : requests (events ++ [.shutdown]) = requests events := by simp [requests]
    have hledger : Ledger table (requests events) s.departed true s.positions notices :=
      h.ledger.mono (List.Subset.refl _) fun _ => rfl
    rw [List.append_nil]
    refine ⟨h.config_eq, h.table_eq, ?_, ?_, h.length_workers, by simp, fun _ _ => rfl,
      h.empty_of_closed, ?_⟩
    · rw [hrequests]
      exact h.nextCall_eq
    · rw [hrequests]
      exact h.nextJob_eq
    · rw [hrequests]
      exact hledger
  | exit hstop hw hopen =>
    refine h.of_quiet ⟨rfl, by simp⟩ hsame (by simp) (fun _ _ => hstop) ?_ ?_
    · intro hclosed
      exact absurd (hopen.symm.trans hclosed) (by decide)
    · have hafter := positions_perm_set { s with workers := s.workers.set _ .exited } hw rfl
      rw [List.append_nil]
      exact (h.ledger_at hw).perm hafter.symm
  | exitLast hstop hw hclosed =>
    exact h.of_quiet ⟨rfl, by simp⟩ hsame (by simp) (fun _ _ => hstop) (fun _ => rfl)
      (h.ledger_exitLast hstop hw)

/-- A job that is to take effect was asked for, and has not come to a result before. -/
theorem of_unperformed (h : Sound config table events s notices) {w : Nat} {d : Dispatch σ}
    (hw : s.workers[w]? = some (.running d none) ∨ s.workers[w]? = some (.held d none)) :
    Filed table (requests events) d ∧ ∀ result, .performed d.call result ∉ notices := by
  obtain ⟨standing, hstanding, hmem⟩ : ∃ standing : Standing,
      (standing = .running none ∨ standing = .held none) ∧ (d, standing) ∈ s.positions := by
    obtain hw | hw := hw
    · exact ⟨_, .inl rfl, mem_positions hw (List.mem_singleton_self _)⟩
    · exact ⟨_, .inr rfl, mem_positions hw (List.mem_singleton_self _)⟩
  obtain ⟨hfiled, kept⟩ := h.ledger.present _ hmem
  refine ⟨hfiled, fun result => ?_⟩
  have hnone : (account notices d.call).results = [] := by
    generalize account notices d.call = own at kept ⊢
    obtain rfl | rfl := hstanding
    · cases kept
      rfl
    · cases kept
      rfl
  rw [← mem_results, hnone]
  exact List.not_mem_nil

end Sound

/-- A pool starts as the initial one, from a configuration that has workers. -/
theorem start_eq_ok {config : Config} {table : Table σ} {shared : σ} {s₀ : State σ}
    (hstart : State.start config table shared = .ok s₀) :
    s₀ = .initial config table shared ∧ 0 < config.workers := by
  obtain ⟨hvalid, -, hinitial⟩ := State.start_eq_ok_iff.mp hstart
  exact ⟨hinitial, ((Config.validate_eq_ok_iff config).mp hvalid).1⟩

/-- Every run of a pool that started is sound. -/
theorem sound_of_run {config : Config} {table : Table σ} {shared : σ} {s₀ s : State σ}
    {events : List Event} {notices : List Notice}
    (hstart : State.start config table shared = .ok s₀)
    (hrun : run s₀ events = some (s, notices)) : Sound config table events s notices := by
  obtain ⟨rfl, hsize⟩ := start_eq_ok hstart
  exact run_induction (P := Sound config table) (Sound.initial config table shared)
    (fun _ _ _ _ _ _ _ h hmove => h.move hsize hmove) hrun

end DerivationPool.Pool

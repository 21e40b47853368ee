import DerivationPool.Pool.Step
import DerivationPool.Proofs.Pool.Answers

/-!
What is asked of a pool, and that it comes to an answer. A `Course` is what is done to a pool
from outside, one thing after the other, while the pool goes on as it likes. It relates the pool
before, the value that is come to, the pool after and what is noticed in between; it relates
many pools after to one before, since others call the pool too and its workers take their steps
in any order. Courses are a monad, so that what asks a pool in any monad asks it in all its
courses at once.
-/
namespace DerivationPool.Pool

/-- The ways in which something may go that is done to a pool and gives a value. -/
def Course (σ α : Type) := State σ → α → State σ → List Notice → Prop

namespace Course

variable {σ α β : Type}

@[ext] theorem ext {x y : Course σ α} (h : ∀ s a s' notices, x s a s' notices ↔ y s a s' notices) :
    x = y := by
  funext s a s' notices
  exact propext (h s a s' notices)

/-- Doing nothing takes no step; of two things the second begins where the first has ended. -/
instance : Monad (Course σ) where
  pure a := fun s b s' notices => b = a ∧ s' = s ∧ notices = []
  bind x next := fun s b s' notices => ∃ a mid first second,
    x s a mid first ∧ next a mid b s' second ∧ notices = first ++ second

theorem pure_iff {a b : α} {s s' : State σ} {notices : List Notice} :
    (Pure.pure a : Course σ α) s b s' notices ↔ b = a ∧ s' = s ∧ notices = [] := Iff.rfl

theorem bind_iff {x : Course σ α} {next : α → Course σ β} {b : β} {s s' : State σ}
    {notices : List Notice} :
    (x >>= next) s b s' notices ↔ ∃ a mid first second,
      x s a mid first ∧ next a mid b s' second ∧ notices = first ++ second := Iff.rfl

theorem pure_bind (a : α) (next : α → Course σ β) : Pure.pure a >>= next = next a := by
  ext s b s' notices
  constructor
  · rintro ⟨_, _, _, second, ⟨rfl, rfl, rfl⟩, h, rfl⟩
    exact h
  · intro h
    exact ⟨a, s, [], notices, ⟨rfl, rfl, rfl⟩, h, rfl⟩

theorem bind_pure (x : Course σ α) : x >>= Pure.pure = x := by
  ext s b s' notices
  constructor
  · rintro ⟨_, _, first, _, h, ⟨rfl, rfl, rfl⟩, rfl⟩
    rwa [List.append_nil]
  · intro h
    exact ⟨b, s', notices, [], h, ⟨rfl, rfl, rfl⟩, (List.append_nil notices).symm⟩

theorem bind_assoc {γ : Type} (x : Course σ α) (next : α → Course σ β) (last : β → Course σ γ) :
    x >>= next >>= last = x >>= fun a => next a >>= last := by
  ext s c s' notices
  constructor
  · rintro ⟨b, mid, _, third, ⟨a, start, first, second, hx, hnext, rfl⟩, hlast, rfl⟩
    exact ⟨a, start, first, second ++ third, hx, ⟨b, mid, second, third, hnext, hlast, rfl⟩,
      List.append_assoc first second third⟩
  · rintro ⟨a, start, first, _, hx, ⟨b, mid, second, third, hnext, hlast, rfl⟩, rfl⟩
    exact ⟨b, mid, first ++ second, third, ⟨a, start, first, second, hx, hnext, rfl⟩, hlast,
      (List.append_assoc first second third).symm⟩

instance : LawfulMonad (Course σ) := LawfulMonad.mk' (Course σ) bind_pure pure_bind bind_assoc

theorem map_iff {f : α → β} {x : Course σ α} {b : β} {s s' : State σ} {notices : List Notice} :
    (f <$> x) s b s' notices ↔ ∃ a, x s a s' notices ∧ b = f a := by
  rw [map_eq_pure_bind, bind_iff]
  constructor
  · rintro ⟨a, _, first, _, h, ⟨rfl, rfl, rfl⟩, rfl⟩
    exact ⟨a, by rwa [List.append_nil], rfl⟩
  · rintro ⟨a, h, rfl⟩
    exact ⟨a, s', notices, [], h, ⟨rfl, rfl, rfl⟩, (List.append_nil notices).symm⟩

/-- Asks for an operation and waits for the answer. From the call on anything may happen that is
possible, and the wait is over at any time after the answer. -/
def execute (name : String) (data : Bytes) : Course σ Outcome := fun s outcome s' notices =>
  ∃ events, run s (.submit name data :: events) = some (s', notices) ∧
    .answered s.nextCall outcome ∈ notices

end Course

/-!
Whoever waits is answered. Some steps a pool takes of itself: jobs move into the queue,
workers take them, run them and end. Each of these leaves less to be done, and one of
them is possible as long as a call of a registered operation has no answer. So left to
itself, a pool answers every caller that stays, whatever has happened before.
-/

variable {σ : Type}

/-- The steps that a pool takes of itself. Calls, orders and the passing of time are not among
them. -/
def Event.Own : Event → Prop
  | enqueue _ | dequeue _ | perform _ | finish _ | exit _ => True
  | submit _ _ | overrun _ _ | leave _ | shutdown => False

/-- How many steps of its own a worker has before it at most, if it takes no other job. -/
def Worker.toDo : Worker σ → Nat
  | running _ none | held _ none => 3
  | running _ (some _) | held _ (some _) => 2
  | idle => 1
  | exited => 0

def workersToDo : List (Worker σ) → Nat
  | [] => 0
  | a :: workers => a.toDo + workersToDo workers

/-- What is left to be done. A job in the queue counts for more than it adds to what its worker has
to do, so that taking it is progress too. -/
def State.toDo (s : State σ) : Nat :=
  5 * s.waiting.length + 4 * s.queue.length + workersToDo s.workers

theorem workersToDo_set {workers : List (Worker σ)} {w : Nat} {a : Worker σ} (b : Worker σ)
    (hw : workers[w]? = some a) :
    workersToDo (workers.set w b) + a.toDo = workersToDo workers + b.toDo := by
  induction workers generalizing w with
  | nil => cases hw
  | cons c workers ih =>
    cases w with
    | zero =>
      cases hw
      simp only [List.set_cons_zero, workersToDo]
      omega
    | succ w =>
      have hrest := ih hw
      simp only [List.set_cons_succ, workersToDo]
      omega

/-- A pool's own step leaves less to be done. -/
theorem Moves.toDo_lt {s s' : State σ} {event : Event} {new : List Notice}
    (h : Moves s event s' new) (hown : event.Own) : s'.toDo < s.toDo := by
  cases h with
  | unknown | tooLate | submit | overrun | leave | shutdown => exact hown.elim
  | enqueue hd hspace =>
    have hlt := (List.getElem?_eq_some_iff.mp hd).1
    simp only [State.toDo, List.length_eraseIdx_of_lt hlt, List.length_append,
      List.length_singleton]
    omega
  | @dequeue w d rest hgo hw hq =>
    have hsum := workersToDo_set (.running d none) hw
    simp only [State.toDo, hq, List.length_cons, Worker.toDo] at hsum ⊢
    omega
  | @perform w d hw =>
    have hsum := workersToDo_set (.running d (some (d.operation.run d.job s.shared).1)) hw
    simp only [State.toDo, Worker.toDo] at hsum ⊢
    omega
  | @performHeld w d hw =>
    have hsum := workersToDo_set (.held d (some (d.operation.run d.job s.shared).1)) hw
    simp only [State.toDo, Worker.toDo] at hsum ⊢
    omega
  | finish hw | finishHeld hw =>
    have hsum := workersToDo_set .idle hw
    simp only [State.toDo, Worker.toDo] at hsum ⊢
    omega
  | exit hstop hw hopen | exitLast hstop hw hclosed =>
    have hsum := workersToDo_set .exited hw
    simp only [State.toDo, Worker.toDo, List.length_nil] at hsum ⊢
    omega

/-- So the steps that a pool takes of itself come to an end, in whatever order it takes them. -/
theorem length_add_toDo_le {s s' : State σ} {events : List Event} {notices : List Notice}
    (hrun : run s events = some (s', notices)) (hown : ∀ event ∈ events, Event.Own event) :
    events.length + s'.toDo ≤ s.toDo := by
  refine run_induction (P := fun events s' _ => (∀ event ∈ events, Event.Own event) →
    events.length + s'.toDo ≤ s.toDo) (by simp) ?_ hrun hown
  intro events mid notices event s' new hrun ih hmove hown
  have hbefore := ih fun event hmem => hown event (List.mem_append_left _ hmem)
  have hless := hmove.toDo_lt (hown event (by simp))
  rw [List.length_append, List.length_singleton]
  omega

/-- A pool that can take a step of its own. -/
def State.Goes (s : State σ) : Prop :=
  ∃ event s' new, Event.Own event ∧ step s event = some (s', new)

/-- A busy worker has a step of its own: it runs its job or ends it. -/
theorem goes_of_busy {s : State σ} {w : Nat} {a : Worker σ} (hw : s.workers[w]? = some a)
    (hbusy : a.busy = true) : s.Goes := by
  cases a with
  | idle | exited => cases hbusy
  | running d result =>
    cases result with
    | none => exact ⟨.perform w, _, _, trivial, by simp only [step, hw]; rfl⟩
    | some result => exact ⟨.finish w, _, _, trivial, by simp only [step, hw]; rfl⟩
  | held d result =>
    cases result with
    | none => exact ⟨.perform w, _, _, trivial, by simp only [step, hw]; rfl⟩
    | some result => exact ⟨.finish w, _, _, trivial, by simp only [step, hw]; rfl⟩

/-- Where jobs are pending there is a place in the queue for the first or a worker to go on. -/
theorem goes_of_pending {s : State σ} (hdepth : 0 < s.config.queueDepth)
    (hopen : s.closed = false) (hpending : s.pending ≠ []) : s.Goes := by
  cases hqueue : s.queue with
  | nil =>
    cases hwaiting : s.waiting with
    | nil => simp [State.pending, hqueue, hwaiting] at hpending
    | cons d rest =>
      have hspace : s.queue.length < s.config.queueDepth := by rwa [hqueue]
      exact ⟨.enqueue 0, _, _, trivial, by
        simp only [step, hwaiting, List.getElem?_cons_zero]
        rw [if_pos hspace]⟩
  | cons d rest =>
    obtain ⟨a, ha, hgoes⟩ := List.all_eq_false.mp hopen
    obtain ⟨w, hw⟩ := List.getElem?_of_mem ha
    cases a with
    | exited => exact absurd rfl hgoes
    | running | held => exact goes_of_busy hw rfl
    | idle =>
      cases hstop : s.stopping with
      | true => exact ⟨.exit w, _, _, trivial, by simp only [step, hstop, hw]; rfl⟩
      | false => exact ⟨.dequeue w, _, _, trivial, by simp only [step, hstop, hw, hqueue]; rfl⟩

/-- A job that has no answer is pending or run, unless its caller has left. -/
theorem Kept.answered_or {departed : List Nat} {stopping : Bool} {d : Dispatch σ}
    {standing : Standing} {own : Account} (h : Kept departed stopping d standing own)
    (hstay : d.call ∉ departed) :
    (∃ outcome, outcome ∈ own.answers) ∨ (standing = .waiting ∨ standing = .queued) ∨
      ∃ result, standing = .running result := by
  have hanswered : ∀ {outcome : Outcome} {answers : List Outcome},
      Told departed d.call outcome answers → ∃ outcome, outcome ∈ answers := by
    rintro outcome answers (rfl | ⟨hgone, -⟩)
    · exact ⟨outcome, List.mem_singleton_self _⟩
    · exact absurd hgone hstay
  cases h with
  | waiting => exact .inr (.inl (.inl rfl))
  | queued => exact .inr (.inl (.inr rfl))
  | running result => exact .inr (.inr ⟨result, rfl⟩)
  | left gone => exact absurd gone hstay
  | held _ _ _ told | refused _ _ _ told | returned _ _ told | late _ _ _ told =>
    exact .inl (hanswered told)

/-- Only what no worker has is pending. -/
theorem mem_pending {s : State σ} {d : Dispatch σ} {standing : Standing}
    (h : (d, standing) ∈ s.positions) (hstanding : standing = .waiting ∨ standing = .queued) :
    (d, standing) ∈ s.pending := by
  obtain hpending | hworkers := List.mem_append.mp h
  · exact hpending
  · obtain ⟨a, -, hp⟩ := List.mem_flatMap.mp hworkers
    cases a with
    | running | held =>
      cases List.mem_singleton.mp hp
      simp at hstanding
    | idle | exited => cases hp

section Run

variable {config : Config} {table : Table σ} {shared : σ} {s₀ s : State σ} {events : List Event}
  {notices : List Notice}

/-- Only who has called before can leave, and only who leaves has left. -/
theorem leaves_of_run (hstart : State.start config table shared = .ok s₀)
    (hrun : run s₀ events = some (s, notices)) :
    (∀ call ∈ s.departed, .leave call ∈ events) ∧
      ∀ call, .leave call ∈ events → call < s.nextCall := by
  obtain ⟨rfl, -⟩ := start_eq_ok hstart
  refine run_induction (P := fun events s _ => (∀ call ∈ s.departed, .leave call ∈ events) ∧
    ∀ call, .leave call ∈ events → call < s.nextCall) (by simp [State.initial]) ?_ hrun
  rintro events s notices event s' new - ⟨hdeparted, hcalled⟩ hmove
  cases hmove with
  | @leave left hcall =>
    refine ⟨?_, ?_⟩
    · intro call hmem
      obtain rfl | hmem := List.mem_cons.mp hmem
      · simp
      · exact List.mem_append_left _ (hdeparted call hmem)
    · intro call hmem
      obtain hmem | hmem := List.mem_append.mp hmem
      · exact hcalled call hmem
      · cases List.mem_singleton.mp hmem
        exact hcall
  | unknown | tooLate | submit =>
    refine ⟨fun call hmem => List.mem_append_left _ (hdeparted call hmem), ?_⟩
    intro call hmem
    simp only [List.mem_append, List.mem_singleton, reduceCtorEq, or_false] at hmem
    exact Nat.lt_succ_of_lt (hcalled call hmem)
  | _ =>
    refine ⟨fun call hmem => List.mem_append_left _ (hdeparted call hmem), ?_⟩
    intro call hmem
    simp only [List.mem_append, List.mem_singleton, reduceCtorEq, or_false] at hmem
    exact hcalled call hmem

/-- No call is answered twice, of whatever operation. -/
theorem Sound.answers_le (h : Sound config table events s notices) (call : Nat) :
    (account notices call).answers.length ≤ 1 := by
  by_cases hmade : (requests events).length ≤ call
  · rw [h.ledger.unmade call hmade]
    exact Nat.zero_le 1
  · obtain ⟨⟨name, data⟩, hget⟩ : ∃ request, (requests events)[call]? = some request :=
      ⟨_, List.getElem?_eq_getElem (Nat.lt_of_not_le hmade)⟩
    cases hop : table.get? name with
    | none =>
      rw [h.ledger.unknown call name data hget hop]
      exact Nat.le_refl 1
    | some operation =>
      obtain ⟨standing, kept, -⟩ := h.ledger.standing hget hop
      exact kept.answers_le

/-- No caller is told two things. -/
theorem answer_unique (hstart : State.start config table shared = .ok s₀)
    (hrun : run s₀ events = some (s, notices)) {call : Nat} {outcome outcome' : Outcome}
    (h : .answered call outcome ∈ notices) (h' : .answered call outcome' ∈ notices) :
    outcome = outcome' := by
  rw [← mem_answers] at h h'
  have hle := (sound_of_run hstart hrun).answers_le call
  generalize (account notices call).answers = answers at h h' hle
  match answers with
  | [] => cases h
  | [answer] => rw [List.mem_singleton.mp h, List.mem_singleton.mp h']
  | _ :: _ :: _ => simp at hle

/-- A caller that stays is answered, or the pool can take a step of its own. -/
theorem answered_or_goes (hstart : State.start config table shared = .ok s₀)
    (hrun : run s₀ events = some (s, notices)) {call : Nat} {name : String} {data : Bytes}
    (hget : (requests events)[call]? = some (name, data)) (hstay : call ∉ s.departed) :
    (∃ outcome, .answered call outcome ∈ notices) ∨ s.Goes := by
  have hsound := sound_of_run hstart hrun
  simp only [← mem_answers]
  cases hop : table.get? name with
  | none =>
    rw [hsound.ledger.unknown call name data hget hop]
    exact .inl ⟨_, List.mem_singleton_self _⟩
  | some operation =>
    obtain ⟨standing, kept, hin⟩ := hsound.ledger.standing hget hop
    obtain hanswered | hstanding | ⟨result, rfl⟩ := kept.answered_or hstay
    · exact .inl hanswered
    · have hdepth := ((Config.validate_eq_ok_iff config).mp (State.start_eq_ok_iff.mp hstart).1).2.1
      have hin : (_, standing) ∈ s.positions := hin.resolve_right (by rintro rfl; simp at hstanding)
      have hpending := List.ne_nil_of_mem (mem_pending hin hstanding)
      refine .inr (goes_of_pending (hsound.config_eq ▸ hdepth) ?_ hpending)
      exact Bool.eq_false_iff.mpr fun hclosed => hpending (hsound.empty_of_closed hclosed)
    · obtain ⟨w, hw⟩ := List.getElem?_of_mem (mem_workers_of_running (hin.resolve_right nofun))
      exact .inr (goes_of_busy hw rfl)

end Run

section Call

variable {config : Config} {table : Table σ} {shared : σ} {s₀ s s' : State σ}
  {before after : List Event} {earlier notices : List Notice} {name : String} {data : Bytes}
  (hstart : State.start config table shared = .ok s₀)
  (hbefore : run s₀ before = some (s, earlier))

include hstart hbefore

theorem getElem?_requests (name : String) (data : Bytes) (after : List Event) :
    (requests (before ++ .submit name data :: after))[s.nextCall]? = some (name, data) := by
  rw [requests_append, (sound_of_run hstart hbefore).nextCall_eq,
    List.getElem?_append_right (Nat.le_refl _), Nat.sub_self]
  rfl

/-- No call is answered before it is made. -/
theorem not_answered_before (outcome : Outcome) : .answered s.nextCall outcome ∉ earlier := by
  have hsound := sound_of_run hstart hbefore
  rw [← mem_answers, hsound.ledger.unmade _ (Nat.le_of_eq hsound.nextCall_eq.symm)]
  exact List.not_mem_nil

/-- A caller that does not leave after the call stays. -/
theorem not_departed (hafter : run s (.submit name data :: after) = some (s', notices))
    (hstay : .leave s.nextCall ∉ after) : s.nextCall ∉ s'.departed := by
  intro hgone
  have hleft := (leaves_of_run hstart (run_trans hbefore hafter)).1 _ hgone
  obtain hleft | hleft := List.mem_append.mp hleft
  · exact Nat.lt_irrefl _ ((leaves_of_run hstart hbefore).2 _ hleft)
  · obtain hleft | hleft := List.mem_cons.mp hleft
    · cases hleft
    · exact hstay hleft

end Call

/-- A state that a pool comes to in some run from its start. -/
def Reachable (s : State σ) : Prop :=
  ∃ config table shared s₀ before earlier, State.start config table shared = .ok s₀ ∧
    run s₀ before = some (s, earlier)

namespace Course

variable {α β : Type} {s s' : State σ} {name : String} {data : Bytes}

/-- Once an operation was asked for, and whatever has happened since, a pool that is left to itself
goes on for so many steps at most, and not without coming to the end of the course, unless the
caller leaves. -/
def Completes (course : Course σ α) (s : State σ) (name : String) (data : Bytes) : Prop :=
  ∀ after s' notices, run s (.submit name data :: after) = some (s', notices) →
    .leave s.nextCall ∉ after →
    ∃ bound, ∀ more s'' rest, (∀ event ∈ more, Event.Own event) → run s' more = some (s'', rest) →
      more.length ≤ bound ∧ ((∃ a, course s a s'' (notices ++ rest)) ∨ s''.Goes)

/-- What is made of the value of a course does not keep it from its end. -/
theorem Completes.map {course : Course σ α} (h : course.Completes s name data) (f : α → β) :
    (f <$> course).Completes s name data := by
  intro after s' notices hafter hstay
  obtain ⟨bound, hbound⟩ := h after s' notices hafter hstay
  refine ⟨bound, fun more s'' rest hown hmore => ?_⟩
  obtain ⟨hlength, hends⟩ := hbound more s'' rest hown hmore
  exact ⟨hlength, hends.imp_left fun ⟨a, hcourse⟩ => ⟨f a, map_iff.mpr ⟨a, hcourse, rfl⟩⟩⟩

/-- Whoever has asked for an operation gets an answer, as long as the pool is left to itself. -/
theorem completes_execute (h : Reachable s) (name : String) (data : Bytes) :
    (execute name data).Completes s name data := by
  obtain ⟨config, table, shared, s₀, before, earlier, hstart, hbefore⟩ := h
  intro after s' notices hafter hstay
  refine ⟨s'.toDo, fun more s'' rest hown hmore => ⟨?_, ?_⟩⟩
  · exact Nat.le_of_add_right_le (length_add_toDo_le hmore hown)
  · have hlater : run s (.submit name data :: (after ++ more)) = some (s'', notices ++ rest) :=
      run_trans hafter hmore
    have hstay' : .leave s.nextCall ∉ after ++ more := by
      intro hleft
      obtain hleft | hleft := List.mem_append.mp hleft
      · exact hstay hleft
      · exact hown _ hleft
    obtain ⟨outcome, hanswered⟩ | hgoes :=
      answered_or_goes hstart (run_trans hbefore hlater)
        (getElem?_requests hstart hbefore name data _) (not_departed hstart hbefore hlater hstay')
    · refine .inl ⟨outcome, after ++ more, hlater, ?_⟩
      exact (List.mem_append.mp hanswered).resolve_left
        (not_answered_before hstart hbefore outcome)
    · exact .inr hgoes

/-- One course has one outcome. -/
theorem execute_unique (h : Reachable s) {outcome outcome' : Outcome} {notices : List Notice}
    (hfirst : execute name data s outcome s' notices)
    (hsecond : execute name data s outcome' s' notices) : outcome = outcome' := by
  obtain ⟨config, table, shared, s₀, before, earlier, hstart, hbefore⟩ := h
  obtain ⟨after, hafter, hanswered⟩ := hfirst
  obtain ⟨-, -, hanswered'⟩ := hsecond
  exact answer_unique hstart (run_trans hbefore hafter) (List.mem_append_right _ hanswered)
    (List.mem_append_right _ hanswered')

end Course

end DerivationPool.Pool

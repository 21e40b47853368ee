import DerivationPool.Proofs.Operation.Table
import DerivationPool.Proofs.Pool.Answers
import DerivationPool.Proofs.Secret.Drawing

/-!
Salts in a pool. The entropy source is what the operations of a service share, and
only fresh secrets read it. In whatever order the calls are run, timed out and
answered, each read is that of one call, and no call reads twice; so no salt that a
caller gets was ever read for another, and none is one whose call failed or came too
late.
-/
namespace DerivationPool.Pool

variable {σ : Type}

/-- A call asks for a fresh secret. -/
def AsksSecret (events : List Event) (call : Nat) : Prop :=
  ∃ data, (requests events)[call]? = some (deriveSecretName, data)

/-- The calls that have read, in the order of their reads. -/
structure Drawn (deriver : Secret.Deriver) (source : Entropy σ) (shared : σ) (events : List Event)
    (s : State σ) (notices : List Notice) (readers : List Nat) : Prop where
  shared_eq : s.shared = source.stateAfter deriver.saltLength shared readers.length
  nodup : readers.Nodup
  asked : ∀ call ∈ readers, AsksSecret events call
  /-- The result of a call that has read is that of its read. -/
  performed : ∀ k call, readers[k]? = some call →
    .performed call (deriver.outcome (source.reading deriver.saltLength shared k)) ∈ notices
  /-- A fresh secret takes a read, unless there is no buffer for its salt: then it panics. -/
  complete : ∀ call result, AsksSecret events call → .performed call result ∈ notices →
    call ∈ readers ∨ Bytes.maxLength < deriver.saltLength ∧ result = .panicked

theorem AsksSecret.append {events : List Event} {call : Nat} (h : AsksSecret events call)
    (more : List Event) : AsksSecret (events ++ more) call := by
  obtain ⟨data, hget⟩ := h
  have hlt := (List.getElem?_eq_some_iff.mp hget).1
  refine ⟨data, ?_⟩
  rw [requests_append, List.getElem?_append_left hlt]
  exact hget

/-- The calls that have come to a result were made before. -/
theorem AsksSecret.of_append {events more : List Event} {call : Nat}
    (h : AsksSecret (events ++ more) call) (hlt : call < (requests events).length) :
    AsksSecret events call := by
  obtain ⟨data, hget⟩ := h
  rw [requests_append, List.getElem?_append_left hlt] at hget
  exact ⟨data, hget⟩

section Run

variable {deriver : Secret.Deriver} {source : Entropy σ} {shared : σ} {config : Config}
  {table : Table σ} {s₀ s s' : State σ} {events : List Event} {event : Event}
  {notices new : List Notice} {readers : List Nat}

theorem Drawn.initial : Drawn deriver source shared [] (.initial config table shared) [] [] where
  shared_eq := rfl
  nodup := .nil
  asked := by simp
  performed := by simp
  complete := by simp

/-- Nothing changes for the readers where no fresh secret is derived. -/
theorem Drawn.quiet (h : Drawn deriver source shared events s notices readers)
    (hmade : ∀ call result, .performed call result ∈ notices → call < (requests events).length)
    (hshared : s'.shared = s.shared)
    (hnew : ∀ call result, .performed call result ∈ new → ¬ AsksSecret (events ++ [event]) call) :
    Drawn deriver source shared (events ++ [event]) s' (notices ++ new) readers where
  shared_eq := hshared.trans h.shared_eq
  nodup := h.nodup
  asked call hcall := (h.asked call hcall).append [event]
  performed k call hk := List.mem_append_left _ (h.performed k call hk)
  complete call result hasks hmem := by
    obtain hmem | hmem := List.mem_append.mp hmem
    · exact h.complete call result (hasks.of_append (hmade call result hmem)) hmem
    · exact absurd hasks (hnew call result hmem)

/-- A call whose salt there is no buffer for panics, and makes no read. -/
theorem Drawn.panic (h : Drawn deriver source shared events s notices readers) {call : Nat}
    (hmade : ∀ call result, .performed call result ∈ notices → call < (requests events).length)
    (hlarge : Bytes.maxLength < deriver.saltLength)
    (hshared : s'.shared = (deriveSecret deriver source s.shared).2) :
    Drawn deriver source shared (events ++ [event]) s'
      (notices ++ [.performed call (deriveSecret deriver source s.shared).1]) readers := by
  rw [deriveSecret_of_lt hlarge] at hshared ⊢
  refine ⟨hshared.trans h.shared_eq, h.nodup, fun call hcall => (h.asked call hcall).append [event],
    fun k call hk => List.mem_append_left _ (h.performed k call hk), ?_⟩
  intro other result hother hmem
  obtain hmem | hmem := List.mem_append.mp hmem
  · exact h.complete other result (hother.of_append (hmade other result hmem)) hmem
  · simp only [List.mem_singleton, Notice.performed.injEq] at hmem
    exact .inr ⟨hlarge, hmem.2⟩

/-- A call that has not read before makes the next read. -/
theorem Drawn.read (h : Drawn deriver source shared events s notices readers) {call : Nat}
    (hmade : ∀ call result, .performed call result ∈ notices → call < (requests events).length)
    (hasks : AsksSecret events call) (hfirst : ∀ result, .performed call result ∉ notices)
    (hroom : deriver.saltLength ≤ Bytes.maxLength)
    (hshared : s'.shared = (deriveSecret deriver source s.shared).2) :
    Drawn deriver source shared (events ++ [event]) s'
      (notices ++ [.performed call (deriveSecret deriver source s.shared).1])
      (readers ++ [call]) := by
  rw [deriveSecret_of_le hroom, h.shared_eq] at hshared
  rw [deriveSecret_of_le hroom, h.shared_eq]
  refine ⟨?_, ?_, ?_, ?_, ?_⟩
  · rw [hshared, List.length_append, List.length_singleton]
    rfl
  · have hnot : call ∉ readers := by
      intro hmem
      obtain ⟨k, hk⟩ := List.getElem?_of_mem hmem
      exact hfirst _ (h.performed k call hk)
    rw [List.nodup_append]
    refine ⟨h.nodup, by simp, ?_⟩
    intro a ha b hb heq
    rw [List.mem_singleton.mp hb] at heq
    exact hnot (heq ▸ ha)
  · intro other hother
    obtain hother | hother := List.mem_append.mp hother
    · exact (h.asked other hother).append [event]
    · rw [List.mem_singleton.mp hother]
      exact hasks.append [event]
  · intro k other hk
    obtain hk | ⟨rfl, rfl⟩ := getElem?_concat hk
    · exact List.mem_append_left _ (h.performed k other hk)
    · exact List.mem_append_right _ (List.mem_singleton_self _)
  · intro other result hother hmem
    obtain hmem | hmem := List.mem_append.mp hmem
    · have hold := hother.of_append (hmade other result hmem)
      exact (h.complete other result hold hmem).imp_left (List.mem_append_left _)
    · simp only [List.mem_singleton, Notice.performed.injEq] at hmem
      exact .inl (List.mem_append_right _ (List.mem_singleton.mpr hmem.1))

/-- Operations run only for calls that were made. -/
theorem made_of_performed (h : Sound config table events s notices) (call : Nat)
    (result : Attempt Outcome) (hmem : .performed call result ∈ notices) :
    call < (requests events).length := by
  refine Nat.lt_of_not_le fun hle => ?_
  rw [← mem_results, h.ledger.unmade call hle] at hmem
  cases hmem

/-- Every run has its readers. -/
theorem drawn_of_run (htable : Table.standard deriver source = .ok table)
    (hstart : State.start config table shared = .ok s₀)
    (hrun : run s₀ events = some (s, notices)) :
    ∃ readers, Drawn deriver source shared events s notices readers := by
  have hinitial := (start_eq_ok hstart).1
  refine run_induction (P := fun events s notices =>
    ∃ readers, Drawn deriver source shared events s notices readers) ?_ ?_ hrun
  · rw [hinitial]
    exact ⟨[], .initial⟩
  rintro events s notices event s' new hrun ⟨readers, h⟩ hmove
  have hsound := sound_of_run hstart hrun
  have hmade := made_of_performed hsound
  obtain ⟨hshared, hnone⟩ | ⟨w, d, rfl, hw, rfl, hshared⟩ := hmove.performs
  · exact ⟨readers, h.quiet hmade hshared fun call result hmem => absurd hmem (hnone call result)⟩
  · obtain ⟨hfiled, hnone⟩ := hsound.of_unperformed hw
    obtain ⟨name, hget, hop⟩ := hfiled.asked_for
    by_cases hname : name = deriveSecretName
    · subst hname
      rw [Table.get?_deriveSecretName htable] at hop
      rw [← Option.some.inj hop] at hshared ⊢
      obtain hlarge | hroom := Nat.lt_or_ge Bytes.maxLength deriver.saltLength
      · exact ⟨readers, h.panic hmade hlarge hshared⟩
      · exact ⟨readers ++ [d.call], h.read hmade ⟨d.job.data, hget⟩ hnone hroom hshared⟩
    · rw [Table.run_of_ne_deriveSecretName htable hop hname] at hshared
      refine ⟨readers, h.quiet hmade hshared ?_⟩
      intro call result hmem hasks
      simp only [List.mem_singleton, Notice.performed.injEq] at hmem
      rw [hmem.1] at hasks
      obtain ⟨data, hget'⟩ := hasks.of_append hfiled.lt
      rw [hget] at hget'
      cases hget'
      exact hname rfl

/-- A caller that asked for a fresh secret has got one. -/
def Secured (events : List Event) (notices : List Notice) (call : Nat) (payload : Bytes) : Prop :=
  AsksSecret events call ∧ .answered call (.ok payload) ∈ notices

/-- What a caller has got shows the whole of the read with this number. -/
def Shows (deriver : Secret.Deriver) (source : Entropy σ) (shared : σ) (k : Nat)
    (payload : Bytes) : Prop :=
  ∃ (response : DerivationResponse) (hlength : response.salt.length = deriver.saltLength),
    Message.decode DerivationResponse payload = .ok response ∧
    source.reading deriver.saltLength shared k = .filled response.salt hlength ∧
    response.secret = deriver.secretOf response.salt

/-- A good answer is what the operation came to in time. -/
theorem results_of_ok (hstart : State.start config table shared = .ok s₀)
    (hrun : run s₀ events = some (s, notices)) {call : Nat} {name : String} {data payload : Bytes}
    {operation : Operation σ} (hget : (requests events)[call]? = some (name, data))
    (hop : table.get? name = some operation) (hmem : .answered call (.ok payload) ∈ notices) :
    (account notices call).results = [.returned (.ok payload)] := by
  have hserved := served_of_run hstart hrun hget hop
  have hgrounds := hserved.grounds _ ((mem_answers _ _ _).mpr hmem)
  generalize account notices call = own at hgrounds ⊢
  generalize heq : (Except.ok payload : Outcome) = outcome at hgrounds ⊢
  cases hgrounds with
  | returned outcome result => exact result
  | overran t time overran => cases heq
  | panicked result => cases heq
  | refused stopped => cases heq

/-- A caller that has got a secret has made a read, and shows it. -/
theorem shows_of_secured (htable : Table.standard deriver source = .ok table)
    (hstart : State.start config table shared = .ok s₀)
    (hrun : run s₀ events = some (s, notices))
    (hdrawn : Drawn deriver source shared events s notices readers) {call : Nat} {payload : Bytes}
    (h : Secured events notices call payload) :
    ∃ k : Nat, readers[k]? = some call ∧ Shows deriver source shared k payload := by
  obtain ⟨⟨data, hget⟩, hanswered⟩ := h
  have hresults := results_of_ok hstart hrun hget (Table.get?_deriveSecretName htable) hanswered
  have hperformed : .performed call (.returned (.ok payload)) ∈ notices := by
    rw [← mem_results, hresults]
    exact List.mem_singleton_self _
  have hmem : call ∈ readers := by
    obtain hmem | ⟨-, hpanicked⟩ := hdrawn.complete call _ ⟨data, hget⟩ hperformed
    · exact hmem
    · cases hpanicked
  obtain ⟨k, hk⟩ := List.getElem?_of_mem hmem
  have hread := (mem_results _ _ _).mpr (hdrawn.performed k call hk)
  rw [hresults, List.mem_singleton] at hread
  obtain ⟨bytes, hlength, response, hfilled, hdecode, rfl, hsecret⟩ := response_of_outcome hread
  exact ⟨k, hk, response, hlength, hdecode, hfilled, hsecret⟩

/-- A source that does not give the same bytes twice in so many reads. -/
def Fresh (source : Entropy σ) (n : Nat) (shared : σ) (count : Nat) : Prop :=
  ∀ i < count, ∀ j < count, ∀ bytes bytes' hi hj, source.reading n shared i = .filled bytes hi →
    source.reading n shared j = .filled bytes' hj → bytes = bytes' → i = j

/-- No salt is used for two responses. There is a number for every caller that has got a secret,
no two have the same, and what each has got shows just the read of that number, which was its own.
The reads of other calls, such as those that failed or came too late, are shown by nobody; and
where the source did not give the same bytes twice, no two salts are the same. -/
theorem salts_of_run (htable : Table.standard deriver source = .ok table)
    (hstart : State.start config table shared = .ok s₀)
    (hrun : run s₀ events = some (s, notices)) :
    ∃ (readers : List Nat) (readOf : Nat → Nat),
      Drawn deriver source shared events s notices readers ∧
      (∀ call payload, Secured events notices call payload →
        readers[readOf call]? = some call ∧
        Shows deriver source shared (readOf call) payload) ∧
      (∀ call call' payload payload', Secured events notices call payload →
        Secured events notices call' payload' → readOf call = readOf call' → call = call') ∧
      (∀ k call, readers[k]? = some call →
        (∀ payload, .answered call (.ok payload) ∉ notices) →
        ∀ call' payload, Secured events notices call' payload → readOf call' ≠ k) ∧
      (Fresh source deriver.saltLength shared readers.length →
        ∀ call call' payload payload' response response',
          Secured events notices call payload → Secured events notices call' payload' →
          Message.decode DerivationResponse payload = .ok response →
          Message.decode DerivationResponse payload' = .ok response' →
          response.salt = response'.salt → call = call') := by
  obtain ⟨readers, hdrawn⟩ := drawn_of_run htable hstart hrun
  have hshows : ∀ call payload, Secured events notices call payload →
      readers[readers.idxOf call]? = some call ∧
      Shows deriver source shared (readers.idxOf call) payload := by
    intro call payload hsecured
    obtain ⟨k, hk, hshows⟩ := shows_of_secured htable hstart hrun hdrawn hsecured
    have hmem := List.mem_of_getElem? hk
    have hget := List.getElem?_idxOf hmem
    have heq := (List.getElem?_inj (List.idxOf_lt_length_of_mem hmem) hdrawn.nodup).mp
      (hget.trans hk.symm)
    rw [heq]
    exact ⟨hk, hshows⟩
  have hinjective : ∀ call call' payload payload', Secured events notices call payload →
      Secured events notices call' payload' → readers.idxOf call = readers.idxOf call' →
      call = call' := by
    intro call call' payload payload' hsecured hsecured' heq
    have hget := (hshows call payload hsecured).1
    rw [heq, (hshows call' payload' hsecured').1] at hget
    exact (Option.some.inj hget).symm
  refine ⟨readers, readers.idxOf, hdrawn, hshows, hinjective, ?_, ?_⟩
  · rintro k call hk hfailed call' payload hsecured rfl
    have hget := (hshows call' payload hsecured).1
    rw [hk] at hget
    cases hget
    exact hfailed payload hsecured.2
  · intro hfresh call call' payload payload' response response' hsecured hsecured' hdecode hdecode'
      hsalt
    refine hinjective call call' payload payload' hsecured hsecured' ?_
    obtain ⟨hget, shown, hlength, hshown, hread, -⟩ := hshows call payload hsecured
    obtain ⟨hget', shown', hlength', hshown', hread', -⟩ := hshows call' payload' hsecured'
    rw [hdecode] at hshown
    rw [hdecode'] at hshown'
    cases hshown
    cases hshown'
    have hlt := (List.getElem?_eq_some_iff.mp hget).1
    have hlt' := (List.getElem?_eq_some_iff.mp hget').1
    exact hfresh _ hlt _ hlt' _ _ _ _ hread hread' hsalt

end Run

/-- Of three calls the second comes too late. The others show two different reads, each its own. -/
theorem salts_of_late_call :
    ∃ (deriver : Secret.Deriver) (payload payload' : Bytes) (readers : List Nat)
      (readOf : Nat → Nat), readers[readOf 0]? = some 0 ∧ readers[readOf 2]? = some 2 ∧
      Shows deriver .numbered 0 (readOf 0) payload ∧
      Shows deriver .numbered 0 (readOf 2) payload' ∧ readOf 0 ≠ readOf 2 := by
  let deriver : Secret.Deriver := ⟨.reference, ⟨1, 1, []⟩, rfl⟩
  let operation : Operation Nat := .deriveSecret deriver .numbered
  let table (operation : Operation Nat) : Table Nat :=
    ⟨[(derivateKeyName, .derivateKey), (deriveSecretName, operation)]⟩
  have htable : Table.standard deriver .numbered = .ok (table operation) :=
    Table.standard_eq deriver .numbered
  have hstart : State.start ⟨1, 3, ⟨1⟩⟩ (table operation) 0 =
      .ok (.initial ⟨1, 3, ⟨1⟩⟩ (table operation) 0) := rfl
  -- The run is the same for every operation, so that no digest is computed in it.
  have hruns : ∀ operation : Operation Nat, ∃ s,
      run (.initial ⟨1, 3, ⟨1⟩⟩ (table operation) 0)
        [.submit deriveSecretName [], .submit deriveSecretName [], .submit deriveSecretName [],
          .enqueue 0, .enqueue 0, .enqueue 0, .dequeue 0, .perform 0, .finish 0, .dequeue 0,
          .overrun 0 ⟨1⟩, .perform 0, .finish 0, .dequeue 0, .perform 0, .finish 0] =
      some (s, [.entered 0, .entered 1, .entered 2, .started 0 ⟨1, []⟩,
        .performed 0 (operation.run ⟨1, []⟩ 0).1, .ended 0,
        .answered 0 (outcomeOf (operation.run ⟨1, []⟩ 0).1),
        .started 1 ⟨2, []⟩, .overran 1 ⟨1⟩, .answered 1 (.error (operation.timeoutError ⟨1⟩)),
        .performed 1 (operation.run ⟨2, []⟩ (operation.run ⟨1, []⟩ 0).2).1, .ended 1,
        .started 2 ⟨3, []⟩, .performed 2 (operation.run ⟨3, []⟩
          (operation.run ⟨2, []⟩ (operation.run ⟨1, []⟩ 0).2).2).1, .ended 2,
        .answered 2 (outcomeOf (operation.run ⟨3, []⟩
          (operation.run ⟨2, []⟩ (operation.run ⟨1, []⟩ 0).2).2).1)]) :=
    fun operation => ⟨_, rfl⟩
  obtain ⟨s, hrun⟩ := hruns operation
  have hgood : ∀ count, ∃ payload,
      (deriveSecret ⟨.reference, ⟨1, 1, []⟩, rfl⟩ .numbered count).1 = .returned (.ok payload) :=
    fun count => ⟨_, rfl⟩
  obtain ⟨payload, hpayload⟩ := hgood 0
  obtain ⟨payload', hpayload'⟩ := hgood 2
  replace hpayload : (operation.run ⟨1, []⟩ 0).1 = .returned (.ok payload) := hpayload
  replace hpayload' : (operation.run ⟨3, []⟩ 2).1 = .returned (.ok payload') := hpayload'
  have hstate : (operation.run ⟨2, []⟩ (operation.run ⟨1, []⟩ 0).2).2 = 2 := rfl
  rw [hpayload, hstate, hpayload'] at hrun
  obtain ⟨readers, readOf, -, hshows, hinjective, -⟩ := salts_of_run htable hstart hrun
  have hfirst := hshows 0 payload ⟨⟨[], rfl⟩, by simp [outcomeOf]⟩
  have hthird := hshows 2 payload' ⟨⟨[], rfl⟩, by simp [outcomeOf]⟩
  refine ⟨deriver, payload, payload', readers, readOf, hfirst.1, hthird.1, hfirst.2, hthird.2, ?_⟩
  intro heq
  have hcall := hinjective 0 2 payload payload' ⟨⟨[], rfl⟩, by simp [outcomeOf]⟩
    ⟨⟨[], rfl⟩, by simp [outcomeOf]⟩ heq
  cases hcall

end DerivationPool.Pool

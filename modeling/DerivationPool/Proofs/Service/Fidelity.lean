import DerivationPool.Service.Handler
import DerivationPool.Proofs.Job.Texts
import DerivationPool.Proofs.Pool.Salts
import DerivationPool.Proofs.Service.Handling

/-!
From end to end. Over a carrier that changes nothing, a client gets what its job came
to: a request, the run of an operation, a reply and, where a secret was asked for, the
response inside the reply are written and read one after the other, and together they
are the identity on outcomes. What does not fit on the wire is not sent, and no failure
ever looks like a secret.
-/
namespace DerivationPool

open Message

namespace Pool

variable {σ : Type}

/-- In the course of a run the job of a call came to this secret. -/
def Derives (deriver : Secret.Deriver) (source : Entropy σ) (s₀ : State σ) (events : List Event)
    (call : Nat) (derived : Secret.Derived) : Prop :=
  ∃ (earlier : List Event) (w : Nat) (later : List Event) (s : State σ) (notices : List Notice)
    (d : Dispatch σ),
    events = earlier ++ .perform w :: later ∧ run s₀ earlier = some (s, notices) ∧
    (s.workers[w]? = some (.running d none) ∨ s.workers[w]? = some (.held d none)) ∧
    d.call = call ∧ (deriver.next source s.shared).1 = .returned (.ok derived)

variable {deriver : Secret.Deriver} {source : Entropy σ} {config : Config} {table : Table σ}
  {shared : σ} {s₀ s s' : State σ} {before after : List Event} {earlier notices : List Notice}

theorem next_of_deriveSecret {state : σ} {payload : Bytes}
    (h : (deriveSecret deriver source state).1 = .returned (.ok payload)) :
    ∃ derived, (deriver.next source state).1 = .returned (.ok derived) ∧
      DerivationResponse.encodeParts derived.salt derived.secret = .ok payload := by
  have hmap : (deriver.next source state).1.map respondSecret = .returned (.ok payload) := h
  cases hnext : (deriver.next source state).1 with
  | panicked =>
    rw [hnext] at hmap
    cases hmap
  | returned attempted =>
    rw [hnext, Attempt.map_returned, Attempt.returned.injEq] at hmap
    obtain ⟨derived, rfl, hencode⟩ := respondSecret_eq_ok hmap
    exact ⟨derived, rfl, hencode⟩

/-- A call that was answered with a secret's bytes has run, and they are those of its secret. -/
theorem derives_of_answered
    (hop : table.get? deriveSecretName = some (.deriveSecret deriver source))
    (hstart : State.start config table shared = .ok s₀)
    (hbefore : run s₀ before = some (s, earlier)) {data payload : Bytes}
    (hafter : run s (.submit deriveSecretName data :: after) = some (s', notices))
    (hanswered : .answered s.nextCall (.ok payload) ∈ notices) :
    ∃ derived, Derives deriver source s₀ (before ++ .submit deriveSecretName data :: after)
        s.nextCall derived ∧
      DerivationResponse.encodeParts derived.salt derived.secret = .ok payload := by
  have hrun := run_trans hbefore hafter
  have hget := getElem?_requests hstart hbefore deriveSecretName data after
  have hresults := results_of_ok hstart hrun hget hop (List.mem_append_right _ hanswered)
  have hserved := served_of_run hstart hrun hget hop
  obtain ⟨first, w, later, mid, new, hevents, hmid, hworker, hresult⟩ :=
    hserved.ran (.returned (.ok payload)) (by rw [hresults]; exact List.mem_singleton_self _)
  obtain ⟨derived, hnext, hencode⟩ := next_of_deriveSecret hresult.symm
  exact ⟨derived, ⟨first, w, later, mid, new, _, hevents, hmid, hworker, rfl, hnext⟩, hencode⟩

end Pool

namespace Service

variable {σ : Type}

/-- Carries requests to a server in front of a pool, and what is written in answer back. -/
def unchanged : Carrier (Pool.Course σ) := fun request =>
  Except.ok <$> handle Pool.Course.execute request

/-- What a client reads that asked for a job of this outcome. -/
def delivered (outcome : Outcome) : Except ServiceError JobReply :=
  Client.readReply (written (replyOf outcome))

namespace Client

/-- A request that is too long is not sent, whatever would carry it. -/
theorem execute_of_tooLong {m : Type → Type} [Monad m] (carry : Carrier m) {name : String}
    {data : Bytes} (hlong : maxSize < size (JobRequest.mk name data)) :
    execute carry name data = pure (.error (.protocol
      (MessageError.tooLarge (size (JobRequest.mk name data)) maxSize).text)) := by
  have hencode : encode (JobRequest.mk name data) = .error (.tooLarge _ maxSize) :=
    encode_eq_error_iff.mpr ⟨hlong, rfl⟩
  rw [execute, request, hencode]
  rfl

/-- Any other asks the pool for just what it names. -/
theorem execute_unchanged {name : String} {data : Bytes}
    (hfit : size (JobRequest.mk name data) ≤ maxSize) :
    execute (unchanged : Carrier (Pool.Course σ)) name data =
      delivered <$> Pool.Course.execute name data := by
  have hencode := encode_eq_ok hfit
  have hrequest : request name data = .ok (item (JobRequest.mk name data)).encode := by
    rw [request, hencode]
    rfl
  rw [execute, hrequest]
  dsimp only
  rw [send, unchanged, handle_of_job hfit (decode_encode regular_jobRequest hencode), ← comp_map,
    ← comp_map]
  rfl

end Client

theorem delivered_of_size {outcome : Outcome} (hsize : size (replyOf outcome) ≤ maxSize) :
    delivered outcome = .ok (replyOf outcome) := by
  have hcarries := carries_item hsize (proper_replyOf outcome)
  rw [delivered, written_of_size hsize, Client.readReply, Option.getD_some, hcarries.decodes]
  rfl

theorem toExcept_replyOf_ok {outcome : Outcome} {output : Bytes} :
    (replyOf outcome).toExcept = .ok output ↔ outcome = .ok output := by
  cases outcome with
  | ok output' => simp [replyOf]
  | error e => simp [replyOf]

theorem toExcept_replyOf_error {outcome : Outcome} {e : JobError} :
    (replyOf outcome).toExcept = .error ⟨e.kind, e.message⟩ ↔ outcome = .error e := by
  cases outcome with
  | ok output => simp [replyOf]
  | error e' =>
    simp only [replyOf, JobReply.toExcept_failed, Except.error.injEq, JobFailure.mk.injEq]
    exact ⟨fun h => JobError.eq_of_texts h.1 h.2, fun h => h ▸ ⟨rfl, rfl⟩⟩

/-- What a client that asked for a secret gets for the outcome of its job: the secret that was
derived, byte for byte, or how the job failed. -/
def Agrees (derives : Secret.Derived → Prop) : Outcome → Except ServiceError DerivationResponse →
    Prop
  | .ok _, .ok response =>
    ∃ derived, derives derived ∧ response.salt = derived.salt ∧ response.secret = derived.secret
  | .error e, .error told => told = .job ⟨e.kind, e.message⟩
  | _, _ => False

/-- What a client makes of the outcome of a job that derives a secret. -/
def deliveredSecret (outcome : Outcome) : Except ServiceError DerivationResponse :=
  (delivered outcome).bind Client.readSecret

/-- Over a carrier that changes nothing, asking for a secret is asking the pool. -/
theorem Client.deriveSecret_unchanged {jobName : String}
    (hfit : size (JobRequest.mk deriveSecretName (Text.encode jobName)) ≤ maxSize) :
    Client.deriveSecret (unchanged : Carrier (Pool.Course σ)) deriveSecretName jobName =
      deliveredSecret <$> Pool.Course.execute deriveSecretName (Text.encode jobName) := by
  rw [deriveSecret, execute_unchanged hfit, ← comp_map]
  rfl

theorem deliveredSecret_of_error {e : JobError}
    (hsize : size (replyOf (.error e)) ≤ maxSize) :
    deliveredSecret (.error e) = .error (.job ⟨e.kind, e.message⟩) := by
  rw [deliveredSecret, delivered_of_size hsize]
  rfl

/-- The client has the salt and the secret of the response, byte for byte. -/
theorem deliveredSecret_of_ok {salt secret payload : Bytes}
    (hencode : DerivationResponse.encodeParts salt secret = .ok payload)
    (hsize : size (replyOf (.ok payload)) ≤ maxSize) :
    ∃ response, deliveredSecret (.ok payload) = .ok response ∧ response.salt = salt ∧
      response.secret = secret := by
  obtain ⟨response, hdecode, hsalt, hsecret⟩ := DerivationResponse.decode_encodeParts hencode
  refine ⟨response, ?_, hsalt, hsecret⟩
  have hread : deliveredSecret (.ok payload) =
      (decode DerivationResponse payload).mapError .ofMessage := by
    rw [deliveredSecret, delivered_of_size hsize]
    rfl
  rw [hread, hdecode]
  rfl

/-- What is written for a failed reply tells of a failure, if anything is written at all. -/
theorem written_failed (kind message : String) :
    written (.failed kind message) = none ∨
      ∃ bytes kind' message', written (.failed kind message) = some bytes ∧
        decode JobReply bytes = .ok (.failed kind' message') := by
  cases hencode : encode (JobReply.failed kind message) with
  | ok bytes =>
    refine .inr ⟨bytes, kind, message, ?_, decode_encode regular_jobReply hencode⟩
    rw [written, hencode]
  | error e =>
    have hwritten : written (.failed kind message) =
        (encode (JobReply.failed encodingFailureKind e.text)).toOption := by
      rw [written, hencode]
    cases hfallback : encode (JobReply.failed encodingFailureKind e.text) with
    | ok bytes =>
      refine .inr ⟨bytes, encodingFailureKind, e.text, ?_, decode_encode regular_jobReply hfallback⟩
      rw [hwritten, hfallback]
      rfl
    | error e' =>
      rw [hwritten, hfallback]
      exact .inl rfl

/-- A failure is no secret, also where its reply is too long and another is written for it. -/
theorem deliveredSecret_error_ne_ok (e : JobError) (response : DerivationResponse) :
    deliveredSecret (.error e) ≠ .ok response := by
  intro h
  unfold deliveredSecret delivered Client.readReply at h
  obtain hnone | ⟨bytes, kind, message, hsome, hdecode⟩ := written_failed e.kind e.message
  · have hnothing : decode JobReply [] = .error (.ofCbor .endOfInput) := rfl
    rw [replyOf, hnone, Option.getD_none, hnothing] at h
    cases h
  · rw [replyOf, hsome, Option.getD_some, hdecode] at h
    cases h

/-- Who asks a started pool for a secret gets what its own job came to. -/
theorem agrees_of_answered {deriver : Secret.Deriver} {source : Entropy σ} {config : Pool.Config}
    {table : Table σ} {shared : σ} {s₀ s s' : Pool.State σ} {before after : List Pool.Event}
    {earlier notices : List Pool.Notice} {data : Bytes} {outcome : Outcome}
    (hop : table.get? deriveSecretName = some (.deriveSecret deriver source))
    (hstart : Pool.State.start config table shared = .ok s₀)
    (hbefore : Pool.run s₀ before = some (s, earlier))
    (hafter : Pool.run s (.submit deriveSecretName data :: after) = some (s', notices))
    (hanswered : .answered s.nextCall outcome ∈ notices) (hsize : size (replyOf outcome) ≤ maxSize) :
    Agrees (Pool.Derives deriver source s₀ (before ++ .submit deriveSecretName data :: after)
      s.nextCall) outcome (deliveredSecret outcome) := by
  cases outcome with
  | error e =>
    rw [deliveredSecret_of_error hsize]
    rfl
  | ok payload =>
    obtain ⟨derived, hderives, hencode⟩ :=
      Pool.derives_of_answered hop hstart hbefore hafter hanswered
    obtain ⟨response, hdelivered, hsalt, hsecret⟩ := deliveredSecret_of_ok hencode hsize
    rw [hdelivered]
    exact ⟨derived, hderives, hsalt, hsecret⟩

/-- A client and a server in front of a pool, in every state of the pool and however it goes on. A
request that is too long is not sent. Any other runs just what it names, a pool that is left to
itself brings it to its end, and the client gets the outcome, told apart from all others. Of a pool
that was started and serves fresh secrets, a client that asks for one gets the secret that was
derived for it, or how its job failed, and never a secret for a failure. -/
theorem fidelity_of_client (name : String) (data : Bytes) :
    (maxSize < size (JobRequest.mk name data) →
      ∀ (m : Type → Type) [Monad m] (carry : Carrier m),
        Client.execute carry name data = pure (.error (.protocol
          (MessageError.tooLarge (size (JobRequest.mk name data)) maxSize).text))) ∧
    (size (JobRequest.mk name data) ≤ maxSize →
      (∀ (s s' : Pool.State σ) result notices,
        Client.execute unchanged name data s result s' notices ↔
          ∃ outcome, Pool.Course.execute name data s outcome s' notices ∧
            result = delivered outcome) ∧
      ∀ s : Pool.State σ, Pool.Reachable s →
        (Client.execute unchanged name data).Completes s name data) ∧
    (∀ outcome, size (replyOf outcome) ≤ maxSize →
      ∃ reply, delivered outcome = .ok reply ∧
        (∀ output, reply.toExcept = .ok output ↔ outcome = .ok output) ∧
        ∀ e : JobError, reply.toExcept = .error ⟨e.kind, e.message⟩ ↔ outcome = .error e) ∧
    (∀ (deriver : Secret.Deriver) (source : Entropy σ) config table shared
        (s₀ s : Pool.State σ) before earlier (jobName : String),
      table.get? deriveSecretName = some (.deriveSecret deriver source) →
      Pool.State.start config table shared = .ok s₀ →
      Pool.run s₀ before = some (s, earlier) →
      size (JobRequest.mk deriveSecretName (Text.encode jobName)) ≤ maxSize →
      ∀ (s' : Pool.State σ) result notices,
        Client.deriveSecret unchanged deriveSecretName jobName s result s' notices ↔
          ∃ outcome after, Pool.run s (.submit deriveSecretName (Text.encode jobName) :: after) =
              some (s', notices) ∧
            .answered s.nextCall outcome ∈ notices ∧ result = deliveredSecret outcome ∧
            (size (replyOf outcome) ≤ maxSize →
              Agrees (Pool.Derives deriver source s₀
                (before ++ .submit deriveSecretName (Text.encode jobName) :: after) s.nextCall)
                outcome result) ∧
            (∀ e, outcome = .error e → ∀ response, result ≠ .ok response)) := by
  refine ⟨?_, ?_, ?_, ?_⟩
  · intro hlong m _ carry
    exact Client.execute_of_tooLong carry hlong
  · intro hfit
    rw [Client.execute_unchanged hfit]
    exact ⟨fun s s' result notices => Pool.Course.map_iff,
      fun s hreached => (Pool.Course.completes_execute hreached _ _).map _⟩
  · intro outcome hsize
    exact ⟨_, delivered_of_size hsize, fun _ => toExcept_replyOf_ok,
      fun _ => toExcept_replyOf_error⟩
  · intro deriver source config table shared s₀ s before earlier jobName hop hstart hbefore hfit s'
      result notices
    rw [Client.deriveSecret_unchanged hfit, Pool.Course.map_iff]
    constructor
    · rintro ⟨outcome, ⟨after, hafter, hanswered⟩, rfl⟩
      refine ⟨outcome, after, hafter, hanswered, rfl, ?_, ?_⟩
      · exact agrees_of_answered hop hstart hbefore hafter hanswered
      · rintro e rfl
        exact deliveredSecret_error_ne_ok e
    · rintro ⟨outcome, after, hafter, hanswered, rfl, -, -⟩
      exact ⟨outcome, ⟨after, hafter, hanswered⟩, rfl⟩

/-- A client that asks a pool of one worker for a secret gets the one that the worker derives, and
one that asks for too much is told so. -/
theorem fidelity_of_secret :
    ∃ (deriver : Secret.Deriver) (derived : Secret.Derived) (response : DerivationResponse)
      (s s' : Pool.State Nat) (events : List Pool.Event) (notices : List Pool.Notice),
      (Pool.Reachable s ∧
        (Client.execute unchanged deriveSecretName (Text.encode "job")).Completes s deriveSecretName
          (Text.encode "job")) ∧
      (Client.deriveSecret unchanged deriveSecretName "job" s (.ok response) s' notices ∧
        Pool.Derives deriver .numbered s events 0 derived ∧ response.salt = derived.salt ∧
        response.secret = derived.secret) ∧
      Client.execute unchanged "" (List.replicate 65536 0) = (pure (.error (.protocol
        "message too large: 65558 bytes (max 65536)")) : Pool.Course Nat _) ∧
      ∃ reply, delivered (.error .poolClosed) = .ok reply ∧
        reply.toExcept = .error ⟨"pool_closed", JobError.poolClosed.message⟩ := by
  let deriver : Secret.Deriver := ⟨.reference, ⟨1, 1, []⟩, rfl⟩
  let operation : Operation Nat := .deriveSecret deriver .numbered
  let table (operation : Operation Nat) : Table Nat := ⟨[(deriveSecretName, operation)]⟩
  let start (operation : Operation Nat) : Pool.State Nat :=
    .initial ⟨1, 1, ⟨1⟩⟩ (table operation) 0
  obtain ⟨payload, hpayload, hlength⟩ : ∃ payload : Bytes,
      (deriveSecret ⟨.reference, ⟨1, 1, []⟩, rfl⟩ .numbered 0).1 = .returned (.ok payload) ∧
        payload.length = 17 := ⟨_, rfl, rfl⟩
  replace hpayload : (operation.run ⟨1, Text.encode "job"⟩ 0).1 = .returned (.ok payload) :=
    hpayload
  -- The run is the same for every operation, so that no digest is computed in it.
  have hruns : ∀ operation : Operation Nat, ∃ s', Pool.run (start operation)
      (.submit deriveSecretName (Text.encode "job") ::
        [.enqueue 0, .dequeue 0, .perform 0, .finish 0]) =
      some (s', [.entered 0, .started 0 ⟨1, Text.encode "job"⟩,
        .performed 0 (operation.run ⟨1, Text.encode "job"⟩ 0).1, .ended 0,
        .answered 0 (Pool.outcomeOf (operation.run ⟨1, Text.encode "job"⟩ 0).1)]) :=
    fun operation => ⟨_, rfl⟩
  obtain ⟨s', hrun⟩ := hruns operation
  rw [hpayload] at hrun
  have hsize : size (replyOf (.ok payload)) ≤ maxSize := by
    rw [replyOf, JobReply.size_ok, hlength]
    decide
  have hexecute : Pool.Course.execute deriveSecretName (Text.encode "job") (start operation)
      (.ok payload) s' _ :=
    ⟨_, hrun, by simp [start, Pool.State.initial, Pool.outcomeOf]⟩
  have hclient := (Pool.Course.map_iff (f := deliveredSecret)).mpr ⟨_, hexecute, rfl⟩
  rw [← Client.deriveSecret_unchanged (by decide)] at hclient
  obtain ⟨outcome, after, -, hanswered, -, hagrees, -⟩ :=
    ((fidelity_of_client "" []).2.2.2 deriver .numbered ⟨1, 1, ⟨1⟩⟩ (table operation) 0
      (start operation) (start operation) [] [] "job" rfl rfl rfl (by decide) _ _ _).mp hclient
  obtain rfl : outcome = .ok payload := by
    simpa [start, Pool.State.initial, Pool.outcomeOf] using hanswered
  replace hagrees := hagrees hsize
  have hreached : Pool.Reachable (start operation) :=
    ⟨⟨1, 1, ⟨1⟩⟩, table operation, 0, start operation, [], [], rfl, rfl⟩
  obtain ⟨-, hfit, hdelivers, -⟩ := @fidelity_of_client Nat deriveSecretName (Text.encode "job")
  have hcompletes := (hfit (by decide)).2 _ hreached
  obtain ⟨refused, hrefused, -, htold⟩ := hdelivers (.error .poolClosed) (by decide)
  have hlarge : size (JobRequest.mk "" (List.replicate 65536 0)) = 65558 := by
    rw [JobRequest.size_mk, List.length_replicate]
    rfl
  have hlong := (@fidelity_of_client Nat "" (List.replicate 65536 0)).1 (by rw [hlarge]; decide)
    _ (unchanged : Carrier (Pool.Course Nat))
  have htext : (MessageError.tooLarge 65558 maxSize).text =
      "message too large: 65558 bytes (max 65536)" := rfl
  rw [hlarge, htext] at hlong
  cases hdelivered : deliveredSecret (.ok payload) with
  | error e =>
    rw [hdelivered] at hagrees
    exact hagrees.elim
  | ok response =>
    rw [hdelivered] at hagrees hclient
    obtain ⟨derived, hderives, hsalt, hsecret⟩ := hagrees
    exact ⟨deriver, derived, response, start operation, s', _, _, ⟨hreached, hcompletes⟩,
      ⟨hclient, hderives, hsalt, hsecret⟩, hlong, refused, hrefused, (htold _).mpr rfl⟩

end Service

end DerivationPool

import DerivationPool.Operation.Standard
import DerivationPool.Proofs.Message.Content
import DerivationPool.Proofs.Operation.DerivateKey
import DerivationPool.Proofs.Service.Handling

/-!
How failures are classified on the wire. A job that fails is reported under the
classification of its error as long as the report fits. The texts of some errors repeat a
name that the caller chose, and a report that such a name makes too long is classified
anew, as one that could not be written. Where that begins is known to the byte.
-/
namespace DerivationPool

open Message Cbor

namespace Pool.Course

variable {σ : Type} {s s' : State σ} {name : String} {data : Bytes} {outcome : Outcome}
  {notices : List Notice}

/-- Who asks for an operation that is not registered is told so and nothing else. -/
theorem outcome_of_unknown (h : Reachable s) (hop : s.table.get? name = none)
    (hcourse : execute name data s outcome s' notices) :
    outcome = .error (.unknownOperation name) := by
  obtain ⟨after, hafter, hanswered⟩ := hcourse
  refine execute_unique h ⟨after, hafter, hanswered⟩ ⟨after, hafter, ?_⟩
  rw [run_cons, Option.bind_eq_some_iff] at hafter
  obtain ⟨⟨mid, first⟩, hstep, hrest⟩ := hafter
  rw [Option.map_eq_some_iff] at hrest
  obtain ⟨⟨last, rest⟩, -, heq⟩ := hrest
  cases heq
  cases moves_of_step hstep with
  | tooLate hop' | submit hop' => simp [hop] at hop'
  | unknown => exact List.mem_append_left _ (List.mem_singleton_self _)

/-- Who asks for any other is told what a run of it on the data has come to, or that it took too
long, or that the pool was closed. -/
theorem outcome_of_registered {operation : Operation σ} (h : Reachable s)
    (hop : s.table.get? name = some operation)
    (hcourse : execute name data s outcome s' notices) :
    (∃ id shared, outcome = outcomeOf (operation.run ⟨id, data⟩ shared).1) ∨
      (∃ t, s.config.jobTimeout.nanos ≤ t.nanos ∧
        outcome = .error (operation.timeoutError t)) ∨
      outcome = .error .poolClosed := by
  obtain ⟨config, table, shared, s₀, before, earlier, hstart, hbefore⟩ := h
  obtain ⟨after, hafter, hanswered⟩ := hcourse
  have hsound := sound_of_run hstart hbefore
  rw [hsound.table_eq] at hop
  rw [hsound.config_eq]
  have hserved := served_of_run hstart (run_trans hbefore hafter)
    (getElem?_requests hstart hbefore name data after) hop
  have hran : ∀ result ∈ (account (earlier ++ notices) s.nextCall).results,
      ∃ id shared, (operation.run ⟨id, data⟩ shared).1 = result :=
    fun result hresult => ⟨_, (hserved.ran result hresult).exists_run⟩
  have hgrounds := hserved.grounds outcome
    ((mem_answers _ _ _).mpr (List.mem_append_right _ hanswered))
  cases hgrounds with
  | returned outcome result =>
    obtain ⟨id, shared, heq⟩ := hran _ (result ▸ List.mem_singleton_self _)
    exact .inl ⟨id, shared, by rw [heq]; rfl⟩
  | panicked result =>
    obtain ⟨id, shared, heq⟩ := hran _ (result ▸ List.mem_singleton_self _)
    exact .inl ⟨id, shared, by rw [heq]; rfl⟩
  | overran t htime => exact .inr (.inl ⟨t, htime, rfl⟩)
  | refused => exact .inr (.inr rfl)

end Pool.Course

namespace Service

/-- A report that repeats a name fits if the name is short enough. -/
theorem size_report_le_iff {kind : String} (hkind : (Text.encode kind).length < 24)
    (front name : String) :
    size (JobReply.failed kind (front ++ name)) ≤ maxSize ↔
      (Text.encode kind).length + (Text.encode front).length + (Text.encode name).length ≤
        65492 := by
  have hmax : maxSize = 65536 := rfl
  rw [JobReply.size_failed, Text.length_encode_append, hmax]
  simp only [headSize, argumentSize, if_pos hkind]
  split <;> (try split) <;> (try split) <;> (try split) <;> omega

/-- What is written for a report that repeats a name, of any length that a request has room for. -/
theorem carries_report (kind front : String) {name : String} (most : Nat)
    (hshort : (Text.encode kind).length < 24 ∧ (Text.encode front).length < 64 ∧
      (Text.encode kind).length + (Text.encode front).length + most = 65492)
    (hname : (Text.encode name).length < maxSize) :
    ∃ bytes, written (.failed kind (front ++ name)) = some bytes ∧
      Carries bytes
        (if (Text.encode name).length ≤ most then .failed kind (front ++ name)
          else .failed "encoding_failure"
            (MessageError.tooLarge (size (JobReply.failed kind (front ++ name))) maxSize).text) := by
  have hmax : maxSize = 65536 := rfl
  have hword : size (JobReply.failed kind (front ++ name)) < 1 <<< 64 := by
    refine Nat.lt_of_le_of_lt (size_failed_le _ _) (Nat.lt_trans ?_ (by decide : 70000 < 1 <<< 64))
    rw [Text.length_encode_append]
    omega
  have hfits : size (JobReply.failed kind (front ++ name)) ≤ maxSize ↔
      (Text.encode name).length ≤ most := by
    rw [size_report_le_iff (by omega)]
    omega
  obtain ⟨bytes, hwritten, hcarries⟩ := carries_written (proper_failed _ _) hword
  simp only [shortened, hfits] at hcarries
  exact ⟨bytes, hwritten, hcarries⟩

section Request

variable {σ : Type} {request : Bytes} {job : JobRequest} (hfit : request.length ≤ maxSize)
  (hjob : decode JobRequest request = .ok job)

include hfit hjob

theorem length_operation_lt : (Text.encode job.operation).length < maxSize := by
  have hsmaller := tame_jobRequest.smaller request job hjob
  omega

theorem length_hash_lt {r : DerivateKeyRequest}
    (hdecode : decode DerivateKeyRequest job.data = .ok r) :
    (Text.encode r.hash).length < maxSize := by
  have hsmaller := tame_jobRequest.smaller request job hjob
  have hsmallest := tame_derivateKeyRequest.smaller job.data r hdecode
  omega

/-- What is written for an operation that is not registered. -/
theorem carries_unknown_operation {s s' : Pool.State σ} {outcome : Outcome}
    {notices : List Pool.Notice} (hreached : Pool.Reachable s)
    (hop : s.table.get? job.operation = none)
    (hcourse : Pool.Course.execute job.operation job.data s outcome s' notices) :
    ∃ bytes, written (replyOf outcome) = some bytes ∧
      let report := JobReply.failed "unknown_operation" ("unknown operation: " ++ job.operation)
      Carries bytes
        (if (Text.encode job.operation).length ≤ 65456 then report
          else .failed "encoding_failure" (MessageError.tooLarge (size report) maxSize).text) := by
  rw [Pool.Course.outcome_of_unknown hreached hop hcourse]
  exact carries_report "unknown_operation" "unknown operation: " 65456 (by decide)
    (length_operation_lt hfit hjob)

/-- What is written for a hash that is not known. -/
theorem carries_unknown_hash {r : DerivateKeyRequest}
    (hdecode : decode DerivateKeyRequest job.data = .ok r)
    (hhash : ∀ a, Algorithm.ofName? r.hash ≠ .ok a) :
    ∃ bytes, written (replyOf (derivateKey job.data)) = some bytes ∧
      let report := JobReply.failed "invalid_job" ("invalid job: unsupported HKDF hash: " ++ r.hash)
      Carries bytes
        (if (Text.encode r.hash).length ≤ 65445 then report
          else .failed "encoding_failure" (MessageError.tooLarge (size report) maxSize).text) := by
  have htext : "invalid job: " ++ ("unsupported HKDF hash: " ++ r.hash) =
      "invalid job: unsupported HKDF hash: " ++ r.hash := (String.append_assoc ..).symm
  obtain ⟨bytes, hwritten, hcarries⟩ :=
    carries_report "invalid_job" "invalid job: unsupported HKDF hash: " 65445 (by decide)
      (length_hash_lt hfit hjob hdecode)
  refine ⟨bytes, ?_, hcarries⟩
  rw [derivateKey_of_unknown hdecode hhash, ← hwritten, ← htext]
  rfl

/-- A server in front of a pool, in every state of the pool and however it goes on: it comes to an
answer, and a job that failed is answered with the classification and the text of its error, if
that report fits, and else with the size of the report. So an operation that is not registered is
reported as just that if its name has at most 65456 bytes, and a hash that is not known if its name
has at most 65445, in time and before the pool is closed. -/
theorem kinds_of_failures :
    (∀ s : Pool.State σ, Pool.Reachable s →
      (handle Pool.Course.execute request).Completes s job.operation job.data) ∧
    (∀ (s s' : Pool.State σ) e notices,
      Pool.Course.execute job.operation job.data s (.error e) s' notices →
      size (JobReply.failed e.kind e.message) < 1 <<< 64 →
      ∃ bytes, handle Pool.Course.execute request s (some bytes) s' notices ∧
        Carries bytes
          (if size (JobReply.failed e.kind e.message) ≤ maxSize then .failed e.kind e.message
            else .failed "encoding_failure"
              (MessageError.tooLarge (size (JobReply.failed e.kind e.message)) maxSize).text) ∧
        (Pool.Reachable s → ∀ answer,
          handle Pool.Course.execute request s answer s' notices → answer = some bytes)) ∧
    (∀ s : Pool.State σ, Pool.Reachable s → s.table.get? job.operation = none →
      ∀ s' answer notices, handle Pool.Course.execute request s answer s' notices →
      ∃ bytes, answer = some bytes ∧
        let report := JobReply.failed "unknown_operation" ("unknown operation: " ++ job.operation)
        Carries bytes
          (if (Text.encode job.operation).length ≤ 65456 then report
            else .failed "encoding_failure"
              (MessageError.tooLarge (size report) maxSize).text)) ∧
    (∀ s : Pool.State σ, Pool.Reachable s →
      s.table.get? job.operation = some Operation.derivateKey →
      ∀ r, decode DerivateKeyRequest job.data = .ok r →
      (∀ a, Algorithm.ofName? r.hash ≠ .ok a) →
      ∀ s' answer notices, handle Pool.Course.execute request s answer s' notices →
      (∃ bytes, answer = some bytes ∧
        let report := JobReply.failed "invalid_job"
          ("invalid job: unsupported HKDF hash: " ++ r.hash)
        Carries bytes
          (if (Text.encode r.hash).length ≤ 65445 then report
            else .failed "encoding_failure"
              (MessageError.tooLarge (size report) maxSize).text)) ∨
      (∃ t, s.config.jobTimeout.nanos ≤ t.nanos ∧
        answer = written (replyOf (.error (.timedOut t)))) ∨
      answer = written (replyOf (.error .poolClosed))) := by
  have hhandle : handle (Pool.Course.execute (σ := σ)) request =
      (fun outcome => written (replyOf outcome)) <$>
        Pool.Course.execute job.operation job.data := handle_of_job hfit hjob
  refine ⟨?_, ?_, ?_, ?_⟩
  · intro s hreached
    rw [hhandle]
    exact (Pool.Course.completes_execute hreached _ _).map _
  · intro s s' e notices hcourse hword
    obtain ⟨bytes, hwritten, hcarries⟩ := carries_written (proper_failed e.kind e.message) hword
    refine ⟨bytes, ?_, hcarries, fun hreached answer hanswer => ?_⟩
    · rw [hhandle]
      exact Pool.Course.map_iff.mpr ⟨_, hcourse, hwritten.symm⟩
    · rw [hhandle] at hanswer
      obtain ⟨outcome, hcourse', rfl⟩ := Pool.Course.map_iff.mp hanswer
      rw [Pool.Course.execute_unique hreached hcourse' hcourse]
      exact hwritten
  · intro s hreached hop s' answer notices hanswer
    rw [hhandle] at hanswer
    obtain ⟨outcome, hcourse, rfl⟩ := Pool.Course.map_iff.mp hanswer
    exact carries_unknown_operation hfit hjob hreached hop hcourse
  · intro s hreached hop r hdecode hhash s' answer notices hanswer
    rw [hhandle] at hanswer
    obtain ⟨outcome, hcourse, rfl⟩ := Pool.Course.map_iff.mp hanswer
    obtain ⟨id, shared, rfl⟩ | ⟨t, htime, rfl⟩ | rfl :=
      Pool.Course.outcome_of_registered hreached hop hcourse
    · exact .inl (carries_unknown_hash hfit hjob hdecode hhash)
    · exact .inr (.inl ⟨t, htime, rfl⟩)
    · exact .inr (.inr rfl)

end Request

/-- A request for a hash with a name of 65470 bytes just fits, but the report that the hash is not
known does not. -/
theorem kinds_of_long_hash :
    ∃ (hash : String) (request bytes : Bytes) (s s' : Pool.State Unit)
      (notices : List Pool.Notice),
      hash = String.ofList (List.replicate 65470 'x') ∧ request.length = maxSize ∧
      decode JobRequest request =
        .ok ⟨derivateKeyName, (item (DerivateKeyRequest.mk [] [] [] 1 hash)).encode⟩ ∧
      Pool.Reachable s ∧ handle Pool.Course.execute request s (some bytes) s' notices ∧
      Carries bytes
        (.failed "encoding_failure" "message too large: 65561 bytes (max 65536)") := by
  obtain ⟨hash, hhash⟩ : ∃ hash, hash = String.ofList (List.replicate 65470 'x') := ⟨_, rfl⟩
  have hencoded : (Text.encode hash).length = 65470 := by
    rw [hhash]
    exact Text.length_encode_replicate rfl 65470
  have hunknown : ∀ a, Algorithm.ofName? hash ≠ .ok a := by
    intro a ha
    have hlength := Algorithm.length_of_ofName? ha
    rw [hhash, String.length_ofList, List.length_replicate] at hlength
    cases hlength
  let keyRequest : DerivateKeyRequest := ⟨[], [], [], 1, hash⟩
  have hkeySize : size keyRequest = 65504 := by
    rw [DerivateKeyRequest.size_mk, hencoded]
    decide
  have hkey : decode DerivateKeyRequest (item keyRequest).encode = .ok keyRequest :=
    decode_encode regular_derivateKeyRequest (encode_eq_ok (by rw [hkeySize]; decide))
  have hjobSize : size (JobRequest.mk derivateKeyName (item keyRequest).encode) = maxSize := by
    have hname : (Text.encode derivateKeyName).length = 12 := rfl
    have hdata : (item keyRequest).encode.length = 65504 := hkeySize
    rw [JobRequest.size_mk, hname, hdata]
    decide
  obtain ⟨request, hlength, hjob⟩ := exists_written regular_jobRequest (Nat.le_of_eq hjobSize)
  rw [hjobSize] at hlength
  let s : Pool.State Unit := .initial ⟨1, 1, ⟨1⟩⟩ ⟨[(derivateKeyName, .derivateKey)]⟩ ()
  -- The run is the same for every operation, so that nothing is derived in it.
  have hruns : ∀ (operation : Operation Unit) (data : Bytes), ∃ s',
      Pool.run (.initial ⟨1, 1, ⟨1⟩⟩ ⟨[(derivateKeyName, operation)]⟩ ())
        [.submit derivateKeyName data, .enqueue 0, .dequeue 0, .perform 0, .finish 0] =
      some (s', [.entered 0, .started 0 ⟨1, data⟩, .performed 0 (operation.run ⟨1, data⟩ ()).1,
        .ended 0, .answered 0 (Pool.outcomeOf (operation.run ⟨1, data⟩ ()).1)]) :=
    fun operation data => ⟨_, rfl⟩
  obtain ⟨s', hrun⟩ := hruns .derivateKey (item keyRequest).encode
  let e : JobError := .invalidJob ("unsupported HKDF hash: " ++ hash)
  have hfailed : Pool.outcomeOf (Operation.derivateKey.run ⟨1, (item keyRequest).encode⟩ ()).1 =
      .error e := derivateKey_of_unknown hkey hunknown
  rw [hfailed] at hrun
  obtain ⟨notices, hcourse⟩ : ∃ notices,
      Pool.Course.execute derivateKeyName (item keyRequest).encode s (.error e) s' notices :=
    ⟨_, _, hrun, by simp [s, Pool.State.initial]⟩
  have hreached : Pool.Reachable s :=
    ⟨⟨1, 1, ⟨1⟩⟩, ⟨[(derivateKeyName, .derivateKey)]⟩, (), s, [], [], rfl, rfl⟩
  have hsize : size (JobReply.failed e.kind e.message) = 65561 := by
    change size (JobReply.failed "invalid_job"
      ("invalid job: " ++ ("unsupported HKDF hash: " ++ hash))) = 65561
    rw [JobReply.size_failed, Text.length_encode_append, Text.length_encode_append, hencoded]
    decide
  obtain ⟨-, hfailures, -⟩ := kinds_of_failures (σ := Unit) (Nat.le_of_eq hlength) hjob
  obtain ⟨bytes, hhandle, hcarries, -⟩ := hfailures s s' e notices hcourse (by rw [hsize]; decide)
  rw [hsize, if_neg (by decide)] at hcarries
  exact ⟨hash, request, bytes, s, s', notices, hhash, hlength, hjob, hreached, hhandle, hcarries⟩

/-- A request for an operation with a name of 65516 bytes just fits, but the report that it is not
registered does not, and what the client is told instead has another classification. -/
theorem kind_lost_of_long_name :
    ∃ (name : String) (request bytes : Bytes) (s s' : Pool.State Unit)
      (notices : List Pool.Notice),
      name = String.ofList (List.replicate 65516 'a') ∧ request.length = maxSize ∧
      decode JobRequest request = .ok ⟨name, []⟩ ∧ Pool.Reachable s ∧
      Pool.Course.execute name [] s (.error (.unknownOperation name)) s' notices ∧
      handle Pool.Course.execute request s (some bytes) s' notices ∧
      decode JobReply bytes =
        .ok (.failed "encoding_failure" "message too large: 65596 bytes (max 65536)") ∧
      ∀ message,
        decode JobReply bytes ≠ .ok (.failed (JobError.unknownOperation name).kind message) := by
  obtain ⟨name, hname⟩ : ∃ name, name = String.ofList (List.replicate 65516 'a') := ⟨_, rfl⟩
  have hencoded : (Text.encode name).length = 65516 := by
    rw [hname]
    exact Text.length_encode_replicate rfl 65516
  have hjobSize : size (JobRequest.mk name []) = maxSize := by
    rw [JobRequest.size_mk, hencoded]
    decide
  obtain ⟨request, hlength, hjob⟩ := exists_written regular_jobRequest (Nat.le_of_eq hjobSize)
  rw [hjobSize] at hlength
  let s : Pool.State Unit := .initial ⟨1, 1, ⟨1⟩⟩ .empty ()
  let e : JobError := .unknownOperation name
  obtain ⟨s', hrun⟩ : ∃ s', Pool.run s [.submit name []] = some (s', [.answered 0 (.error e)]) :=
    ⟨_, rfl⟩
  have hcourse : Pool.Course.execute name [] s (.error e) s' [.answered 0 (.error e)] :=
    ⟨[], hrun, List.mem_singleton_self _⟩
  have hsize : size (JobReply.failed e.kind e.message) = 65596 := by
    change size (JobReply.failed "unknown_operation" ("unknown operation: " ++ name)) = 65596
    rw [JobReply.size_failed, Text.length_encode_append, hencoded]
    decide
  obtain ⟨bytes, hwritten, hcarries⟩ :=
    carries_written (proper_failed e.kind e.message) (by rw [hsize]; decide)
  rw [shortened, hsize, if_neg (by decide)] at hcarries
  have hhandle : handle Pool.Course.execute request s (some bytes) s'
      [.answered 0 (.error e)] := by
    rw [handle_of_job (Nat.le_of_eq hlength) hjob]
    exact Pool.Course.map_iff.mpr ⟨_, hcourse, hwritten.symm⟩
  refine ⟨name, request, bytes, s, s', _, hname, hlength, hjob,
    ⟨⟨1, 1, ⟨1⟩⟩, .empty, (), s, [], [], rfl, rfl⟩, hcourse, hhandle, hcarries.decodes, ?_⟩
  intro message hdecode
  rw [hcarries.decodes] at hdecode
  simp [JobReply.failed, JobError.kind, encodingFailureKind] at hdecode

end Service

end DerivationPool

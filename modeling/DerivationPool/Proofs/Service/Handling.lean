import DerivationPool.Proofs.Message.Errors
import DerivationPool.Proofs.Message.Formats
import DerivationPool.Proofs.Pool.Progress
import DerivationPool.Proofs.Text.Length
import DerivationPool.Service.Handler

/-!
Requests and replies on the wire, and the answer to a request. The sizes of both are known to
the byte. A reply that does not fit is replaced by one that says how large it was, and that one
always fits.
-/
namespace DerivationPool

open Message Cbor

/-- A name is written behind a head of one byte. -/
theorem size_name (name : String) (n : Nat) (hlength : (Text.encode name).length = n)
    (hn : n < 24) : (Item.text name).encode.length = n + 1 := by
  rw [Item.encode, List.length_append, length_encodeHead, hlength, headSize, argumentSize,
    if_pos hn]
  omega

theorem JobRequest.size_mk (name : String) (data : Bytes) :
    size (JobRequest.mk name data) =
      16 + headSize (Text.encode name).length + (Text.encode name).length +
        headSize data.length + data.length := by
  have hitem : item (JobRequest.mk name data) =
      .map [(.text "operation", .text name), (.text "data", .bytes data)] := rfl
  have hoperation := size_name "operation" 9 rfl (by decide)
  have hdata := size_name "data" 4 rfl (by decide)
  have hmap : headSize 2 = 1 := rfl
  rw [size, hitem]
  simp only [Item.encode, encodeEntries, List.length_append, length_encodeHead, List.length_cons,
    List.length_nil, Nat.reduceAdd, Nat.zero_add] at hoperation hdata ⊢
  omega

theorem DerivateKeyRequest.size_mk (ikm salt info : Bytes) (length : UInt32) (hash : String) :
    size (DerivateKeyRequest.mk ikm salt info length hash) =
      27 + headSize ikm.length + ikm.length + headSize salt.length + salt.length +
        headSize info.length + info.length + headSize length.toNat +
        headSize (Text.encode hash).length + (Text.encode hash).length := by
  have hitem : item (DerivateKeyRequest.mk ikm salt info length hash) =
      .map [(.text "ikm", .bytes ikm), (.text "salt", .bytes salt), (.text "info", .bytes info),
        (.text "length", .unsigned length.toNat), (.text "hash", .text hash)] := rfl
  have hikm := size_name "ikm" 3 rfl (by decide)
  have hsalt := size_name "salt" 4 rfl (by decide)
  have hinfo := size_name "info" 4 rfl (by decide)
  have hlength := size_name "length" 6 rfl (by decide)
  have hhash := size_name "hash" 4 rfl (by decide)
  have hmap : headSize 5 = 1 := rfl
  rw [size, hitem]
  simp only [Item.encode, encodeEntries, List.length_append, length_encodeHead, List.length_cons,
    List.length_nil, Nat.reduceAdd, Nat.zero_add] at hikm hsalt hinfo hlength hhash ⊢
  omega

theorem JobReply.size_ok (output : Bytes) :
    size (JobReply.ok output) = 18 + headSize output.length + output.length := by
  have hitem : item (JobReply.ok output) =
      .map [(.text "status", .text "ok"), (.text "result", .bytes output)] := rfl
  have hstatus := size_name "status" 6 rfl (by decide)
  have hok := size_name "ok" 2 rfl (by decide)
  have hresult := size_name "result" 6 rfl (by decide)
  have hmap : headSize 2 = 1 := rfl
  rw [size, hitem]
  simp only [Item.encode, encodeEntries, List.length_append, length_encodeHead, List.length_cons,
    List.length_nil, Nat.reduceAdd, Nat.zero_add] at hstatus hok hresult ⊢
  omega

theorem JobReply.size_failed (kind message : String) :
    size (JobReply.failed kind message) =
      40 + headSize (Text.encode kind).length + (Text.encode kind).length +
        headSize (Text.encode message).length + (Text.encode message).length := by
  have hitem : item (JobReply.failed kind message) =
      .map [(.text "status", .text "failed"), (.text "result", .bytes []),
        (.text "error_type", .text kind), (.text "error", .text message)] := rfl
  have hstatus := size_name "status" 6 rfl (by decide)
  have hfailed := size_name "failed" 6 rfl (by decide)
  have hresult := size_name "result" 6 rfl (by decide)
  have hkind := size_name "error_type" 10 rfl (by decide)
  have hmessage := size_name "error" 5 rfl (by decide)
  have hmap : headSize 4 = 1 := rfl
  have hempty : headSize 0 = 1 := rfl
  rw [size, hitem]
  simp only [Item.encode, encodeEntries, List.length_append, length_encodeHead, List.length_cons,
    List.length_nil, Nat.reduceAdd, Nat.zero_add] at hstatus hfailed hresult hkind hmessage ⊢
  omega

/-- A reply that tells of a success has no error in it, and one that tells of a failure has both
parts of the error and nothing else. -/
def JobReply.Proper (reply : JobReply) : Prop :=
  match reply.status with
  | .ok => reply.errorType = none ∧ reply.error = none
  | .failed => reply.result = [] ∧ reply.errorType.isSome ∧ reply.error.isSome

namespace Service

/-- What is written for a reply: the reply, or in place of one that is too long, one that tells its
size. -/
def shortened (reply : JobReply) : JobReply :=
  if size reply ≤ maxSize then reply
  else .failed encodingFailureKind (MessageError.tooLarge (size reply) maxSize).text

/-- Bytes that a client reads as this reply. -/
structure Carries (bytes : Bytes) (reply : JobReply) : Prop where
  fits : bytes.length ≤ maxSize
  decodes : decode JobReply bytes = .ok reply
  proper : reply.Proper

theorem carries_item {reply : JobReply} (hsize : size reply ≤ maxSize) (hproper : reply.Proper) :
    Carries (item reply).encode reply :=
  ⟨hsize, decode_encode regular_jobReply (encode_eq_ok hsize), hproper⟩

theorem proper_ok (output : Bytes) : (JobReply.ok output).Proper := ⟨rfl, rfl⟩

theorem proper_failed (kind message : String) : (JobReply.failed kind message).Proper :=
  ⟨rfl, rfl, rfl⟩

/-- No outcome is replied to with both an output and an error. -/
theorem proper_replyOf (outcome : Outcome) : (replyOf outcome).Proper := by
  cases outcome with
  | ok output => exact proper_ok output
  | error error => exact proper_failed _ _

theorem size_failed_le (kind message : String) :
    size (JobReply.failed kind message) ≤
      58 + (Text.encode kind).length + (Text.encode message).length := by
  have hkind := headSize_le (Text.encode kind).length
  have hmessage := headSize_le (Text.encode message).length
  rw [JobReply.size_failed]
  omega

theorem length_tooLarge_le {n max : Nat} (hn : n < 1 <<< 64) (hmax : max < 1 <<< 64) :
    (MessageError.tooLarge n max).text.length ≤ 72 := by
  have hfront : ("message too large: " ++ toString n ++ " bytes (max ").length ≤ 51 :=
    Nat.le_trans (Text.length_around_le (Text.length_word_le hn)) (by decide)
  have hback : ")".length = 1 := rfl
  calc (MessageError.tooLarge n max).text.length
      = ("message too large: " ++ toString n ++ " bytes (max ").length + (toString max).length +
          1 := by rw [← hback, ← String.length_append, ← String.length_append]; rfl
    _ ≤ 51 + 20 + 1 := Nat.add_le_add_right (Nat.add_le_add hfront (Text.length_word_le hmax)) 1

/-- A reply that tells the size of another fits. -/
theorem size_tooLarge_le {n : Nat} (hn : n < 1 <<< 64) :
    size (JobReply.failed encodingFailureKind (MessageError.tooLarge n maxSize).text) ≤
      maxSize := by
  have hlength := length_tooLarge_le hn (by decide : maxSize < 1 <<< 64)
  have hencoded := Text.length_encode_le (MessageError.tooLarge n maxSize).text
  have hkind : (Text.encode encodingFailureKind).length = 16 := rfl
  have hsize := size_failed_le encodingFailureKind (MessageError.tooLarge n maxSize).text
  refine Nat.le_trans hsize (Nat.le_trans ?_ (by decide : 400 ≤ maxSize))
  omega

theorem written_of_size {reply : JobReply} (hsize : size reply ≤ maxSize) :
    written reply = some (item reply).encode := by
  rw [written, encode_eq_ok hsize]

/-- Every reply is written in one form or the other. -/
theorem carries_written {reply : JobReply} (hproper : reply.Proper)
    (hword : size reply < 1 <<< 64) :
    ∃ bytes, written reply = some bytes ∧ Carries bytes (shortened reply) := by
  by_cases hsize : size reply ≤ maxSize
  · rw [shortened, if_pos hsize]
    exact ⟨_, written_of_size hsize, carries_item hsize hproper⟩
  · have hlarge : encode reply = .error (.tooLarge (size reply) maxSize) :=
      encode_eq_error_iff.mpr ⟨Nat.lt_of_not_le hsize, rfl⟩
    have hfallback := size_tooLarge_le hword
    rw [shortened, if_neg hsize, written, hlarge]
    refine ⟨_, ?_, carries_item hfallback (proper_failed _ _)⟩
    dsimp only
    rw [encode_eq_ok hfallback]
    rfl

end Service

end DerivationPool

/-!
Answering a request. A request that can be read costs one run of what it names, and any
other costs none; either way there is one answer, it fits on the wire, and it reads as
the reply that is due.
-/
namespace DerivationPool.Service

open Message

section Monad

variable {m : Type → Type} [Monad m] {run : String → Bytes → m Outcome} {request : Bytes}

theorem handle_of_tooLong (h : maxSize < request.length) : handle run request = pure none :=
  if_pos h

variable [LawfulMonad m] (hfit : request.length ≤ maxSize)

include hfit

/-- A request that cannot be read costs no run. -/
theorem handle_of_error {e : MessageError} (h : decode JobRequest request = .error e) :
    handle run request = pure (written (.failed protocolErrorKind e.text)) := by
  rw [handle, if_neg (Nat.not_lt.mpr hfit), reply, h]
  exact map_pure written _

/-- A request that can be read costs one run, and its answer is written from the outcome. -/
theorem handle_of_job {job : JobRequest} (h : decode JobRequest request = .ok job) :
    handle run request =
      (fun outcome => written (replyOf outcome)) <$> run job.operation job.data := by
  rw [handle, if_neg (Nat.not_lt.mpr hfit), reply, h]
  exact (comp_map replyOf written _).symm

end Monad

/-- The reply to a request that cannot be read fits, whatever is wrong with it. -/
theorem size_protocolError_le {request : Bytes} (hfit : request.length ≤ maxSize)
    {e : MessageError} (h : decode JobRequest request = .error e) :
    size (JobReply.failed protocolErrorKind e.text) ≤ maxSize := by
  have htext := length_error_jobRequest hfit h
  have hkind : (Text.encode protocolErrorKind).length = 14 := rfl
  have hsize := size_failed_le protocolErrorKind e.text
  refine Nat.le_trans hsize (Nat.le_trans ?_ (by decide : 60000 ≤ maxSize))
  omega

/-- The reply that is due to an outcome: one that has the output, or one that has the kind and the
text of the error. -/
inductive Due : Outcome → JobReply → Prop where
  | output (output : Bytes) : Due (.ok output) (.ok output)
  | failure (error : JobError) : Due (.error error) (.failed error.kind error.message)

/-- The handler replies what is due, and nothing else is due. -/
theorem due_iff {outcome : Outcome} {reply : JobReply} : Due outcome reply ↔ reply = replyOf outcome := by
  constructor
  · rintro (_ | _) <;> rfl
  · rintro rfl
    cases outcome with
    | ok output => exact .output output
    | error error => exact .failure error

section Pool

variable {σ : Type}

/-- A server in front of a pool, in every state of the pool and however it goes on. What is too long
is not answered, and the pool is left alone. What cannot be read is answered without the pool. Any
other request asks the pool just for what it says; the pool, left to itself, comes to the answer,
and there is no other. What is written is the reply that is due to the outcome, or if that is too
long, its size, which like every size in memory is less than `2 ^ 64`. -/
theorem handle_of_request (request : Bytes) :
    (maxSize < request.length →
      ∀ (s s' : Pool.State σ) answer notices,
        handle Pool.Course.execute request s answer s' notices ↔
          answer = none ∧ s' = s ∧ notices = []) ∧
    (request.length ≤ maxSize →
      (∀ e, decode JobRequest request = .error e →
        ∃ bytes, Carries bytes (.failed "protocol_error" e.text) ∧
          ∀ (s s' : Pool.State σ) answer notices,
            handle Pool.Course.execute request s answer s' notices ↔
              answer = some bytes ∧ s' = s ∧ notices = []) ∧
      (∀ job, decode JobRequest request = .ok job →
        (∀ (s s' : Pool.State σ) answer notices,
          handle Pool.Course.execute request s answer s' notices ↔
            ∃ outcome reply, Pool.Course.execute job.operation job.data s outcome s' notices ∧
              Due outcome reply ∧ answer = written reply) ∧
        ∀ s : Pool.State σ, Pool.Reachable s →
          (handle Pool.Course.execute request).Completes s job.operation job.data ∧
          ∀ s' answer answer' notices, handle Pool.Course.execute request s answer s' notices →
            handle Pool.Course.execute request s answer' s' notices → answer = answer')) ∧
    (∀ outcome reply, Due outcome reply → size reply < 1 <<< 64 →
      ∃ bytes, written reply = some bytes ∧
        Carries bytes
          (if size reply ≤ maxSize then reply
            else .failed "encoding_failure" (MessageError.tooLarge (size reply) maxSize).text)) := by
  refine ⟨?_, ?_, ?_⟩
  · intro hlong s s' answer notices
    rw [handle_of_tooLong hlong]
    exact Pool.Course.pure_iff
  · intro hfit
    refine ⟨?_, ?_⟩
    · intro e he
      have hsize := size_protocolError_le hfit he
      refine ⟨_, carries_item hsize (proper_failed _ _), ?_⟩
      intro s s' answer notices
      rw [handle_of_error hfit he, written_of_size hsize]
      exact Pool.Course.pure_iff
    · intro job hjob
      rw [handle_of_job hfit hjob]
      refine ⟨fun s s' answer notices => ?_, fun s hreached => ⟨?_, ?_⟩⟩
      · rw [Pool.Course.map_iff]
        constructor
        · rintro ⟨outcome, hrun, rfl⟩
          exact ⟨outcome, _, hrun, due_iff.mpr rfl, rfl⟩
        · rintro ⟨outcome, reply, hrun, hdue, rfl⟩
          rw [due_iff.mp hdue]
          exact ⟨outcome, hrun, rfl⟩
      · exact (Pool.Course.completes_execute hreached _ _).map _
      · intro s' answer answer' notices hfirst hsecond
        obtain ⟨outcome, hrun, rfl⟩ := Pool.Course.map_iff.mp hfirst
        obtain ⟨outcome', hrun', rfl⟩ := Pool.Course.map_iff.mp hsecond
        rw [Pool.Course.execute_unique hreached hrun hrun']
  · intro outcome reply hdue hword
    rw [due_iff.mp hdue] at hword ⊢
    exact carries_written (proper_replyOf outcome) hword

end Pool

/-- A request to give a byte back, one whose operation fails, one that is empty, one that is too
long, and an outcome that is too long. -/
theorem handle_of_echo :
    ∃ (s : Pool.State Unit) (echo fail : Bytes), Pool.Reachable s ∧
      decode JobRequest echo = .ok ⟨"echo", [7]⟩ ∧ decode JobRequest fail = .ok ⟨"fail", [7]⟩ ∧
      (handle Pool.Course.execute echo).Completes s "echo" [7] ∧
      (∃ bytes s' notices, handle Pool.Course.execute echo s (some bytes) s' notices ∧
        Carries bytes (.ok [7])) ∧
      (∃ bytes s' notices, handle Pool.Course.execute fail s (some bytes) s' notices ∧
        Carries bytes (.failed "invalid_job" "invalid job: no")) ∧
      (∃ bytes, handle Pool.Course.execute [] s (some bytes) s [] ∧
        Carries bytes (.failed "protocol_error" (MessageError.ofCbor .endOfInput).text)) ∧
      handle Pool.Course.execute (List.replicate 65537 0) s none s [] ∧
      ∃ bytes, written (JobReply.ok (List.replicate 65536 0)) = some bytes ∧
        Carries bytes
          (.failed "encoding_failure" "message too large: 65559 bytes (max 65536)") := by
  let table : Table Unit := ⟨[("echo", .echo), ("fail", .fail (.invalidJob "no"))]⟩
  let s : Pool.State Unit := .initial ⟨1, 1, ⟨1⟩⟩ table ()
  have hreached : Pool.Reachable s := ⟨⟨1, 1, ⟨1⟩⟩, table, (), s, [], [], rfl, rfl⟩
  -- Either request names its operation with four letters, and has one byte of data.
  let request (name : Bytes) : Bytes :=
    [0xa2, 0x69, 0x6f, 0x70, 0x65, 0x72, 0x61, 0x74, 0x69, 0x6f, 0x6e, 0x64] ++ name ++
      [0x64, 0x64, 0x61, 0x74, 0x61, 0x41, 7]
  let echo : Bytes := request [0x65, 0x63, 0x68, 0x6f]
  let fail : Bytes := request [0x66, 0x61, 0x69, 0x6c]
  have hecho : decode JobRequest echo = .ok ⟨"echo", [7]⟩ :=
    decode_encode regular_jobRequest (by decide)
  have hfail : decode JobRequest fail = .ok ⟨"fail", [7]⟩ :=
    decode_encode regular_jobRequest (by decide)
  have hran : ∀ (name : String) (outcome : Outcome), (∃ s', Pool.run s
      [.submit name [7], .enqueue 0, .dequeue 0, .perform 0, .finish 0] =
      some (s', [.entered 0, .started 0 ⟨1, [7]⟩, .performed 0 (.returned outcome), .ended 0,
        .answered 0 outcome])) →
      ∃ s' notices, Pool.Course.execute name [7] s outcome s' notices := by
    rintro name outcome ⟨s', hrun⟩
    exact ⟨s', _, _, hrun, by simp [s, Pool.State.initial]⟩
  obtain ⟨s', notices, hgiven⟩ := hran "echo" (.ok [7]) ⟨_, rfl⟩
  obtain ⟨s'', notices', hfailed⟩ := hran "fail" (.error (.invalidJob "no")) ⟨_, rfl⟩
  obtain ⟨-, hshort, hwritten⟩ := handle_of_request echo
  obtain ⟨hhandle, hcompletes⟩ := (hshort (by decide)).2 _ hecho
  obtain ⟨-, hshort', -⟩ := handle_of_request fail
  obtain ⟨hhandle', -⟩ := (hshort' (by decide)).2 _ hfail
  obtain ⟨bytes, hbytes, hcarries⟩ := hwritten (.ok [7]) _ (.output [7]) (by decide)
  obtain ⟨bytes', hbytes', hcarries'⟩ :=
    hwritten (.error (.invalidJob "no")) _ (.failure _) (by decide)
  obtain ⟨empty, hempty, hnothing⟩ := ((handle_of_request []).2.1 (by decide)).1 _ rfl
  have hsize : size (JobReply.ok (List.replicate 65536 0)) = 65559 := by
    rw [JobReply.size_ok, List.length_replicate]
    rfl
  obtain ⟨large, hlarge, htold⟩ :=
    hwritten (.ok (List.replicate 65536 0)) _ (.output _) (by rw [hsize]; decide)
  have htext : (MessageError.tooLarge 65559 maxSize).text =
      "message too large: 65559 bytes (max 65536)" := rfl
  rw [hsize, if_neg (by decide), htext] at htold
  have hlong := (handle_of_request (List.replicate 65537 0)).1
    (by rw [List.length_replicate]; decide) s s none []
  refine ⟨s, echo, fail, hreached, hecho, hfail, (hcompletes s hreached).1, ?_, ?_, ?_, ?_, large,
    hlarge, htold⟩
  · exact ⟨bytes, s', notices,
      (hhandle _ _ _ _).mpr ⟨_, _, hgiven, .output [7], hbytes.symm⟩, hcarries⟩
  · exact ⟨bytes', s'', notices',
      (hhandle' _ _ _ _).mpr ⟨_, _, hfailed, .failure _, hbytes'.symm⟩, hcarries'⟩
  · exact ⟨empty, (hnothing _ _ _ _).mpr ⟨rfl, rfl, rfl⟩, hempty⟩
  · rw [hlong]
    exact ⟨rfl, rfl, rfl⟩

end DerivationPool.Service

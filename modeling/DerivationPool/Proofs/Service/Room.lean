import DerivationPool.Proofs.Operation.Responses
import DerivationPool.Proofs.Operation.Table
import DerivationPool.Proofs.Service.Classification
import DerivationPool.Proofs.Service.Secrecy

/-!
Room for secrets on the wire. The parameters of a service are checked when it starts, for
what a derivation needs. Whether a secret and its salt fit in a response, and the response in
a reply, is another matter: salts may be of any length, so there are parameters that pass the
check and never give a secret. Which they are is a matter of the size of the response, and
is known to the byte.
-/
namespace DerivationPool

open Message Cbor

variable {σ : Type}

/-- A source whose reads all succeed. -/
def Entropy.Fills (source : Entropy σ) : Prop :=
  ∀ n state, ∃ bytes hlength, (source.read n state).1 = .filled bytes hlength

/-- Sizes of responses whose salts there is a buffer for are sizes in memory. -/
theorem Secret.Params.responseSize_lt {params : Secret.Params} (hvalid : params.validate = .ok ())
    (hroom : params.saltLength ≤ Bytes.maxLength) : params.responseSize < 1 <<< 64 := by
  obtain ⟨-, -, hsecret⟩ := (Secret.Params.validate_eq_ok_iff params).mp hvalid
  have hmax : Secret.Params.maxSecretLength = 8160 := rfl
  have hbuffer : Bytes.maxLength = 9223372036854775807 := rfl
  have hword : 1 <<< 64 = 18446744073709551616 := rfl
  have hsaltHead := headSize_le params.saltLength
  have hsecretHead := headSize_le params.secretLength
  rw [responseSize, DerivationResponse.sizeFor]
  omega

/-- A reply has room for an output of 65515 bytes and not for one more. -/
theorem JobReply.size_ok_le_iff (output : Bytes) :
    size (JobReply.ok output) ≤ maxSize ↔ output.length ≤ 65515 := by
  have hmax : maxSize = 65536 := rfl
  rw [JobReply.size_ok, hmax]
  simp only [headSize, argumentSize]
  split <;> (try split) <;> (try split) <;> (try split) <;> omega

namespace Service

/-- What a job for a secret comes to, what its caller is told and what is replied, by the
parameters: the secret, or a response that no reply has room for, or no response, or a panic, since
there is no buffer for the salt. -/
inductive Told (params : Secret.Params) : Attempt Outcome → Outcome → JobReply → Prop where
  | served {payload : Bytes} (hlength : payload.length = params.responseSize)
      (hsize : params.responseSize ≤ 65515) :
      Told params (.returned (.ok payload)) (.ok payload) (.ok payload)
  | unsent {payload : Bytes} (hlength : payload.length = params.responseSize)
      (hlarge : 65515 < params.responseSize) (hsize : params.responseSize ≤ 65536) :
      Told params (.returned (.ok payload)) (.ok payload)
        (.failed "encoding_failure"
          (MessageError.tooLarge (size (JobReply.ok payload)) 65536).text)
  | unwritten (hlarge : 65536 < params.responseSize) (hroom : params.saltLength ≤ Bytes.maxLength) :
      Told params (.returned (.error (.encoding (.tooLarge params.responseSize 65536))))
        (.error (.encoding (.tooLarge params.responseSize 65536)))
        (.failed "encoding_failure"
          (JobError.encoding (.tooLarge params.responseSize 65536)).message)
  | unread (hlarge : Bytes.maxLength < params.saltLength) :
      Told params .panicked (.error .workerPanicked)
        (.failed "worker_panicked" "worker panicked while running job")

theorem Told.outcome_eq {params : Secret.Params} {result : Attempt Outcome} {outcome : Outcome}
    {reply : JobReply} (h : Told params result outcome reply) : outcome = Pool.outcomeOf result := by
  cases h <;> rfl

theorem size_unwritten_le {n : Nat} (hn : n < 1 <<< 64) :
    size (JobReply.failed "encoding_failure"
      (JobError.encoding (.tooLarge n maxSize)).message) ≤ maxSize := by
  have htext := length_tooLarge_le hn (by decide : maxSize < 1 <<< 64)
  have hencoded := Text.length_encode_le (MessageError.tooLarge n maxSize).text
  have hfront : (Text.encode "encoding failed: ").length = 17 := rfl
  have hkind : (Text.encode "encoding_failure").length = 16 := rfl
  have hmessage : (JobError.encoding (.tooLarge n maxSize)).message =
      "encoding failed: " ++ (MessageError.tooLarge n maxSize).text := rfl
  have hsize := size_failed_le "encoding_failure" (JobError.encoding (.tooLarge n maxSize)).message
  rw [hmessage, Text.length_encode_append] at hsize
  refine Nat.le_trans hsize (Nat.le_trans ?_ (by decide : 400 ≤ maxSize))
  omega

/-- A response that was written is sent, if a reply has room for it. -/
theorem told_of_payload {params : Secret.Params} {payload : Bytes}
    (hpayload : payload.length = params.responseSize) (hsize : payload.length ≤ 65536) :
    ∃ reply bytes, Told params (.returned (.ok payload)) (.ok payload) reply ∧
      written (replyOf (.ok payload)) = some bytes ∧ Carries bytes reply := by
  have hmax : maxSize = 65536 := rfl
  by_cases hsent : payload.length ≤ 65515
  · have hreply := (JobReply.size_ok_le_iff payload).mpr hsent
    exact ⟨_, _, .served hpayload (hpayload ▸ hsent), written_of_size hreply,
      carries_item hreply (proper_ok payload)⟩
  · have hlarge : ¬ size (JobReply.ok payload) ≤ maxSize := by
      rwa [JobReply.size_ok_le_iff]
    have hword : size (JobReply.ok payload) < 1 <<< 64 := by
      have hhead := headSize_le payload.length
      rw [JobReply.size_ok]
      exact Nat.lt_trans (by omega : _ < 70000) (by decide)
    obtain ⟨bytes, hwritten, hcarries⟩ := carries_written (proper_ok payload) hword
    rw [shortened, if_neg hlarge] at hcarries
    exact ⟨_, bytes, .unsent hpayload (by omega) (by omega), hwritten, hcarries⟩

/-- A job that has drawn its salt: the response is written and sent, or it is not. -/
theorem told_of_filled (d : Secret.Deriver) (hroom : d.saltLength ≤ Bytes.maxLength)
    {salt : Bytes} (hlength : salt.length = d.saltLength) :
    ∃ outcome reply bytes, Told d.params (d.outcome (.filled salt hlength)) outcome reply ∧
      written (replyOf outcome) = some bytes ∧ Carries bytes reply := by
  have hword := Secret.Params.responseSize_lt d.validate_eq_ok hroom
  rw [d.outcome_filled hlength]
  obtain ⟨hlarge, hencode⟩ | ⟨hfits, payload, hencode, hpayload⟩ := d.encodeParts_secretOf hlength
  · rw [hencode]
    exact ⟨_, _, _, .unwritten hlarge hroom, written_of_size (size_unwritten_le hword),
      carries_item (size_unwritten_le hword) (proper_failed _ _)⟩
  · rw [hencode]
    obtain ⟨reply, bytes, htold⟩ := told_of_payload hpayload (hpayload ▸ hfits)
    exact ⟨_, reply, bytes, htold⟩

/-- Every job draws its salt where there is a buffer for it and the source never fails. -/
theorem told_of_job (d : Secret.Deriver) {source : Entropy σ} (hfills : source.Fills) (job : Job)
    (state : σ) :
    ∃ outcome reply bytes,
      Told d.params ((Operation.deriveSecret d source).run job state).1 outcome reply ∧
      written (replyOf outcome) = some bytes ∧ Carries bytes reply := by
  have hrun : ((Operation.deriveSecret d source).run job state).1 =
      (deriveSecret d source state).1 := rfl
  rw [hrun]
  obtain hlarge | hroom := Nat.lt_or_ge Bytes.maxLength d.saltLength
  · have hsize : size (replyOf (.error .workerPanicked)) ≤ maxSize := by decide
    rw [deriveSecret_of_lt hlarge]
    exact ⟨_, _, _, .unread hlarge, written_of_size hsize,
      carries_item hsize (proper_failed _ _)⟩
  · obtain ⟨salt, hlength, hread⟩ := hfills d.saltLength state
    rw [deriveSecret_of_le hroom, hread]
    exact told_of_filled d hroom hlength

theorem fills_numbered : Entropy.numbered.Fills := fun _ _ => ⟨_, _, rfl⟩

/-- Whether parameters that passed the check are served is a matter of one size. Every job that the
source lets draw its salt comes to what that size says, and so does the reply to it; a server in
front of a pool gives this reply to whoever asks for a secret, in time and before the pool is
closed. The secret itself is replied just if the response has at most 65515 bytes. -/
theorem room_of_params {master : MasterKey} {params : Secret.Params} {d : Secret.Deriver}
    (hbuild : Secret.Deriver.build master params = .ok d) {source : Entropy σ}
    (hfills : source.Fills) :
    (∀ job state, ∃ outcome reply bytes,
      Told params ((Operation.deriveSecret d source).run job state).1 outcome reply ∧
      written (replyOf outcome) = some bytes ∧ Carries bytes reply) ∧
    (∀ s : Pool.State σ, Pool.Reachable s → Table.standard d source = .ok s.table →
      ∀ request data, request.length ≤ maxSize →
      decode JobRequest request = .ok ⟨deriveSecretName, data⟩ →
      ∀ s' answer notices, handle Pool.Course.execute request s answer s' notices →
      (∃ outcome reply bytes id state,
        Told params ((Operation.deriveSecret d source).run ⟨id, data⟩ state).1 outcome reply ∧
        answer = some bytes ∧ Carries bytes reply) ∨
      (∃ t, s.config.jobTimeout.nanos ≤ t.nanos ∧
        answer = written (replyOf (.error (entropyTimeout t)))) ∨
      answer = written (replyOf (.error .poolClosed))) ∧
    ∀ job state, params.responseSize ≤ 65515 ↔ ∃ payload bytes,
      ((Operation.deriveSecret d source).run job state).1 = .returned (.ok payload) ∧
      written (replyOf (.ok payload)) = some bytes ∧ Carries bytes (.ok payload) := by
  obtain ⟨-, rfl⟩ := Secret.Deriver.build_eq_ok hbuild
  have hjobs := told_of_job d hfills
  refine ⟨hjobs, ?_, ?_⟩
  · intro s hreached htable request data hfit hjob s' answer notices hanswer
    have hop := Table.get?_deriveSecretName htable
    rw [handle_of_job hfit hjob] at hanswer
    obtain ⟨outcome, hcourse, rfl⟩ := Pool.Course.map_iff.mp hanswer
    obtain ⟨id, state, rfl⟩ | ⟨t, htime, rfl⟩ | rfl :=
      Pool.Course.outcome_of_registered hreached hop hcourse
    · obtain ⟨outcome, reply, bytes, htold, hwritten, hcarries⟩ := hjobs ⟨id, data⟩ state
      refine .inl ⟨outcome, reply, bytes, id, state, htold, ?_, hcarries⟩
      rw [← htold.outcome_eq]
      exact hwritten
    · exact .inr (.inl ⟨t, htime, rfl⟩)
    · exact .inr (.inr rfl)
  · intro job state
    obtain ⟨outcome, reply, bytes, htold, hwritten, hcarries⟩ := hjobs job state
    generalize ((Operation.deriveSecret d source).run job state).1 = result at htold ⊢
    constructor
    · intro hsize
      cases htold with
      | served => exact ⟨_, bytes, rfl, hwritten, hcarries⟩
      | unsent => omega
      | unwritten => omega
      | unread hlarge =>
        have hbuffer : Bytes.maxLength = 9223372036854775807 := rfl
        rw [Secret.Params.responseSize, DerivationResponse.sizeFor] at hsize
        omega
    · rintro ⟨payload, bytes', rfl, hwritten', hcarries'⟩
      cases htold with
      | served _ hsize => exact hsize
      | unsent =>
        -- The same bytes do not carry a failure and a success.
        rw [hwritten] at hwritten'
        cases hwritten'
        have hreply := hcarries.decodes.symm.trans hcarries'.decodes
        cases hreply

/-- The parameters that a service has if nothing else is said: the response has 114 bytes. -/
theorem room_of_standard_params :
    ∃ d, Secret.Deriver.build .reference .standard = .ok d ∧
      Secret.Params.standard.responseSize = 114 ∧
      ∀ job state, ∃ payload bytes,
        ((Operation.deriveSecret d Entropy.numbered).run job state).1 = .returned (.ok payload) ∧
        written (replyOf (.ok payload)) = some bytes ∧ Carries bytes (.ok payload) := by
  have hbuild : Secret.Deriver.build .reference .standard = .ok ⟨.reference, .standard, rfl⟩ := rfl
  have hserved := (room_of_params hbuild fills_numbered).2.2
  exact ⟨_, hbuild, by decide, fun job state => (hserved job state).mp (by decide)⟩

/-- A salt of 65536 bytes passes the check of the parameters and never fits in a response; one of
65500 bytes fits in a response that never fits in a reply. -/
theorem no_room_of_long_salts :
    (∃ d, Secret.Deriver.build .reference ⟨65536, 1, []⟩ = .ok d ∧
      ∀ job state, ((Operation.deriveSecret d Entropy.numbered).run job state).1 =
        .returned (.error (.encoding (.tooLarge 65556 65536)))) ∧
    ∃ d, Secret.Deriver.build .reference ⟨65500, 1, []⟩ = .ok d ∧
      ∀ job state, ∃ payload bytes,
        ((Operation.deriveSecret d Entropy.numbered).run job state).1 = .returned (.ok payload) ∧
        written (replyOf (.ok payload)) = some bytes ∧
        Carries bytes
          (.failed "encoding_failure" "message too large: 65539 bytes (max 65536)") := by
  refine ⟨⟨⟨.reference, ⟨65536, 1, []⟩, rfl⟩, rfl, fun job state => ?_⟩,
    ⟨⟨.reference, ⟨65500, 1, []⟩, rfl⟩, rfl, fun job state => ?_⟩⟩
  · obtain ⟨outcome, reply, bytes, htold, -⟩ :=
      told_of_job ⟨.reference, ⟨65536, 1, []⟩, rfl⟩ fills_numbered job state
    have hsize : (Secret.Params.mk 65536 1 []).responseSize = 65556 := by decide
    generalize ((Operation.deriveSecret _ _).run job state).1 = result at htold ⊢
    cases htold with
    | served _ hsmall => exact absurd hsmall (by decide)
    | unsent _ _ hsmall => exact absurd hsmall (by decide)
    | unwritten => rw [hsize]
    | unread hlarge => exact absurd hlarge (by decide)
  · obtain ⟨outcome, reply, bytes, htold, hwritten, hcarries⟩ :=
      told_of_job ⟨.reference, ⟨65500, 1, []⟩, rfl⟩ fills_numbered job state
    have hsize : (Secret.Params.mk 65500 1 []).responseSize = 65518 := by decide
    generalize ((Operation.deriveSecret _ _).run job state).1 = result at htold ⊢
    cases htold with
    | served _ hsmall => exact absurd hsmall (by decide)
    | unwritten hlarge => exact absurd hlarge (by decide)
    | unread hlarge => exact absurd hlarge (by decide)
    | unsent hlength =>
      refine ⟨_, bytes, rfl, hwritten, ?_⟩
      rw [hsize] at hlength
      rw [JobReply.size_ok, hlength] at hcarries
      exact hcarries

end Service

end DerivationPool

import DerivationPool.Proofs.Operation.DerivateKey
import DerivationPool.Proofs.Pool.Counterparts
import DerivationPool.Proofs.Secret.Series
import DerivationPool.Proofs.Service.Fidelity

/-!
What a key shows. Two services side by side have the same parameters, the same source of
entropy and the same callers, who do the same at the same time; only their master keys
are different. Whatever they are asked, they answer alike: in the same length, with the
same failures to the byte, and with the same salts. The bytes of fresh secrets, and no
others, may tell them apart.
-/
namespace DerivationPool

open Message Cbor

variable {σ : Type}

namespace Secret

/-- Two payloads of responses with the same salt, which differ at most in the secret. -/
def OnlySecret (length : Nat) (payload payload' : Bytes) : Prop :=
  ∃ (front : Bytes) (response response' : DerivationResponse),
    payload = front ++ response.secret ∧ payload' = front ++ response'.secret ∧
    decode DerivationResponse payload = .ok response ∧
    decode DerivationResponse payload' = .ok response' ∧
    response.salt = response'.salt ∧
    response.secret.length = length ∧ response'.secret.length = length

/-- Two outcomes of derivations that failed alike, or differ at most in the secret. -/
inductive OutcomeAlike (length : Nat) : Outcome → Outcome → Prop where
  | error (e : JobError) : OutcomeAlike length (.error e) (.error e)
  | ok {payload payload' : Bytes} (only : OnlySecret length payload payload') :
      OutcomeAlike length (.ok payload) (.ok payload')

/-- Responses with one salt and secrets of one length are written alike. -/
theorem respondSecret_alike {length : Nat} {salt secret secret' : Bytes} (hsalt : salt ≠ [])
    (hpos : 0 < length) (hlength : secret.length = length) (hlength' : secret'.length = length) :
    OutcomeAlike length (respondSecret (.ok ⟨salt, secret⟩))
      (respondSecret (.ok ⟨salt, secret'⟩)) := by
  have hparts : ∀ secret : Bytes, secret.length = length →
      DerivationResponse.encodeParts salt secret =
        fit (Item.map ([(.text "salt", .bytes salt)] ++ [(.text "secret", .bytes secret)])).encode := by
    intro secret hlength
    have hsecret : secret ≠ [] := List.ne_nil_of_length_pos (hlength ▸ hpos)
    rw [DerivationResponse.encodeParts, if_neg hsalt, if_neg hsecret]
    rfl
  have hrespond : ∀ secret : Bytes, respondSecret (.ok ⟨salt, secret⟩) =
      (DerivationResponse.encodeParts salt secret).mapError .encoding := fun _ => rfl
  rw [hrespond, hrespond]
  obtain ⟨e, he, he'⟩ | ⟨front, hfront, hfront'⟩ := fit_front [(.text "salt", .bytes salt)]
    (.text "secret") (hlength.trans hlength'.symm)
  · rw [hparts secret hlength, hparts secret' hlength', he, he']
    exact .error _
  · rw [← hparts secret hlength] at hfront
    rw [← hparts secret' hlength'] at hfront'
    obtain ⟨response, hdecode, rfl, rfl⟩ := DerivationResponse.decode_encodeParts hfront
    obtain ⟨response', hdecode', hsame, rfl⟩ := DerivationResponse.decode_encodeParts hfront'
    rw [hfront, hfront']
    exact .ok ⟨front, response, response', rfl, rfl, hdecode, hdecode', hsame.symm, hlength, hlength'⟩

/-- A read comes to the same, whatever the master key is, but for the secret. -/
theorem outcome_alike {master master' : MasterKey} {params : Params}
    (hvalid : params.validate = .ok ()) (reading : Reading params.saltLength) :
    Attempt.Alike (OutcomeAlike params.secretLength)
      (Deriver.outcome ⟨master, params, hvalid⟩ reading)
      (Deriver.outcome ⟨master', params, hvalid⟩ reading) := by
  obtain ⟨hsaltLength, hsecretLength, -⟩ := (Params.validate_eq_ok_iff _).mp hvalid
  cases reading with
  | filled salt hlength =>
    have hsalt : salt ≠ [] := List.ne_nil_of_length_pos (hlength ▸ hsaltLength)
    simp only [Deriver.outcome, Reading.salt, Attempt.map_returned, Except.bind,
      Deriver.replay_of_ne_nil _ hsalt]
    exact .returned (respondSecret_alike hsalt hsecretLength (Deriver.length_secretOf _ _)
      (Deriver.length_secretOf _ _))
  | failed written error => exact .returned (.error _)
  | panicked => exact .panicked

/-- Fresh secrets of two master keys, where all else is the same. -/
theorem deriveSecret_alike {d d' : Deriver} (hparams : d.params = d'.params) (source : Entropy σ) :
    (Operation.deriveSecret d source).Alike (OutcomeAlike d.params.secretLength)
      (.deriveSecret d' source) := by
  obtain ⟨master, params, hvalid⟩ := d
  obtain ⟨master', params', hvalid'⟩ := d'
  obtain rfl : params = params' := hparams
  have hrun : ∀ state,
      Attempt.Alike (OutcomeAlike params.secretLength)
        (deriveSecret ⟨master, params, hvalid⟩ source state).1
        (deriveSecret ⟨master', params, hvalid'⟩ source state).1 ∧
      (deriveSecret ⟨master, params, hvalid⟩ source state).2 =
        (deriveSecret ⟨master', params, hvalid'⟩ source state).2 := by
    intro state
    obtain hlarge | hroom := Nat.lt_or_ge Bytes.maxLength params.saltLength
    · rw [deriveSecret_of_lt hlarge, deriveSecret_of_lt hlarge]
      exact ⟨.panicked, rfl⟩
    · rw [deriveSecret_of_le hroom, deriveSecret_of_le hroom]
      exact ⟨outcome_alike hvalid _, rfl⟩
  exact ⟨fun _ state => (hrun state).1, fun _ state => (hrun state).2, rfl⟩

end Secret

namespace Pool

/-- What the outcomes of a call may differ in under two master keys: the secret, if that is what
the call asked for, and else nothing. -/
def butSecrets (events : List Event) (length : Nat) : Likeness := fun call outcome outcome' =>
  (AsksSecret events call → Secret.OutcomeAlike length outcome outcome') ∧
    (¬ AsksSecret events call → outcome = outcome')

theorem butSecrets_error (events : List Event) (length call : Nat) (e : JobError) :
    butSecrets events length call (.error e) (.error e) :=
  ⟨fun _ => .error e, fun _ => rfl⟩

/-- Every call finds operations that are alike in the tables of two services. -/
theorem get?_alike {d d' : Secret.Deriver} (hparams : d.params = d'.params) {source : Entropy σ}
    {table table' : Table σ} (htable : Table.standard d source = .ok table)
    (htable' : Table.standard d' source = .ok table') {events : List Event} {call : Nat}
    {name : String} {data : Bytes} (hget : (requests events)[call]? = some (name, data)) :
    Option.Rel (Operation.Alike (butSecrets events d.params.secretLength call))
      (table.get? name) (table'.get? name) := by
  rw [Table.get?_standard htable, Table.get?_standard htable']
  by_cases hkey : name = derivateKeyName
  · have hnot : ¬ AsksSecret events call := by
      rintro ⟨data', hget'⟩
      rw [hget] at hget'
      cases hget'
      exact absurd hkey (by decide)
    rw [if_pos hkey, if_pos hkey]
    exact .some (.of_refl (fun outcome => ⟨fun h => absurd h hnot, fun _ => rfl⟩) _)
  · rw [if_neg hkey, if_neg hkey]
    by_cases hsecret : name = deriveSecretName
    · subst hsecret
      have hasks : AsksSecret events call := ⟨data, hget⟩
      rw [if_pos rfl, if_pos rfl]
      exact .some ((Secret.deriveSecret_alike hparams source).mono fun outcome outcome' halike =>
        ⟨fun _ => halike, fun hnot => absurd hasks hnot⟩)
    · rw [if_neg hsecret, if_neg hsecret]
      exact .none

namespace Course

/-- Asks for an operation and waits for the answer while just this happens. -/
def along (after : List Event) (name : String) (data : Bytes) : Course σ Outcome :=
  fun s outcome s' notices => run s (.submit name data :: after) = some (s', notices) ∧
    .answered s.nextCall outcome ∈ notices

section TwoKeys

variable {d d' : Secret.Deriver} {source : Entropy σ} {config : Config} {table table' : Table σ}
  {shared : σ} {s₀ t₀ s s' t t' : State σ} {before after : List Event}
  {earlier earlier' notices notices' : List Notice} {name : String} {data : Bytes}
  {outcome outcome' : Outcome}

/-- While just so much happens there is one answer. -/
theorem along_unique (hstart : State.start config table shared = .ok s₀)
    (hbefore : run s₀ before = some (s, earlier)) (h : along after name data s outcome s' notices)
    {last : State σ} (h' : along after name data s outcome' last notices') :
    outcome = outcome' := by
  have hsame := h.1.symm.trans h'.1
  cases hsame
  exact answer_unique hstart (run_trans hbefore h.1) (List.mem_append_right _ h.2)
    (List.mem_append_right _ h'.2)

/-- What is asked of one service can be asked of the other, and the answer is alike. -/
theorem along_counterpart (hparams : d.params = d'.params)
    (htable : Table.standard d source = .ok table) (htable' : Table.standard d' source = .ok table')
    (hstart : State.start config table shared = .ok s₀)
    (hstart' : State.start config table' shared = .ok t₀)
    (hbefore : run s₀ before = some (s, earlier)) (hbefore' : run t₀ before = some (t, earlier'))
    (h : along after name data s outcome s' notices) :
    ∃ outcome' t' notices', along after name data t outcome' t' notices' ∧
      butSecrets (before ++ .submit name data :: after) d.params.secretLength s.nextCall outcome
        outcome' := by
  obtain ⟨hrun, hanswered⟩ := h
  have hcall : s.nextCall = t.nextCall := by
    rw [(sound_of_run hstart hbefore).nextCall_eq, (sound_of_run hstart' hbefore').nextCall_eq]
  obtain ⟨t', all, hall, -, hnotices⟩ := run_counterpart (butSecrets_error _ d.params.secretLength)
    hstart hstart' (fun _ _ _ => get?_alike hparams htable htable') (run_trans hbefore hrun)
  obtain ⟨outcome', hanswered', halike⟩ :=
    exists_answered hnotices (List.mem_append_right _ hanswered)
  rw [run_append, hbefore', Option.bind_some, Option.map_eq_some_iff] at hall
  obtain ⟨⟨last, new⟩, hlast, heq⟩ := hall
  cases heq
  rw [hcall] at hanswered'
  refine ⟨outcome', last, new, ⟨hlast, ?_⟩, halike⟩
  exact (List.mem_append.mp hanswered').resolve_left
    (not_answered_before hstart' hbefore' outcome')

end TwoKeys

end Course

end Pool

namespace Service

/-- A request for an operation, with whatever data. -/
def Asks (request : Bytes) (name : String) : Prop :=
  ∃ data, decode JobRequest request = .ok ⟨name, data⟩

/-- What the answers to a request show of two master keys: nothing but secrets of this length. -/
structure Indifferent (length : Nat) (request : Bytes) (answer answer' : Option Bytes) : Prop where
  lengths : answer.map List.length = answer'.map List.length
  statuses : ∀ bytes, answer = some bytes → ∃ bytes' reply reply', answer' = some bytes' ∧
    decode JobReply bytes = .ok reply ∧ decode JobReply bytes' = .ok reply' ∧
    reply.status = reply'.status ∧ (reply.status = .failed → bytes = bytes')
  others : ¬ Asks request deriveSecretName → answer = answer'
  secrets : Asks request deriveSecretName → ∀ bytes reply, answer = some bytes →
    decode JobReply bytes = .ok reply → reply.status = .ok →
    ∃ (payload payload' front bytes' : Bytes) (response response' : DerivationResponse),
      answer' = some bytes' ∧ reply = .ok payload ∧
      decode JobReply bytes' = .ok (.ok payload') ∧
      decode DerivationResponse payload = .ok response ∧
      decode DerivationResponse payload' = .ok response' ∧
      response.salt = response'.salt ∧
      bytes = front ++ response.secret ∧ bytes' = front ++ response'.secret ∧
      response.secret.length = length ∧ response'.secret.length = length

/-- What is written for a reply is the reply, or tells of a failure. -/
theorem decode_written {reply : JobReply} {bytes : Bytes} (h : written reply = some bytes) :
    ∃ told, decode JobReply bytes = .ok told ∧ (told = reply ∨ told.status = .failed) := by
  cases hencode : encode reply with
  | ok encoded =>
    rw [written, hencode] at h
    cases h
    exact ⟨reply, decode_encode regular_jobReply hencode, .inl rfl⟩
  | error e =>
    cases hfallback : encode (JobReply.failed encodingFailureKind e.text) with
    | ok encoded =>
      rw [written, hencode] at h
      simp only [hfallback, Except.toOption, Option.some.injEq] at h
      subst h
      exact ⟨_, decode_encode regular_jobReply hfallback, .inr rfl⟩
    | error e' =>
      rw [written, hencode] at h
      simp [hfallback, Except.toOption] at h

/-- Replies with payloads of one length are both too long, and told so alike, or are both written
behind the same bytes. -/
theorem written_front {payload payload' : Bytes} (hlength : payload.length = payload'.length) :
    (∃ text, written (.ok payload) = (encode (JobReply.failed encodingFailureKind text)).toOption ∧
      written (.ok payload') = (encode (JobReply.failed encodingFailureKind text)).toOption) ∨
    ∃ front, encode (JobReply.ok payload) = .ok (front ++ payload) ∧
      encode (JobReply.ok payload') = .ok (front ++ payload') := by
  have hencode : ∀ payload : Bytes, encode (JobReply.ok payload) =
      fit (Item.map ([(.text "status", .text "ok")] ++ [(.text "result", .bytes payload)])).encode :=
    fun _ => rfl
  obtain ⟨e, he, he'⟩ | hfront := fit_front [(.text "status", .text "ok")] (.text "result") hlength
  · rw [← hencode] at he he'
    refine .inl ⟨e.text, ?_, ?_⟩
    · rw [written, he]
    · rw [written, he']
  · exact .inr hfront

namespace Indifferent

variable {length : Nat} {request : Bytes} {answer : Option Bytes}

/-- The same answer shows nothing, if it holds no secret. -/
theorem of_eq (hreply : ∀ bytes, answer = some bytes →
    ∃ reply, decode JobReply bytes = .ok reply ∧
      (Asks request deriveSecretName → reply.status = .failed)) :
    Indifferent length request answer answer where
  lengths := rfl
  statuses bytes hbytes := by
    obtain ⟨reply, hdecode, -⟩ := hreply bytes hbytes
    exact ⟨bytes, reply, reply, hbytes, hdecode, hdecode, rfl, fun _ => rfl⟩
  others _ := rfl
  secrets hasks bytes reply hbytes hdecode hok := by
    obtain ⟨told, htold, hfailed⟩ := hreply bytes hbytes
    rw [htold] at hdecode
    cases hdecode
    rw [hfailed hasks] at hok
    cases hok

theorem of_failed (kind message : String) :
    Indifferent length request (written (.failed kind message)) (written (.failed kind message)) := by
  refine of_eq fun bytes hbytes => ?_
  obtain ⟨told, hdecode, rfl | hfailed⟩ := decode_written hbytes
  · exact ⟨_, hdecode, fun _ => rfl⟩
  · exact ⟨told, hdecode, fun _ => hfailed⟩

/-- Payloads that differ at most in a secret show no more in a reply. -/
theorem of_onlySecret (hasks : Asks request deriveSecretName) {payload payload' : Bytes}
    (honly : Secret.OnlySecret length payload payload') :
    Indifferent length request (written (.ok payload)) (written (.ok payload')) := by
  obtain ⟨front, response, response', rfl, rfl, hdecode, hdecode', hsalt, hlength, hlength'⟩ := honly
  have hsame : (front ++ response.secret).length = (front ++ response'.secret).length := by
    rw [List.length_append, List.length_append, hlength, hlength']
  obtain ⟨text, htold, htold'⟩ | ⟨head, hencode, hencode'⟩ := written_front hsame
  · rw [htold, htold']
    refine of_eq fun bytes hbytes => ?_
    cases hfallback : encode (JobReply.failed encodingFailureKind text) with
    | ok encoded =>
      rw [hfallback] at hbytes
      cases hbytes
      exact ⟨_, decode_encode regular_jobReply hfallback, fun _ => rfl⟩
    | error e =>
      rw [hfallback] at hbytes
      cases hbytes
  · have hwritten : written (.ok (front ++ response.secret)) =
        some (head ++ (front ++ response.secret)) := by rw [written, hencode]
    have hwritten' : written (.ok (front ++ response'.secret)) =
        some (head ++ (front ++ response'.secret)) := by rw [written, hencode']
    have hread := decode_encode regular_jobReply hencode
    have hread' := decode_encode regular_jobReply hencode'
    rw [hwritten, hwritten']
    refine ⟨?lengths, ?statuses, fun hnot => absurd hasks hnot, ?secrets⟩
    case lengths =>
      rw [Option.map_some, Option.map_some, List.length_append, hsame, ← List.length_append]
    case statuses =>
      rintro bytes ⟨⟩
      exact ⟨_, _, _, rfl, hread, hread', rfl, fun hfailed => by cases hfailed⟩
    case secrets =>
      rintro - bytes reply ⟨⟩ hreply -
      rw [hread] at hreply
      cases hreply
      exact ⟨_, _, head ++ front, _, response, response', rfl, rfl, hread', hdecode, hdecode', hsalt,
        (List.append_assoc ..).symm, (List.append_assoc ..).symm, hlength, hlength'⟩

/-- Outcomes that differ in no more than secrets are answered so. -/
theorem of_outcomes {job : JobRequest} (hjob : decode JobRequest request = .ok job)
    {events : List Pool.Event} {call : Nat}
    (hget : (Pool.requests events)[call]? = some (job.operation, job.data))
    {outcome outcome' : Outcome} (h : Pool.butSecrets events length call outcome outcome') :
    Indifferent length request (written (replyOf outcome)) (written (replyOf outcome')) := by
  by_cases hsecret : job.operation = deriveSecretName
  · obtain ⟨name, data⟩ := job
    obtain rfl : name = deriveSecretName := hsecret
    cases h.1 ⟨data, hget⟩ with
    | error e => exact of_failed e.kind e.message
    | ok only => exact of_onlySecret ⟨data, hjob⟩ only
  · have hnot : ¬ Asks request deriveSecretName := by
      rintro ⟨data, hdecode⟩
      rw [hjob] at hdecode
      cases hdecode
      exact hsecret rfl
    have hother : ¬ Pool.AsksSecret events call := by
      rintro ⟨data, hasked⟩
      rw [hget, Option.some.injEq, Prod.mk.injEq] at hasked
      exact hsecret hasked.1
    rw [h.2 hother]
    refine of_eq fun bytes hbytes => ?_
    obtain ⟨told, hdecode, -⟩ := decode_written hbytes
    exact ⟨told, hdecode, fun hasks => absurd hasks hnot⟩

end Indifferent

section TwoKeys

variable {master master' : MasterKey} {params : Secret.Params} {d d' : Secret.Deriver}
  {source : Entropy σ} {config : Pool.Config} {table table' : Table σ} {shared : σ}
  {s₀ t₀ s s' t : Pool.State σ} {before after : List Pool.Event}
  {earlier earlier' notices : List Pool.Notice} {answer : Option Bytes}

/-- A request that is answered by one service can be put to the other while the same happens, and
no answer that it then gets shows more. -/
theorem handle_counterpart (hparams : d.params = d'.params)
    (htable : Table.standard d source = .ok table) (htable' : Table.standard d' source = .ok table')
    (hstart : Pool.State.start config table shared = .ok s₀)
    (hstart' : Pool.State.start config table' shared = .ok t₀)
    (hbefore : Pool.run s₀ before = some (s, earlier))
    (hbefore' : Pool.run t₀ before = some (t, earlier')) {request : Bytes}
    (hanswer : handle (Pool.Course.along after) request s answer s' notices) :
    (∃ answer' t' notices', handle (Pool.Course.along after) request t answer' t' notices') ∧
      ∀ answer' t' notices', handle (Pool.Course.along after) request t answer' t' notices' →
        Indifferent d.params.secretLength request answer answer' := by
  by_cases hfit : request.length ≤ maxSize
  · cases hread : decode JobRequest request with
    | error e =>
      rw [handle_of_error hfit hread] at hanswer ⊢
      obtain ⟨rfl, -, -⟩ := Pool.Course.pure_iff.mp hanswer
      refine ⟨⟨_, t, [], Pool.Course.pure_iff.mpr ⟨rfl, rfl, rfl⟩⟩, fun answer' t' notices' h => ?_⟩
      obtain ⟨rfl, -, -⟩ := Pool.Course.pure_iff.mp h
      exact .of_failed _ _
    | ok job =>
      rw [handle_of_job hfit hread] at hanswer ⊢
      obtain ⟨outcome, hcourse, rfl⟩ := Pool.Course.map_iff.mp hanswer
      obtain ⟨outcome', t', notices', hcourse', halike⟩ :=
        Pool.Course.along_counterpart hparams htable htable' hstart hstart' hbefore hbefore' hcourse
      refine ⟨⟨_, t', notices', Pool.Course.map_iff.mpr ⟨outcome', hcourse', rfl⟩⟩, ?_⟩
      intro answer' t'' notices'' h
      obtain ⟨outcome'', hcourse'', rfl⟩ := Pool.Course.map_iff.mp h
      rw [Pool.Course.along_unique hstart' hbefore' hcourse'' hcourse']
      exact .of_outcomes hread
        (Pool.getElem?_requests hstart hbefore job.operation job.data after) halike
  · rw [handle_of_tooLong (Nat.lt_of_not_le hfit)] at hanswer ⊢
    obtain ⟨rfl, -, -⟩ := Pool.Course.pure_iff.mp hanswer
    refine ⟨⟨none, t, [], Pool.Course.pure_iff.mpr ⟨rfl, rfl, rfl⟩⟩, fun answer' t' notices' h => ?_⟩
    obtain ⟨rfl, -, -⟩ := Pool.Course.pure_iff.mp h
    exact .of_eq fun bytes hbytes => by cases hbytes

/-- A master key shows in nothing but the bytes of the secrets that are derived from it. Of two
services with the same parameters and the same source of entropy, to which the same happens, each
can come as far as the other. A request that is answered by one is then answered by the other, while
the same happens on: in the same length and with the same status, in the same bytes if it failed or
if no fresh secret was asked for, and else with the same salt and in the same bytes up to the
secret. And two requests for derived bytes that differ in the bytes of their keying material alone
fail in the same way, or give as many bytes. -/
theorem indifferent_of_keys (hbuild : Secret.Deriver.build master params = .ok d)
    (hbuild' : Secret.Deriver.build master' params = .ok d')
    (htable : Table.standard d source = .ok table) (htable' : Table.standard d' source = .ok table')
    (hstart : Pool.State.start config table shared = .ok s₀)
    (hstart' : Pool.State.start config table' shared = .ok t₀)
    (hbefore : Pool.run s₀ before = some (s, earlier)) :
    (∃ t earlier', Pool.run t₀ before = some (t, earlier') ∧
      ∀ request after answer s' notices,
        handle (Pool.Course.along after) request s answer s' notices →
        (∃ answer' t' notices', handle (Pool.Course.along after) request t answer' t' notices') ∧
        ∀ answer' t' notices', handle (Pool.Course.along after) request t answer' t' notices' →
          Indifferent params.secretLength request answer answer') ∧
    ∀ (data data' ikm' : Bytes) (r : DerivateKeyRequest),
      decode DerivateKeyRequest data = .ok r →
      decode DerivateKeyRequest data' = .ok { r with ikm := ikm' } → r.ikm ≠ [] →
      ikm'.length = r.ikm.length →
      (∃ e, derivateKey data = .error e ∧ derivateKey data' = .error e) ∨
        ∃ front okm okm' : Bytes, derivateKey data = .ok (front ++ okm) ∧
          derivateKey data' = .ok (front ++ okm') ∧
          decode DerivateKeyResponse (front ++ okm) = .ok ⟨okm⟩ ∧
          decode DerivateKeyResponse (front ++ okm') = .ok ⟨okm'⟩ ∧
          okm.length = r.length.toNat ∧ okm'.length = r.length.toNat := by
  obtain ⟨-, rfl⟩ := Secret.Deriver.build_eq_ok hbuild
  obtain ⟨-, hparams⟩ := Secret.Deriver.build_eq_ok hbuild'
  refine ⟨?_, fun _ _ _ _ => derivateKey_alike⟩
  obtain ⟨t, earlier', hbefore', -, -⟩ :=
    Pool.run_counterpart (Pool.butSecrets_error _ d.params.secretLength) hstart hstart'
      (fun _ _ _ => Pool.get?_alike hparams.symm htable htable') hbefore
  exact ⟨t, earlier', hbefore', fun _ _ _ _ _ => handle_counterpart hparams.symm htable htable' hstart
    hstart' hbefore hbefore'⟩

end TwoKeys

/-- Two services with keys of 80 bytes and of one are asked for a secret of one byte. -/
theorem indifferent_of_two_keys :
    ∃ (d d' : Secret.Deriver) (table table' : Table Nat) (s t : Pool.State Nat)
      (request bytes bytes' front : Bytes) (response response' : DerivationResponse),
      d.master = .reference ∧ d'.master.bytes = [7] ∧
      Table.standard d .numbered = .ok table ∧ Table.standard d' .numbered = .ok table' ∧
      Pool.State.start ⟨1, 1, ⟨1⟩⟩ table 0 = .ok s ∧
      Pool.State.start ⟨1, 1, ⟨1⟩⟩ table' 0 = .ok t ∧
      (∃ s' notices, handle
        (Pool.Course.along [.enqueue 0, .dequeue 0, .perform 0, .finish 0]) request s (some bytes)
          s' notices) ∧
      (∃ t' notices, handle
        (Pool.Course.along [.enqueue 0, .dequeue 0, .perform 0, .finish 0]) request t (some bytes')
          t' notices) ∧
      bytes = front ++ response.secret ∧ bytes' = front ++ response'.secret ∧
      response.salt = response'.salt ∧ response.secret.length = 1 ∧
      response'.secret.length = 1 := by
  let d : Secret.Deriver := ⟨.reference, ⟨1, 1, []⟩, rfl⟩
  let d' : Secret.Deriver := ⟨⟨[7], by decide⟩, ⟨1, 1, []⟩, rfl⟩
  let table (operation : Operation Nat) : Table Nat :=
    ⟨[(derivateKeyName, .derivateKey), (deriveSecretName, operation)]⟩
  let after : List Pool.Event := [.enqueue 0, .dequeue 0, .perform 0, .finish 0]
  let start (operation : Operation Nat) : Pool.State Nat :=
    .initial ⟨1, 1, ⟨1⟩⟩ (table operation) 0
  obtain ⟨payload, hpayload, hlength⟩ : ∃ payload : Bytes,
      (deriveSecret ⟨.reference, ⟨1, 1, []⟩, rfl⟩ .numbered 0).1 = .returned (.ok payload) ∧
        payload.length = 17 := ⟨_, rfl, rfl⟩
  -- The run is the same for every operation, so that no digest is computed in it.
  have hruns : ∀ operation : Operation Nat, ∃ s',
      Pool.run (start operation) (.submit deriveSecretName [] :: after) =
        some (s', [.entered 0, .started 0 ⟨1, []⟩, .performed 0 (operation.run ⟨1, []⟩ 0).1,
          .ended 0, .answered 0 (Pool.outcomeOf (operation.run ⟨1, []⟩ 0).1)]) :=
    fun operation => ⟨_, rfl⟩
  let operation : Operation Nat := .deriveSecret d .numbered
  replace hpayload : (operation.run ⟨1, []⟩ 0).1 = .returned (.ok payload) := hpayload
  obtain ⟨s', hrun⟩ := hruns operation
  rw [hpayload] at hrun
  have hsize : size (replyOf (.ok payload)) ≤ maxSize := by
    rw [replyOf, JobReply.size_ok, hlength]
    decide
  have hjobSize : size (JobRequest.mk deriveSecretName []) ≤ maxSize := by decide
  obtain ⟨request, hlen, hjob⟩ := exists_written regular_jobRequest hjobSize
  have hfit : request.length ≤ maxSize := hlen ▸ hjobSize
  obtain ⟨notices, hanswer⟩ : ∃ notices, handle (Pool.Course.along after) request
      (start operation) (some (item (replyOf (.ok payload))).encode) s' notices := by
    rw [handle_of_job hfit hjob]
    exact ⟨_, Pool.Course.map_iff.mpr ⟨.ok payload,
      ⟨hrun, by simp [start, Pool.State.initial, Pool.outcomeOf]⟩, (written_of_size hsize).symm⟩⟩
  obtain ⟨⟨t, earlier', hbefore, halike⟩, -⟩ := indifferent_of_keys
    (show Secret.Deriver.build .reference ⟨1, 1, []⟩ = .ok d from rfl)
    (show Secret.Deriver.build ⟨[7], by decide⟩ ⟨1, 1, []⟩ = .ok d' from rfl)
    (Table.standard_eq d .numbered) (Table.standard_eq d' .numbered)
    (show Pool.State.start ⟨1, 1, ⟨1⟩⟩ (table operation) 0 = .ok (start operation) from rfl)
    (show Pool.State.start ⟨1, 1, ⟨1⟩⟩ (table (.deriveSecret d' .numbered)) 0 =
      .ok (start (.deriveSecret d' .numbered)) from rfl)
    (show Pool.run (start operation) [] = some (start operation, []) from rfl)
  cases hbefore
  obtain ⟨⟨answer', t', notices', hanswer'⟩, hall⟩ := halike request after _ s' notices hanswer
  obtain ⟨payload₀, payload', front, bytes', response, response', rfl, -, -, -, -, hsalt, hbytes,
    hbytes', hlength, hlength'⟩ := (hall answer' t' notices' hanswer').secrets ⟨[], hjob⟩ _
      (.ok payload) rfl (carries_item hsize (proper_ok payload)).decodes rfl
  exact ⟨d, d', table operation, table (.deriveSecret d' .numbered), start operation,
    start (.deriveSecret d' .numbered), request, _, bytes', front, response, response', rfl, rfl,
    Table.standard_eq d .numbered, Table.standard_eq d' .numbered, rfl, rfl,
    ⟨s', notices, hanswer⟩, ⟨t', notices', hanswer'⟩, hbytes, hbytes', hsalt, hlength, hlength'⟩

end Service

end DerivationPool

import DerivationPool.Operation.Standard
import DerivationPool.Proofs.Derivation.Expansion
import DerivationPool.Proofs.Message.Formats
import DerivationPool.Proofs.Service.Handling

/-!
What a request for derived bytes comes to. It is refused for its hash, for its inputs or
for the length of its response, in this order, and no refusal depends on the bytes of the
keying material.
-/
namespace DerivationPool

open Message Cbor

/-- Names of algorithms have six characters. -/
theorem Algorithm.length_of_ofName? {name : String} {a : Algorithm} (h : ofName? name = .ok a) :
    name.length = 6 := by
  have hfolded : String.ofList (name.toList.map foldCase) ∈ ["sha256", "sha384", "sha512"] := by
    grind [ofName?]
  have hlength : (String.ofList (name.toList.map foldCase)).length = name.length := by
    rw [String.length_ofList, List.length_map, String.length_toList]
  have hall : ∀ known ∈ ["sha256", "sha384", "sha512"], known.length = 6 := by decide
  rw [← hlength, hall _ hfolded]

/-- A refusal of a name repeats the name. -/
theorem Algorithm.eq_unsupportedHash {name : String} {e : DerivationError}
    (h : ofName? name = .error e) : e = .unsupportedHash name := by
  grind [ofName?]

/-- Every length that a request can ask for is a size in memory. -/
theorem DerivateKeyRequest.outputSize_eq (r : DerivateKeyRequest) :
    r.outputSize = .ok r.length.toNat :=
  if_pos (Nat.lt_trans r.length.toNat_lt (by decide))

/-- What a request for derived bytes comes to, by its parts. -/
theorem derivateKey_of_decode {data : Bytes} {r : DerivateKeyRequest}
    (hdecode : decode DerivateKeyRequest data = .ok r) :
    derivateKey data = r.algorithm.bind fun a =>
      ((derive a r.ikm r.salt r.info r.length.toNat).mapError .derivation).bind fun okm =>
        (DerivateKeyResponse.encodeParts okm).mapError .encoding := by
  have hrequest : derivateKeyRequest data = .ok r := by
    rw [derivateKeyRequest, hdecode]
    rfl
  have hparts : derivateKey data = r.algorithm.bind fun a => r.outputSize.bind fun length =>
      ((derive a r.ikm r.salt r.info length).mapError .derivation).bind fun okm =>
        (DerivateKeyResponse.encodeParts okm).mapError .encoding := by
    rw [derivateKey, hrequest]
    rfl
  rw [hparts, r.outputSize_eq]
  rfl

/-- A request that names an unknown hash is invalid, and the refusal repeats the name. -/
theorem derivateKey_of_unknown {data : Bytes} {r : DerivateKeyRequest}
    (hdecode : decode DerivateKeyRequest data = .ok r)
    (hhash : ∀ a, Algorithm.ofName? r.hash ≠ .ok a) :
    derivateKey data = .error (.invalidJob ("unsupported HKDF hash: " ++ r.hash)) := by
  cases hname : Algorithm.ofName? r.hash with
  | ok a => exact absurd hname (hhash a)
  | error e =>
    obtain rfl := Algorithm.eq_unsupportedHash hname
    rw [derivateKey_of_decode hdecode, DerivateKeyRequest.algorithm, hname]
    rfl

/-- Two requests that differ in the bytes of the keying material fail alike, or the responses
differ in the bytes of what was derived. -/
theorem derivateKey_alike {data data' ikm' : Bytes} {r : DerivateKeyRequest}
    (hdecode : decode DerivateKeyRequest data = .ok r)
    (hdecode' : decode DerivateKeyRequest data' = .ok { r with ikm := ikm' }) (hikm : r.ikm ≠ [])
    (hlength : ikm'.length = r.ikm.length) :
    (∃ e, derivateKey data = .error e ∧ derivateKey data' = .error e) ∨
      ∃ front okm okm' : Bytes, derivateKey data = .ok (front ++ okm) ∧
        derivateKey data' = .ok (front ++ okm') ∧
        decode DerivateKeyResponse (front ++ okm) = .ok ⟨okm⟩ ∧
        decode DerivateKeyResponse (front ++ okm') = .ok ⟨okm'⟩ ∧
        okm.length = r.length.toNat ∧ okm'.length = r.length.toNat := by
  have hikm' : ikm' ≠ [] := by
    refine List.ne_nil_of_length_pos ?_
    rw [hlength]
    exact List.length_pos_iff.mpr hikm
  have halgorithm : ({ r with ikm := ikm' } : DerivateKeyRequest).algorithm = r.algorithm := rfl
  rw [derivateKey_of_decode hdecode, derivateKey_of_decode hdecode', halgorithm]
  cases r.algorithm with
  | error e => exact .inl ⟨e, rfl, rfl⟩
  | ok a =>
    have hvalidate : validate a ikm' r.salt r.length.toNat = validate a r.ikm r.salt r.length.toNat := by
      rw [validate, validate, if_neg hikm, if_neg hikm']
    simp only [Except.bind, derive_eq, hvalidate]
    cases validate a r.ikm r.salt r.length.toNat with
    | error e => exact .inl ⟨.derivation e, rfl, rfl⟩
    | ok _ =>
      have hokm := length_material a r.ikm r.salt r.info r.length.toNat
      have hokm' := length_material a ikm' r.salt r.info r.length.toNat
      generalize material a r.ikm r.salt r.info r.length.toNat = okm at hokm ⊢
      generalize material a ikm' r.salt r.info r.length.toNat = okm' at hokm' ⊢
      obtain ⟨e, he, he'⟩ | ⟨front, hfront, hfront'⟩ :=
        fit_front [] (.text "okm") (hokm.trans hokm'.symm)
      · refine .inl ⟨.encoding e, ?_, ?_⟩
        · exact congrArg (Except.mapError JobError.encoding) he
        · exact congrArg (Except.mapError JobError.encoding) he'
      · refine .inr ⟨front, okm, okm', ?_, ?_,
          decode_encode (M := DerivateKeyResponse) (m := ⟨okm⟩) regular_derivateKeyResponse hfront,
          decode_encode (M := DerivateKeyResponse) (m := ⟨okm'⟩) regular_derivateKeyResponse hfront',
          hokm, hokm'⟩
        · exact congrArg (Except.mapError JobError.encoding) hfront
        · exact congrArg (Except.mapError JobError.encoding) hfront'

/-!
The operation that derives from what a caller supplies, from the bytes of a job to the
bytes of its reply. The longest output is so short that neither the response nor the
envelope around it can be too long for the wire, so the operation fails only for faults
of its request, and for the first of them.
-/

namespace Algorithm

/-- Letters are folded as the core library folds them. -/
theorem foldCase_eq (c : Char) : foldCase c = c.toLower := by
  unfold foldCase Char.toLower
  by_cases h : 65 ≤ c.toNat ∧ c.toNat ≤ 90
  · have hcapital : c.val ≥ 'A'.val ∧ c.val ≤ 'Z'.val :=
      ⟨UInt32.le_iff_toNat_le.mpr h.1, UInt32.le_iff_toNat_le.mpr h.2⟩
    have hvalid : (c.toNat + 32).isValidChar := .inl (by omega)
    have hsmall : (c.val + ('a'.val - 'A'.val)).toNat = c.toNat + 32 := by
      rw [UInt32.toNat_add]
      exact Nat.mod_eq_of_lt (Nat.lt_of_le_of_lt (Nat.add_le_add_right h.2 32) (by decide))
    rw [if_pos h, dif_pos hcapital, Char.ofNat, dif_pos hvalid]
    exact Char.ext (UInt32.toNat_inj.mp hsmall.symm)
  · have hother : ¬ (c.val ≥ 'A'.val ∧ c.val ≤ 'Z'.val) := fun hcapital =>
      h ⟨UInt32.le_iff_toNat_le.mp hcapital.1, UInt32.le_iff_toNat_le.mp hcapital.2⟩
    rw [if_neg h, dif_neg hother]

/-- Names are those of the algorithms, but for capitals. -/
theorem ofName?_eq_ok_iff (name : String) (a : Algorithm) :
    ofName? name = .ok a ↔ name.toLower = a.name := by
  have hfolded : String.ofList (name.toList.map foldCase) = name.toLower := by
    change _ = name.map Char.toLower
    rw [← String.toList_inj, String.toList_map, String.toList_ofList]
    exact List.map_congr_left fun c _ => foldCase_eq c
  rw [ofName?, hfolded]
  cases a <;> grind [Algorithm.name]

/-- The longest outputs of all are those with SHA-512. -/
theorem maxOutput_le (a : Algorithm) : a.maxOutput ≤ 16320 := by
  cases a <;> decide

end Algorithm

theorem DerivateKeyResponse.size_mk (okm : Bytes) :
    size (DerivateKeyResponse.mk okm) = 5 + headSize okm.length + okm.length := by
  have hitem : item (DerivateKeyResponse.mk okm) = .map [(.text "okm", .bytes okm)] := rfl
  have hokm := size_name "okm" 3 rfl (by decide)
  have hmap : headSize 1 = 1 := rfl
  rw [size, hitem]
  simp only [Item.encode, encodeEntries, List.length_append, length_encodeHead, List.length_cons,
    List.length_nil, Nat.zero_add] at hokm ⊢
  omega

/-- A response to a derivation is written, and so is the reply around it. -/
theorem encodeParts_of_le {okm : Bytes} (h : okm.length ≤ 16320) :
    ∃ bytes reply : Bytes, DerivateKeyResponse.encodeParts okm = .ok bytes ∧
      decode DerivateKeyResponse bytes = .ok ⟨okm⟩ ∧
      encode (JobReply.ok bytes) = .ok reply ∧ reply.length ≤ maxSize := by
  have hmax : maxSize = 65536 := rfl
  have hresponse : size (DerivateKeyResponse.mk okm) ≤ 16340 := by
    have hhead := headSize_le okm.length
    rw [DerivateKeyResponse.size_mk]
    omega
  have hreply : size (JobReply.ok (item (DerivateKeyResponse.mk okm)).encode) ≤ maxSize := by
    have hhead := headSize_le (size (DerivateKeyResponse.mk okm))
    rw [JobReply.size_ok, ← size]
    omega
  have hencode : encode (DerivateKeyResponse.mk okm) = .ok _ := encode_eq_ok (by omega)
  exact ⟨_, _, hencode, decode_encode regular_derivateKeyResponse hencode, encode_eq_ok hreply,
    hreply⟩

section Request

variable {data : Bytes} {r : DerivateKeyRequest} {a : Algorithm}
  (hdecode : decode DerivateKeyRequest data = .ok r) (hhash : Algorithm.ofName? r.hash = .ok a)

/-- A job that is no request is invalid, for the reason that it cannot be read. -/
theorem derivateKey_of_unreadable {e : MessageError}
    (h : decode DerivateKeyRequest data = .error e) :
    derivateKey data = .error (.invalidJob e.text) := by
  have hrequest : derivateKeyRequest data = .error (.invalidJob e.text) := by
    rw [derivateKeyRequest, h]
    rfl
  rw [derivateKey, hrequest]
  rfl

include hdecode hhash

/-- With a known hash the outcome is that of the derivation. -/
theorem derivateKey_of_known :
    derivateKey data =
      ((derive a r.ikm r.salt r.info r.length.toNat).mapError .derivation).bind fun okm =>
        (DerivateKeyResponse.encodeParts okm).mapError .encoding := by
  rw [derivateKey_of_decode hdecode, DerivateKeyRequest.algorithm, hhash]
  rfl

/-- Inputs that no derivation accepts fail as the derivation does. -/
theorem derivateKey_of_faulty {e : DerivationError}
    (h : FirstFault a r.ikm r.salt r.length.toNat e) :
    derivateKey data = .error (.derivation e) := by
  rw [← derive_eq_error_iff a r.ikm r.salt r.info r.length.toNat e] at h
  rw [derivateKey_of_known hdecode hhash, h]
  rfl

/-- A valid request is answered with the derived bytes, in a reply that fits. -/
theorem derivateKey_of_valid (h : validate a r.ikm r.salt r.length.toNat = .ok ()) :
    ∃ okm bytes reply : Bytes, derive a r.ikm r.salt r.info r.length.toNat = .ok okm ∧
      derivateKey data = .ok bytes ∧ decode DerivateKeyResponse bytes = .ok ⟨okm⟩ ∧
      encode (JobReply.ok bytes) = .ok reply ∧ reply.length ≤ maxSize := by
  have hderive : derive a r.ikm r.salt r.info r.length.toNat =
      .ok (material a r.ikm r.salt r.info r.length.toNat) := derive_of_valid h
  have hle := ((validate_eq_ok_iff a r.ikm r.salt r.length.toNat).mp h).2.2.2
  have hlength := length_material a r.ikm r.salt r.info r.length.toNat
  generalize material a r.ikm r.salt r.info r.length.toNat = okm at hderive hlength
  have hshort : okm.length ≤ 16320 := by
    rw [hlength]
    exact hle.trans a.maxOutput_le
  obtain ⟨bytes, reply, hparts, hreads, hreply, hfits⟩ := encodeParts_of_le hshort
  refine ⟨okm, bytes, reply, hderive, ?_, hreads, hreply, hfits⟩
  rw [derivateKey_of_known hdecode hhash, hderive]
  exact congrArg (Except.mapError JobError.encoding) hparts

end Request

/-- The ways in which the operation ends. -/
theorem derivateKey_cases (data : Bytes) :
    (∃ text, derivateKey data = .error (.invalidJob text)) ∨
    (∃ e, derivateKey data = .error (.derivation e)) ∨
    ∃ bytes reply : Bytes, derivateKey data = .ok bytes ∧
      encode (JobReply.ok bytes) = .ok reply ∧ reply.length ≤ maxSize := by
  cases hdecode : decode DerivateKeyRequest data with
  | error e => exact .inl ⟨_, derivateKey_of_unreadable hdecode⟩
  | ok r =>
    by_cases hhash : ∃ a, Algorithm.ofName? r.hash = .ok a
    · obtain ⟨a, hhash⟩ := hhash
      cases hvalid : validate a r.ikm r.salt r.length.toNat with
      | error e =>
        rw [validate_eq_error_iff] at hvalid
        exact .inr (.inl ⟨e, derivateKey_of_faulty hdecode hhash hvalid⟩)
      | ok _ =>
        obtain ⟨-, bytes, reply, -, hbytes, -, hreply⟩ := derivateKey_of_valid hdecode hhash hvalid
        exact .inr (.inr ⟨bytes, reply, hbytes, hreply⟩)
    · exact .inl ⟨_, derivateKey_of_unknown hdecode fun a ha => hhash ⟨a, ha⟩⟩

/-- The operation does not look at the number of its job. A job that is no request is invalid, and
so is one whose hash is not known, whatever else is wrong with it; any other fails for the first
fault of its inputs, or gives a response with the derived bytes, which always fits in a reply. -/
theorem outcome_of_derivateKey (data : Bytes) :
    (∀ {σ : Type} (id : UInt64) (state : σ),
      Operation.derivateKey.run ⟨id, data⟩ state = (.returned (derivateKey data), state)) ∧
    (∀ e, decode DerivateKeyRequest data = .error e →
      derivateKey data = .error (.invalidJob e.text)) ∧
    (∀ r, decode DerivateKeyRequest data = .ok r →
      r.outputSize = .ok r.length.toNat ∧
      ((∀ a : Algorithm, r.hash.toLower ≠ a.name) →
        derivateKey data = .error (.invalidJob (DerivationError.unsupportedHash r.hash).message)) ∧
      ∀ a : Algorithm, r.hash.toLower = a.name →
        (∀ e, FirstFault a r.ikm r.salt r.length.toNat e →
          derivateKey data = .error (.derivation e)) ∧
        (r.ikm ≠ [] → r.salt ≠ [] → 1 ≤ r.length.toNat → r.length.toNat ≤ 255 * a.digestSize →
          ∃ okm bytes : Bytes, derive a r.ikm r.salt r.info r.length.toNat = .ok okm ∧
            derivateKey data = .ok bytes ∧ decode DerivateKeyResponse bytes = .ok ⟨okm⟩)) ∧
    (∀ e, derivateKey data ≠ .error (.encoding e)) ∧
    (∀ bytes, derivateKey data = .ok bytes →
      ∃ reply : Bytes, encode (JobReply.ok bytes) = .ok reply ∧ reply.length ≤ maxSize) := by
  refine ⟨fun _ _ => rfl, fun e => derivateKey_of_unreadable, ?_, ?_, ?_⟩
  · intro r hdecode
    refine ⟨r.outputSize_eq, ?_, ?_⟩
    · intro hunknown
      refine derivateKey_of_unknown hdecode fun a ha => hunknown a ?_
      rwa [← Algorithm.ofName?_eq_ok_iff]
    · intro a hname
      rw [← Algorithm.ofName?_eq_ok_iff] at hname
      refine ⟨fun e => derivateKey_of_faulty hdecode hname, ?_⟩
      intro hikm hsalt hpos hle
      have hvalid := (validate_eq_ok_iff a r.ikm r.salt r.length.toNat).mpr ⟨hikm, hsalt, hpos, hle⟩
      obtain ⟨okm, bytes, -, hderive, hbytes, hreads, -⟩ :=
        derivateKey_of_valid hdecode hname hvalid
      exact ⟨okm, bytes, hderive, hbytes, hreads⟩
  · intro e h
    obtain ⟨text, htext⟩ | ⟨e', he⟩ | ⟨bytes, reply, hbytes, -⟩ := derivateKey_cases data
    · rw [htext] at h
      cases h
    · rw [he] at h
      cases h
    · rw [hbytes] at h
      cases h
  · intro bytes h
    obtain ⟨text, htext⟩ | ⟨e', he⟩ | ⟨bytes', reply, hbytes, hreply⟩ := derivateKey_cases data
    · rw [htext] at h
      cases h
    · rw [he] at h
      cases h
    · rw [hbytes] at h
      cases h
      exact ⟨reply, hreply⟩

/-- A request with nothing in it is refused for its hash. The longest output of all, with the name
of the hash half in capitals, is derived and fits; one byte more is refused for its length. -/
theorem outcome_of_longest_request :
    (∃ data : Bytes, encode (⟨[], [], [], 0, "md5"⟩ : DerivateKeyRequest) = .ok data ∧
      derivateKey data = .error (.invalidJob "unsupported HKDF hash: md5")) ∧
    (∃ data okm bytes reply : Bytes,
      encode (⟨[1], [2], [], 16320, "Sha512"⟩ : DerivateKeyRequest) = .ok data ∧
      derivateKey data = .ok bytes ∧ decode DerivateKeyResponse bytes = .ok ⟨okm⟩ ∧
      okm.length = 16320 ∧ encode (JobReply.ok bytes) = .ok reply ∧ reply.length ≤ maxSize) ∧
    ∃ data : Bytes, encode (⟨[1], [2], [], 16321, "Sha512"⟩ : DerivateKeyRequest) = .ok data ∧
      derivateKey data = .error (.derivation (.lengthExceeded 16321 16320)) := by
  have hmd5 : ∀ a : Algorithm, "md5".toLower ≠ a.name := by
    intro a
    cases a <;> decide +kernel
  have hsha : "Sha512".toLower = Algorithm.sha512.name := by decide +kernel
  refine ⟨?_, ?_, ?_⟩
  · obtain ⟨data, hencode⟩ : ∃ data : Bytes,
        encode (⟨[], [], [], 0, "md5"⟩ : DerivateKeyRequest) = .ok data := ⟨_, rfl⟩
    obtain ⟨-, -, houtcome, -⟩ := outcome_of_derivateKey data
    obtain ⟨-, hunknown, -⟩ := houtcome _ (decode_encode regular_derivateKeyRequest hencode)
    exact ⟨data, hencode, hunknown hmd5⟩
  · obtain ⟨data, hencode⟩ : ∃ data : Bytes,
        encode (⟨[1], [2], [], 16320, "Sha512"⟩ : DerivateKeyRequest) = .ok data := ⟨_, rfl⟩
    obtain ⟨-, -, houtcome, -, hfits⟩ := outcome_of_derivateKey data
    obtain ⟨-, -, hknown⟩ := houtcome _ (decode_encode regular_derivateKeyRequest hencode)
    obtain ⟨okm, bytes, hderive, hbytes, hreads⟩ :=
      (hknown .sha512 hsha).2 (by decide) (by decide) (by decide) (by decide)
    obtain ⟨reply, hreply, hle⟩ := hfits bytes hbytes
    refine ⟨data, okm, bytes, reply, hencode, hbytes, hreads, ?_, hreply, hle⟩
    rw [derive_eq_ok hderive, length_material]
    rfl
  · obtain ⟨data, hencode⟩ : ∃ data : Bytes,
        encode (⟨[1], [2], [], 16321, "Sha512"⟩ : DerivateKeyRequest) = .ok data := ⟨_, rfl⟩
    obtain ⟨-, -, houtcome, -⟩ := outcome_of_derivateKey data
    obtain ⟨-, -, hknown⟩ := houtcome _ (decode_encode regular_derivateKeyRequest hencode)
    have hfault := (hknown .sha512 hsha).1 (.lengthExceeded 16321 16320)
    exact ⟨data, hencode, hfault (.exceeded (by decide) (by decide) (by decide))⟩

end DerivationPool

import DerivationPool.Proofs.Message.Formats

/-!
What each of the five messages is read from. The entries of a map may come in any
order, among entries of names that the message does not know; the message is made of
what is found under the known names, and where a name may be left out its absence has
a meaning. A known name that is there twice, or one that is due and not there, is all
that can be wrong with entries whose values are of the right kinds.
-/
namespace DerivationPool.Message

open Cbor

variable {entries : List (String × Item)} {bytes : Bytes}

namespace Schema

variable {schema : Schema}

theorem lookup_eq_of_mem (honce : (schema.known entries).Nodup) {name : String} {item : Item}
    (hname : name ∈ schema.names) (hmem : (name, item) ∈ entries) :
    entries.lookup name = some item := by
  induction entries with
  | nil => cases hmem
  | cons e entries ih =>
    have happend : schema.known ([e] ++ entries) = schema.known [e] ++ schema.known entries :=
      known_append schema [e] entries
    rw [← List.singleton_append, happend, List.nodup_append] at honce
    obtain rfl | hmem := List.mem_cons.mp hmem
    · rw [List.lookup_cons, beq_self_eq_true]
    · have hne : name ≠ e.1 := by
        rintro rfl
        have hfirst : e.1 ∈ schema.known [e] := mem_known.mpr ⟨by simp, hname⟩
        have hlater : e.1 ∈ schema.known entries :=
          mem_known.mpr ⟨List.mem_map.mpr ⟨_, hmem, rfl⟩, hname⟩
        exact honce.2.2 _ hfirst _ hlater rfl
      have hbeq : (name == e.1) = false := by simpa using hne
      rw [List.lookup_cons, hbeq]
      exact ih honce.2.1 hmem

theorem Holds.isSome {record : schema.Record} (h : schema.Holds record entries) :
    ∀ field ∈ schema, ∀ item, entries.lookup field.name = some item →
      (field.kind.ofItem? item).isSome := by
  induction schema with
  | nil => simp
  | cons field fields ih =>
    obtain ⟨value, values⟩ := record
    obtain ⟨hvalue, hvalues⟩ := h
    intro other hother item hitem
    obtain rfl | hother := List.mem_cons.mp hother
    · rw [hitem] at hvalue
      exact Option.isSome_iff_exists.mpr ⟨value, hvalue⟩
    · exact ih hvalues other hother item hitem

end Schema

/-- Each name that a message knows is listed once at most, and what is listed under any other name
has no more than 200 containers open at a time. -/
structure Orderly (M : Type) [Format M] (entries : List (String × Item)) : Prop where
  once : ∀ name ∈ (Format.schema M).names, (entries.map Prod.fst).count name ≤ 1
  shallow : ∀ e ∈ entries, e.1 ∉ (Format.schema M).names → e.2.depth ≤ 200

section Format

variable {M : Type} [Format M]

theorem Orderly.nodup_known (h : Orderly M entries) : ((Format.schema M).known entries).Nodup := by
  rw [List.nodup_iff_count]
  intro name
  by_cases hname : name ∈ (Format.schema M).names
  · rw [Schema.known, List.count_filter (by simpa using hname)]
    exact h.once name hname
  · rw [List.count_eq_zero_of_not_mem fun hmem => hname (Schema.mem_known.mp hmem).2]
    exact Nat.zero_le 1

/-- Orderly entries in any order are read as the message that they hold. -/
theorem Orderly.decode_eq (h : Orderly M entries) (hregular : (Format.schema M).Regular)
    (hwritten : Written (.map (Schema.keyed entries)) bytes) (hfit : bytes.length ≤ maxSize)
    (hshort : ∀ e ∈ entries, (Text.encode e.1).length ≤ shortSize)
    (record : (Format.schema M).Record) (hholds : (Format.schema M).Holds record entries) :
    decode M bytes = Format.ofRecord record := by
  have hadmits : ∀ e ∈ entries, (Format.schema M).Admits e.1 e.2 := by
    intro e he
    have hdeep : e.1 ∉ (Format.schema M).names → e.2.depth ≤ Schema.fieldNesting :=
      fun hnot => Nat.le_trans (h.shallow e he hnot) (by decide)
    refine ⟨fun field hfield hname => ?_, hdeep⟩
    refine hholds.isSome field hfield e.2 ?_
    rw [hname]
    exact Schema.lookup_eq_of_mem h.nodup_known (hname ▸ List.mem_map_of_mem hfield) he
  rw [← List.append_nil bytes] at hfit ⊢
  exact decode_of_holds hregular.distinct ⟨hwritten, hshort, hadmits⟩ h.nodup_known hholds hfit

/-- What is wrong with entries whose values are of the right kinds: a known name is repeated, or the
first that is due in the order of the message is missing. -/
def Complains (M : Type) [Format M] (entries : List (String × Item)) (bytes : Bytes) : Prop :=
  (Format.schema M).Lists entries bytes →
    ((∃ name ∈ (Format.schema M).names, 1 < (entries.map Prod.fst).count name) →
      ∃ name ∈ (Format.schema M).names,
        decode M bytes = .error (.ofCbor (.duplicateField name))) ∧
    (Orderly M entries → ∀ field,
      (Format.schema M).find? (Schema.isMissing entries) = some field →
        decode M bytes = .error (.ofCbor (.missingField field.name)))

/-- A regular schema complains of the first repeated name, or else of the first missing one. -/
theorem complains (hregular : (Format.schema M).Regular) (hfit : bytes.length ≤ maxSize) :
    Complains M entries bytes := by
  intro hlists
  refine ⟨?_, ?_⟩
  · rintro ⟨name, hname, hcount⟩
    have htwice : ¬ ((Format.schema M).known entries).Nodup := by
      intro hnodup
      have hle := List.nodup_iff_count.mp hnodup name
      rw [Schema.known, List.count_filter (by simpa using hname)] at hle
      omega
    obtain ⟨repeated, hrepeated, hdecode⟩ :=
      Schema.decode_of_repeated hregular.distinct hlists htwice []
    rw [List.append_nil] at hdecode
    exact ⟨repeated, hrepeated, by rw [decode_eq_bind hfit, hdecode]; rfl⟩
  · intro horderly field hfield
    have hdecode := Schema.decode_of_lists hregular.distinct hlists horderly.nodup_known []
    rw [List.append_nil, Schema.complete_gathered_of_missing hlists.kinds hfield] at hdecode
    rw [decode_eq_bind hfit, hdecode]
    rfl

end Format

/-- The text that is listed under a name, or none where the name is left out or listed with null. -/
def ListsText (entries : List (String × Item)) (name : String) : Option String → Prop
  | none => entries.lookup name = none ∨ entries.lookup name = some .null
  | some text => entries.lookup name = some (.text text)

/-- A name that is left out and a name with null come to the same. -/
theorem ListsText.holds {name : String} {value : Option String}
    (h : ListsText entries name value) :
    match entries.lookup name with
    | some item => Kind.optionalText.ofItem? item = some value
    | none => some none = some value := by
  cases value with
  | none =>
    obtain h | h := h <;> rw [h]
    rfl
  | some text =>
    rw [h]
    rfl

section Messages

variable (hwritten : Written (.map (Schema.keyed entries)) bytes) (hfit : bytes.length ≤ maxSize)
  (hshort : ∀ e ∈ entries, (Text.encode e.1).length ≤ shortSize)

include hwritten hfit hshort

theorem Orderly.derivationResponse (h : Orderly DerivationResponse entries) {salt secret : Bytes}
    (hsalt : entries.lookup "salt" = some (.bytes salt))
    (hsecret : entries.lookup "secret" = some (.bytes secret)) :
    decode DerivationResponse bytes = DerivationResponse.ofParts salt secret :=
  h.decode_eq regular_derivationResponse hwritten hfit hshort (salt, secret, ())
    ⟨by rw [hsalt]; rfl, by rw [hsecret]; rfl, trivial⟩

theorem Orderly.jobRequest (h : Orderly JobRequest entries) {operation : String} {data : Bytes}
    (hoperation : entries.lookup "operation" = some (.text operation))
    (hdata : entries.lookup "data" = some (.bytes data)) :
    decode JobRequest bytes = .ok ⟨operation, data⟩ :=
  h.decode_eq regular_jobRequest hwritten hfit hshort (operation, data, ())
    ⟨by rw [hoperation]; rfl, by rw [hdata]; rfl, trivial⟩

theorem Orderly.jobReply (h : Orderly JobReply entries) {status : Status} {result : Bytes}
    {errorType error : Option String}
    (hstatus : entries.lookup "status" = some (.text status.name))
    (hresult : entries.lookup "result" = some (.bytes result))
    (herrorType : ListsText entries "error_type" errorType)
    (herror : ListsText entries "error" error) :
    decode JobReply bytes = .ok ⟨status, result, errorType, error⟩ := by
  have hvalue : Kind.status.ofItem? (.text status.name) = some status := by
    cases status <;> rfl
  exact h.decode_eq regular_jobReply hwritten hfit hshort
    (status, result, errorType, error, ())
    ⟨by rw [hstatus]; exact hvalue, by rw [hresult]; rfl, herrorType.holds, herror.holds, trivial⟩

theorem Orderly.derivateKeyRequest (h : Orderly DerivateKeyRequest entries)
    {ikm salt info : Bytes} {length : UInt32} {hash : String}
    (hikm : entries.lookup "ikm" = some (.bytes ikm))
    (hsalt : entries.lookup "salt" = some (.bytes salt))
    (hinfo : entries.lookup "info" = none ∧ info = [] ∨
      entries.lookup "info" = some (.bytes info))
    (hlength : entries.lookup "length" = some (.unsigned length.toNat))
    (hhash : entries.lookup "hash" = none ∧ hash = "sha256" ∨
      entries.lookup "hash" = some (.text hash)) :
    decode DerivateKeyRequest bytes = .ok ⟨ikm, salt, info, length, hash⟩ := by
  have hword : Kind.word32.ofItem? (.unsigned length.toNat) = some length :=
    Kind.word32.ofItem?_of_item? rfl
  refine h.decode_eq regular_derivateKeyRequest hwritten hfit hshort
    (ikm, salt, info, length, hash, ())
    ⟨by rw [hikm]; rfl, by rw [hsalt]; rfl, ?_, by rw [hlength]; exact hword, ?_, trivial⟩
  · obtain ⟨hnone, rfl⟩ | hsome := hinfo
    · rw [hnone]
    · rw [hsome]
      rfl
  · obtain ⟨hnone, rfl⟩ | hsome := hhash
    · rw [hnone]
      rfl
    · rw [hsome]
      rfl

theorem Orderly.derivateKeyResponse (h : Orderly DerivateKeyResponse entries) {okm : Bytes}
    (hokm : entries.lookup "okm" = some (.bytes okm)) :
    decode DerivateKeyResponse bytes = .ok ⟨okm⟩ :=
  h.decode_eq regular_derivateKeyResponse hwritten hfit hshort (okm, ())
    ⟨by rw [hokm]; rfl, trivial⟩

end Messages

/-- The messages are read from their entries in any order. A message is made of the values under the
names that it knows, and names it does not know do not matter to it. -/
theorem decode_of_entries (hwritten : Written (.map (Schema.keyed entries)) bytes)
    (hfit : bytes.length ≤ maxSize) (hshort : ∀ e ∈ entries, (Text.encode e.1).length ≤ shortSize) :
    (Orderly DerivationResponse entries → ∀ salt secret,
      entries.lookup "salt" = some (.bytes salt) → entries.lookup "secret" = some (.bytes secret) →
      (salt = [] → decode DerivationResponse bytes = .error (.emptyField "salt")) ∧
      (salt ≠ [] → secret = [] →
        decode DerivationResponse bytes = .error (.emptyField "secret")) ∧
      ∀ (hsalt : salt ≠ []) (hsecret : secret ≠ []),
        decode DerivationResponse bytes = .ok ⟨salt, secret, hsalt, hsecret⟩) ∧
    (Orderly JobRequest entries → ∀ operation data,
      entries.lookup "operation" = some (.text operation) →
      entries.lookup "data" = some (.bytes data) →
      decode JobRequest bytes = .ok ⟨operation, data⟩) ∧
    (Orderly JobReply entries → ∀ (status : Status) result errorType error,
      entries.lookup "status" = some (.text status.name) →
      entries.lookup "result" = some (.bytes result) →
      ListsText entries "error_type" errorType → ListsText entries "error" error →
      decode JobReply bytes = .ok ⟨status, result, errorType, error⟩) ∧
    (Orderly DerivateKeyRequest entries → ∀ ikm salt info (length : UInt32) hash,
      entries.lookup "ikm" = some (.bytes ikm) → entries.lookup "salt" = some (.bytes salt) →
      (entries.lookup "info" = none ∧ info = [] ∨ entries.lookup "info" = some (.bytes info)) →
      entries.lookup "length" = some (.unsigned length.toNat) →
      (entries.lookup "hash" = none ∧ hash = "sha256" ∨
        entries.lookup "hash" = some (.text hash)) →
      decode DerivateKeyRequest bytes = .ok ⟨ikm, salt, info, length, hash⟩) ∧
    (Orderly DerivateKeyResponse entries → ∀ okm,
      entries.lookup "okm" = some (.bytes okm) → decode DerivateKeyResponse bytes = .ok ⟨okm⟩) ∧
    Complains DerivationResponse entries bytes ∧ Complains JobRequest entries bytes ∧
    Complains JobReply entries bytes ∧ Complains DerivateKeyRequest entries bytes ∧
    Complains DerivateKeyResponse entries bytes := by
  refine ⟨?_, ?_, ?_, ?_, ?_, complains regular_derivationResponse hfit,
    complains regular_jobRequest hfit, complains regular_jobReply hfit,
    complains regular_derivateKeyRequest hfit, complains regular_derivateKeyResponse hfit⟩
  · intro h salt secret hsalt hsecret
    rw [h.derivationResponse hwritten hfit hshort hsalt hsecret, DerivationResponse.ofParts]
    refine ⟨fun hnil => dif_pos hnil, fun hsalt hnil => ?_, fun hsalt hsecret => ?_⟩
    · rw [dif_neg hsalt, dif_pos hnil]
    · rw [dif_neg hsalt, dif_neg hsecret]
  · intro h operation data
    exact h.jobRequest hwritten hfit hshort
  · intro h status result errorType error
    exact h.jobReply hwritten hfit hshort
  · intro h ikm salt info length hash
    exact h.derivateKeyRequest hwritten hfit hshort
  · intro h okm
    exact h.derivateKeyResponse hwritten hfit hshort

/-- A request whose entries are out of order, with a length that is written wider than it need be
and a name that is not known, twice and nested. -/
theorem decode_of_stray_entries :
    decode DerivateKeyRequest
        [0xb8, 5, 0x61, 0x78, 0xa1, 1, 0x82, 0xf6, 0xf9, 0, 0, 0x66, 0x6c, 0x65, 0x6e, 0x67, 0x74,
          0x68, 0x19, 0, 32, 0x64, 0x73, 0x61, 0x6c, 0x74, 0x41, 2, 0x61, 0x78, 0xf5, 0x63, 0x69,
          0x6b, 0x6d, 0x41, 1] =
      .ok ⟨[1], [2], [], 32, "sha256"⟩ := by
  let entries : List (String × Item) :=
    [("x", .map [(.unsigned 1, .array [.null, .float (.half 0)])]), ("length", .unsigned 32),
      ("salt", .bytes [2]), ("x", .bool true), ("ikm", .bytes [1])]
  have hkey : ∀ key : String, (Text.encode key).length < 24 → Written (.text key)
      (UInt8.ofNat (32 * 3 + (Text.encode key).length) :: Text.encode key) :=
    fun key h => .text (.short h)
  have hbyte : ∀ b : UInt8, Written (.bytes [b]) [0x41, b] := fun b => .bytes (.short (by simp))
  have hnested : Written (.map [(.unsigned 1, .array [.null, .float (.half 0)])])
      [0xa1, 1, 0x82, 0xf6, 0xf9, 0, 0] :=
    .map (.short (by decide)) (.cons (.unsigned (.short (by decide)))
      (.array (.short (by decide)) (.cons .null (.cons (.float _) .nil))) .nil)
  have hlength : Written (.unsigned 32) [0x19, 0, 32] :=
    .unsigned (.wide 25 2 (by decide) (by decide))
  have hwritten : Written (.map (Schema.keyed entries)) _ :=
    .map (.wide 24 1 (by decide) (by decide))
      (.cons (hkey "x" (by decide)) hnested (.cons (hkey "length" (by decide)) hlength
        (.cons (hkey "salt" (by decide)) (hbyte 2) (.cons (hkey "x" (by decide)) (.bool true)
          (.cons (hkey "ikm" (by decide)) (hbyte 1) .nil)))))
  obtain ⟨-, -, -, hrequest, -⟩ := decode_of_entries hwritten (by decide) (by decide)
  exact hrequest ⟨by decide, by decide⟩ [1] [2] [] 32 "sha256" rfl rfl (.inl ⟨rfl, rfl⟩) rfl
    (.inl ⟨rfl, rfl⟩)

end DerivationPool.Message

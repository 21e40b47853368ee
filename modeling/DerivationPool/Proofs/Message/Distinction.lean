import DerivationPool.Proofs.Message.Formats
import Mathlib.Data.List.Find

/-!
No message is read as one of another type. What is written of a message lists values
under the names of its own schema, and a decoder of another type looks for its own names
among them. It refuses nothing on the way, since a name that two types share has values
of one kind in both; but any two types differ in a name that is due, and the first such
name is what the decoder misses in the end.
-/
namespace DerivationPool.Message

open Cbor

/-- No value is written as a container. -/
theorem Kind.depth_of_item? (kind : Kind) {value : kind.Value} {item : Item}
    (h : kind.item? value = some item) : item.depth = 0 := by
  cases kind with
  | optionalText =>
    cases value with
    | none => cases h
    | some text =>
      cases h
      rfl
  | bytes | text | word32 | status =>
    cases h
    rfl

namespace Schema

variable {schema other : Schema}

/-- What is listed of a record is a value of one of its fields. -/
theorem mem_listed {record : schema.Record} {e : String × Item} (h : e ∈ schema.listed record) :
    ∃ field ∈ schema, field.name = e.1 ∧ ∃ value, field.kind.item? value = some e.2 := by
  induction schema with
  | nil => cases h
  | cons field fields ih =>
    obtain ⟨value, values⟩ := record
    have hrest : e ∈ listed fields values → ∃ other ∈ field :: fields,
        other.name = e.1 ∧ ∃ value, other.kind.item? value = some e.2 := by
      intro he
      obtain ⟨other, hother, hname⟩ := ih he
      exact ⟨other, List.mem_cons_of_mem _ hother, hname⟩
    rw [listed] at h
    cases hitem : field.kind.item? value with
    | none =>
      rw [hitem] at h
      exact hrest h
    | some item =>
      rw [hitem] at h
      obtain rfl | he := List.mem_cons.mp h
      · exact ⟨field, List.mem_cons_self, rfl, value, hitem⟩
      · exact hrest he

/-- A field is listed whatever its value, unless the value may be an absence. -/
theorem lookup_listed_isSome (record : schema.Record) {field : Field} (hfield : field ∈ schema)
    (hkind : field.kind ≠ .optionalText) : ((schema.listed record).lookup field.name).isSome := by
  have hwritten : ∀ {kind : Kind} (value : kind.Value), kind ≠ .optionalText →
      ∃ item, kind.item? value = some item := by
    intro kind value hkind
    cases kind with
    | optionalText => exact absurd rfl hkind
    | bytes | text | word32 | status => exact ⟨_, rfl⟩
  induction schema with
  | nil => cases hfield
  | cons first fields ih =>
    obtain ⟨value, values⟩ := record
    rw [listed]
    obtain rfl | hfield := List.mem_cons.mp hfield
    · obtain ⟨item, hitem⟩ := hwritten value hkind
      rw [hitem]
      dsimp only
      rw [List.lookup_cons, beq_self_eq_true]
      rfl
    · have hlater := ih values hfield
      split
      · rw [List.lookup_cons]
        split
        · rfl
        · exact hlater
      · exact hlater

/-- A name that two schemas share has values of one kind in both, and they are always written. -/
def Agree (schema other : Schema) : Prop :=
  ∀ field ∈ schema, ∀ field' ∈ other, field.name = field'.name →
    field.kind = field'.kind ∧ field.kind ≠ .optionalText

instance (schema other : Schema) : Decidable (Agree schema other) :=
  inferInstanceAs (Decidable (∀ field ∈ schema, ∀ field' ∈ other, _))

/-- The first field of another schema that is due there and has a name that is not known here. -/
def lacking? (schema other : Schema) : Option Field :=
  other.find? fun field => field.absent.isNone && field.name ∉ schema.names

/-- Another schema can take what is written of a record. -/
theorem lists_other (hregular : schema.Regular) (hagree : schema.Agree other)
    (record : schema.Record) (hsize : (schema.item record).encode.length < 1 <<< 64) :
    other.Lists (schema.listed record) (schema.item record).encode where
  written := (lists_item hregular record hsize).written
  short := (lists_item hregular record hsize).short
  admits e he := by
    obtain ⟨field, hfield, hname, value, hitem⟩ := mem_listed he
    refine ⟨fun field' hfield' hname' => ?_, fun _ => ?_⟩
    · obtain ⟨hkind, -⟩ := hagree field hfield field' hfield' (hname.trans hname'.symm)
      rw [← hkind, field.kind.ofItem?_of_item? hitem]
      rfl
    · rw [field.kind.depth_of_item? hitem]
      exact Nat.zero_le _

/-- What another schema misses in a record is what the schema of the record lacks. -/
theorem find_isMissing_listed (hagree : schema.Agree other) (record : schema.Record) :
    other.find? (isMissing (schema.listed record)) = schema.lacking? other := by
  refine List.find?_congr fun field' hfield' => ?_
  rw [isMissing]
  congr 1
  by_cases hname : field'.name ∈ schema.names
  · obtain ⟨field, hfield, heq⟩ := List.mem_map.mp hname
    have hkind := (hagree field hfield field' hfield' heq).2
    obtain ⟨item, hitem⟩ :=
      Option.isSome_iff_exists.mp (lookup_listed_isSome record hfield hkind)
    rw [← heq, hitem, heq, decide_eq_false (not_not_intro hname)]
    rfl
  · rw [lookup_listed_of_notMem record hname, decide_eq_true hname]
    rfl

/-- A record is not read by a schema that misses a field in it, whatever its values. -/
theorem decode_other (hregular : schema.Regular) (hdistinct : other.names.Nodup)
    (hagree : schema.Agree other) {missed : Field} (hmissed : schema.lacking? other = some missed)
    (record : schema.Record) (hsize : (schema.item record).encode.length < 1 <<< 64) :
    other.decode (schema.item record).encode = .error (.missingField missed.name) := by
  have hlists := lists_other hregular hagree record hsize
  have honce : (other.known (schema.listed record)).Nodup :=
    (List.filter_sublist.trans (names_listed schema record)).nodup hregular.distinct
  have hdecode := decode_of_lists hdistinct hlists honce []
  rw [← find_isMissing_listed hagree record] at hmissed
  rwa [List.append_nil, complete_gathered_of_missing hlists.kinds hmissed] at hdecode

end Schema

inductive MessageType where
  | derivationResponse | jobRequest | jobReply | derivateKeyRequest | derivateKeyResponse
  deriving DecidableEq, Repr

namespace MessageType

@[reducible] def Value : MessageType → Type
  | derivationResponse => DerivationResponse
  | jobRequest => JobRequest
  | jobReply => JobReply
  | derivateKeyRequest => DerivateKeyRequest
  | derivateKeyResponse => DerivateKeyResponse

instance : (type : MessageType) → Format type.Value
  | derivationResponse => inferInstanceAs (Format DerivationResponse)
  | jobRequest => inferInstanceAs (Format JobRequest)
  | jobReply => inferInstanceAs (Format JobReply)
  | derivateKeyRequest => inferInstanceAs (Format DerivateKeyRequest)
  | derivateKeyResponse => inferInstanceAs (Format DerivateKeyResponse)

/-- The name that a decoder of one type misses in messages of another. -/
def missed (sent : MessageType) : MessageType → String
  | derivationResponse => if sent = derivateKeyRequest then "secret" else "salt"
  | jobRequest => "operation"
  | jobReply => "status"
  | derivateKeyRequest => "ikm"
  | derivateKeyResponse => "okm"

theorem regular (type : MessageType) : (Format.schema type.Value).Regular := by
  cases type with
  | derivationResponse => exact regular_derivationResponse
  | jobRequest => exact regular_jobRequest
  | jobReply => exact regular_jobReply
  | derivateKeyRequest => exact regular_derivateKeyRequest
  | derivateKeyResponse => exact regular_derivateKeyResponse

/-- The one name that some types share is that of a salt, which is a byte string in all of them. -/
theorem agree {sent expected : MessageType} (hne : sent ≠ expected) :
    (Format.schema sent.Value).Agree (Format.schema expected.Value) := by
  cases sent <;> cases expected <;> first | exact absurd rfl hne | decide

/-- Of any two types, the expected one has a name that is due and that the other does not know. -/
theorem lacking_eq {sent expected : MessageType} (hne : sent ≠ expected) :
    ((Format.schema sent.Value).lacking? (Format.schema expected.Value)).map Field.name =
      some (sent.missed expected) := by
  cases sent <;> cases expected <;> first | exact absurd rfl hne | decide

end MessageType

/-- No message is mistaken for one of another type: a name is missing that is due there. -/
theorem told_apart_of_messages {sent expected : MessageType} (hne : sent ≠ expected)
    (m : sent.Value) {bytes : Bytes} (h : encode m = .ok bytes) :
    decode expected.Value bytes = .error (.ofCbor (.missingField (sent.missed expected))) := by
  obtain ⟨hle, rfl⟩ := (fit_eq_ok_iff _ _).mp h
  obtain ⟨field, hlacking, hname⟩ := Option.map_eq_some_iff.mp (MessageType.lacking_eq hne)
  have hdecode := Schema.decode_other sent.regular expected.regular.distinct
    (MessageType.agree hne) hlacking (Format.toRecord m) (Nat.lt_of_le_of_lt hle (by decide))
  rw [decode_eq_bind hle, item, hdecode, hname]
  rfl

/-- A request for a derivation has a salt, as a response has, but no secret. -/
theorem told_apart_of_shared_salt :
    ∃ bytes : Bytes, encode (⟨[1], [2], [], 32, "sha256"⟩ : DerivateKeyRequest) = .ok bytes ∧
      decode DerivationResponse bytes = .error (.ofCbor (.missingField "secret")) := by
  obtain ⟨bytes, hencode⟩ : ∃ bytes : Bytes,
      encode (⟨[1], [2], [], 32, "sha256"⟩ : DerivateKeyRequest) = .ok bytes := ⟨_, rfl⟩
  have hne : MessageType.derivateKeyRequest ≠ .derivationResponse := by decide
  exact ⟨bytes, hencode, told_apart_of_messages hne _ hencode⟩

end DerivationPool.Message

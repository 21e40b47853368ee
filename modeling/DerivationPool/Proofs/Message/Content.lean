import DerivationPool.Proofs.Cbor.Claims
import DerivationPool.Proofs.Message.Formats
import DerivationPool.Proofs.Message.Taking

/-!
What an accepted input says, and where it ends. A record takes the bytes at the front of an
input and nothing behind them, so that no bytes that were written are a beginning of others: a
message that is cut short anywhere is not read, and what follows a message that can be read, as
far as it fits on the wire, changes nothing.
-/
namespace DerivationPool.Message

open Cbor

variable {M : Type} [Format M]

/-- Written bytes that lack their end are not read as anything. -/
theorem decode_take (hregular : (Format.schema M).Regular) {m : M} {bytes : Bytes}
    (h : encode m = .ok bytes) {n : Nat} (hn : n < bytes.length) :
    ∃ e, decode M (bytes.take n) = .error (.ofCbor e) := by
  obtain ⟨hle, rfl⟩ := (fit_eq_ok_iff _ _).mp h
  have hwhole := Schema.reads_item hregular (Format.toRecord m)
    (Nat.lt_of_le_of_lt hle (by decide))
  have hfit : ((item m).encode.take n).length ≤ maxSize :=
    Nat.le_trans (List.length_take_le' n _) hle
  cases hcut : (Format.schema M).decode ((item m).encode.take n) with
  | error e =>
    refine ⟨e, ?_⟩
    rw [decode_eq_bind hfit, hcut]
    rfl
  | ok record =>
    -- What was read from the part would be read from the whole, and end before it.
    obtain ⟨front, rest, hfront, hpart, -⟩ := Schema.reads_of_decode hcut
    have hbytes : (item m).encode ++ [] = front ++ (rest ++ (item m).encode.drop n) := by
      rw [List.append_nil, ← List.append_assoc, ← hfront, List.take_append_drop]
    have hlength := congrArg List.length hfront
    rw [← (hwhole.unique hpart hbytes).1, List.length_append, List.length_take] at hlength
    change n < (Schema.item _ _).encode.length at hn
    omega

/-- What is read of an input is read of every longer one. -/
theorem decode_extend {m : M} {input tail : Bytes} (h : decode M input = .ok m)
    (hfit : (input ++ tail).length ≤ maxSize) : decode M (input ++ tail) = .ok m := by
  obtain ⟨bytes, rest, record, rfl, hreads, hrecord, -⟩ := taken_of_decode h
  rw [List.append_assoc] at hfit ⊢
  rw [decode_of_reads hreads hfit, hrecord]

/-- Messages whose end is told by their bytes alone. -/
structure SelfDelimiting (M : Type) [Format M] : Prop where
  /-- Nothing that was written is read before its last byte is there. -/
  cut : ∀ (m : M) (bytes : Bytes), encode m = .ok bytes →
    ∀ n < bytes.length, ∃ e, decode M (bytes.take n) = .error (.ofCbor e)
  /-- It is read with anything behind it. -/
  append : ∀ (m : M) (bytes : Bytes), encode m = .ok bytes →
    ∀ tail, (bytes ++ tail).length ≤ maxSize → decode M (bytes ++ tail) = .ok m
  /-- So is every input that can be read at all, by whomever it was written. -/
  extend : ∀ (input : Bytes) (m : M), decode M input = .ok m →
    ∀ tail, (input ++ tail).length ≤ maxSize → decode M (input ++ tail) = decode M input

/-- Any message of a regular schema ends where its bytes say. -/
theorem Schema.Regular.selfDelimiting (h : (Format.schema M).Regular) : SelfDelimiting M where
  cut _ _ hencode _ hn := decode_take h hencode hn
  append _ _ hencode _ hfit := decode_append h hencode hfit
  extend _ _ hdecode _ hfit := (decode_extend hdecode hfit).trans hdecode.symm

/-- All messages are self-delimiting. -/
theorem self_delimiting_of_messages :
    SelfDelimiting DerivationResponse ∧ SelfDelimiting JobRequest ∧ SelfDelimiting JobReply ∧
      SelfDelimiting DerivateKeyRequest ∧ SelfDelimiting DerivateKeyResponse :=
  ⟨regular_derivationResponse.selfDelimiting, regular_jobRequest.selfDelimiting,
    regular_jobReply.selfDelimiting, regular_derivateKeyRequest.selfDelimiting,
    regular_derivateKeyResponse.selfDelimiting⟩

/-- A response of two bytes: without the second it is not read, and with a byte more it is. -/
theorem self_delimiting_of_two_bytes :
    encode (⟨[7, 8]⟩ : DerivateKeyResponse) =
        .ok [0xa1, 0x63, 0x6f, 0x6b, 0x6d, 0x42, 7, 8] ∧
      (∃ e, decode DerivateKeyResponse [0xa1, 0x63, 0x6f, 0x6b, 0x6d, 0x42, 7] =
        .error (.ofCbor e)) ∧
      decode DerivateKeyResponse [0xa1, 0x63, 0x6f, 0x6b, 0x6d, 0x42, 7, 8, 0xff] =
        .ok ⟨[7, 8]⟩ := by
  have hencode : encode (⟨[7, 8]⟩ : DerivateKeyResponse) =
      .ok [0xa1, 0x63, 0x6f, 0x6b, 0x6d, 0x42, 7, 8] := by decide
  have hresponse := self_delimiting_of_messages.2.2.2.2
  refine ⟨hencode, ?_, ?_⟩
  · exact hresponse.cut _ _ hencode 7 (by decide)
  · exact hresponse.append _ _ hencode [0xff] (by decide)

/-!
What an accepted input comes to, whoever made it. The strings of a message are shorter
than the input that it was read from, since they stand there; only a value that a missing
field stands for does not, and the names that have to be there are longer. A length that
is claimed and not there is refused wherever a head may stand. Written again, a message
has one form, and that is read as the message and written as itself.
-/

/-! ### Claimed lengths -/

/-- Reading on from a head fails where fewer bytes are left than the head claims. -/
def Heeds {α : Type} (read : Token → Read α) : Prop :=
  ∀ (first : Token) (r : Reader), r.left < first.head.claimed → ∃ e, read first r = .error e

theorem readByteArray_claimed (count : Option Nat) :
    Takes 0 (readByteArray count) fun _ => count.getD 0 := by
  apply Takes.map
  apply Takes.entries_claimed
  intro budget first bytes
  exact Takes.map (Takes.word8 first)

theorem readBytes_claimed (first : Token) :
    Takes 0 (readBytes first) fun _ => first.head.claimed := by
  apply Takes.dropTags_claimed
  intro first
  split
  · rename_i length hhead
    rw [hhead]
    exact .byteString_claimed length
  · rename_i count hhead
    rw [hhead]
    exact readByteArray_claimed count
  · exact .throw _

theorem readText_claimed (first : Token) :
    Takes 0 (readText first) fun _ => first.head.claimed := by
  apply Takes.dropTags_claimed
  intro first
  split
  · rename_i length hhead
    rw [hhead]
    exact .textString_claimed length
  · exact .throw _

theorem readOptionalText_claimed (first : Token) :
    Takes 0 (readOptionalText first) fun _ => first.head.claimed := by
  unfold readOptionalText
  split
  · rename_i hhead
    rw [hhead]
    exact .pure (Nat.le_refl _)
  · rename_i hhead
    rw [hhead]
    exact .pure (Nat.le_refl _)
  · exact .map (readText_claimed first)

theorem readStatus_claimed (first : Token) :
    Takes 0 (readStatus first) fun _ => first.head.claimed := by
  apply Takes.dropTags_claimed
  intro first
  split
  · rename_i hhead
    rw [hhead]
    apply Takes.token.bind
    intro key
    exact takes_statusName key
  · rename_i length hhead
    apply Takes.offset.bind
    intro stop
    have hname := Takes.shortName_claimed (first.lookedAt stop)
    rw [Token.head_lookedAt] at hname
    exact hname.bind fun name => takes_statusNamed name
  · exact .throw _

/-- No value is read of fewer bytes than its head claims. -/
theorem Kind.read_claimed (kind : Kind) (first : Token) :
    Takes 0 (kind.read first) fun _ => first.head.claimed := by
  cases kind with
  | bytes => exact readBytes_claimed first
  | text => exact readText_claimed first
  | optionalText => exact readOptionalText_claimed first
  | word32 => exact .word32_claimed first
  | status => exact readStatus_claimed first

/-- A map with a count takes that many bytes at least, known names or not. -/
theorem Schema.entries_claimed (schema : Schema) (count : Option Nat) :
    Takes 0 (Cbor.entries count schema.readEntry schema.noSlots) fun _ => count.getD 0 := by
  apply Takes.entries_claimed
  intro budget first slots
  exact (schema.takes_readEntry first slots budget).idle budget

/-- Nor is a message read of fewer bytes than its map claims entries. -/
theorem Schema.read_error_of_claimed (schema : Schema) {input : Bytes} {first : Token}
    {next : Reader} (hfirst : (token >>= untagged) (.ofBytes input) = .ok (first, next))
    (hless : next.left < first.head.claimed) :
    ∃ e, schema.read (.ofBytes input) = .error e := by
  rw [read_eq, run_bind_of_ok hfirst]
  obtain ⟨head, start⟩ := first
  cases head with
  | map count =>
    obtain ⟨e, he⟩ := (schema.entries_claimed count).fails hless
    exact ⟨e, run_bind_of_error he _⟩
  | _ => exact ⟨_, rfl⟩

section Content

variable {M : Type} [Format M]

/-- What an input is accepted as is told by less than the input. -/
theorem content_lt_of_decode {content : M → Nat}
    (hspare : (Format.schema M).spare ≤ (Format.schema M).due)
    (hcontent : ∀ record (m : M), Format.ofRecord record = .ok m →
      content m ≤ (Format.schema M).recordSize record)
    {input : Bytes} {m : M} (h : decode M input = .ok m) : content m < input.length := by
  obtain ⟨bytes, tail, record, rfl, -, hrecord, hsize⟩ := taken_of_decode h
  have hle := hcontent record m hrecord
  rw [List.length_append]
  omega

/-- Where less is left than the first head claims, there is no message. -/
theorem decode_error_of_claimed {input : Bytes} {first : Token} {next : Reader}
    (hfirst : (token >>= untagged) (.ofBytes input) = .ok (first, next))
    (hless : next.left < first.head.claimed) : ∃ e, decode M input = .error e := by
  by_cases hfit : input.length ≤ maxSize
  · obtain ⟨e, he⟩ := Schema.read_error_of_claimed (Format.schema M) hfirst hless
    refine ⟨.ofCbor e, ?_⟩
    rw [decode_eq_bind hfit, Schema.decode, he]
    rfl
  · rw [decode, fit, if_pos (Nat.lt_of_not_le hfit)]
    exact ⟨_, rfl⟩

/-- Messages that come to no more than the input they were read from, and to one form. -/
structure Tame (M : Type) [Format M] (content : M → Nat) : Prop where
  /-- What a message holds is shorter than the input. -/
  smaller : ∀ (input : Bytes) (m : M), decode M input = .ok m → content m < input.length
  /-- It is too large to be written, or what is written is read as the message and then written as
  the same bytes. -/
  normal : ∀ (input : Bytes) (m : M), decode M input = .ok m →
    (∃ size, maxSize < size ∧ encode m = .error (.tooLarge size maxSize)) ∨
      ∃ bytes, encode m = .ok bytes ∧ decode M bytes = .ok m ∧
        (decode M bytes).bind encode = .ok bytes
  /-- An input with fewer bytes behind its first head than entries are claimed is refused. -/
  heeds : ∀ (input : Bytes) (first : Token) (next : Reader),
    (token >>= untagged) (.ofBytes input) = .ok (first, next) →
    next.left < first.head.claimed → ∃ e, decode M input = .error e

/-- A regular schema is tame if the names that have to be there make up for what absent fields may
stand for. -/
theorem Schema.Regular.tame {content : M → Nat} (hregular : (Format.schema M).Regular)
    (hspare : (Format.schema M).spare ≤ (Format.schema M).due)
    (hcontent : ∀ record (m : M), Format.ofRecord record = .ok m →
      content m ≤ (Format.schema M).recordSize record) : Tame M content where
  smaller _ _ h := content_lt_of_decode hspare hcontent h
  normal _ m _ := by
    by_cases hsize : size m ≤ maxSize
    · have hencode := encode_eq_ok hsize
      have hdecode := decode_encode hregular hencode
      refine .inr ⟨_, hencode, hdecode, ?_⟩
      rw [hdecode]
      exact hencode
    · have hlarge := Nat.lt_of_not_le hsize
      exact .inl ⟨size m, hlarge, encode_eq_error_iff.mpr ⟨hlarge, rfl⟩⟩
  heeds _ _ _ hfirst hless := decode_error_of_claimed hfirst hless

end Content

def optionalSize (text : Option String) : Nat := text.elim 0 fun text => (Text.encode text).length

theorem tame_derivationResponse :
    Tame DerivationResponse fun m => m.salt.length + m.secret.length := by
  apply regular_derivationResponse.tame
  · decide
  · rintro ⟨salt, secret, rest⟩ m hrecord
    have hparts : DerivationResponse.ofParts salt secret = .ok m := hrecord
    unfold DerivationResponse.ofParts at hparts
    split at hparts
    · cases hparts
    · split at hparts
      · cases hparts
      · cases hparts
        exact Nat.le_refl _

theorem tame_jobRequest :
    Tame JobRequest fun m => (Text.encode m.operation).length + m.data.length := by
  apply regular_jobRequest.tame
  · decide
  · intro record m hrecord
    cases hrecord
    exact Nat.le_refl _

theorem tame_jobReply :
    Tame JobReply fun m =>
      m.result.length + optionalSize m.errorType + optionalSize m.error := by
  apply regular_jobReply.tame
  · decide
  · intro record m hrecord
    cases hrecord
    change _ ≤ 0 + (record.2.1.length + (optionalSize record.2.2.1 +
      (optionalSize record.2.2.2.1 + 0)))
    dsimp only
    omega

theorem tame_derivateKeyRequest :
    Tame DerivateKeyRequest fun m =>
      m.ikm.length + m.salt.length + m.info.length + (Text.encode m.hash).length := by
  apply regular_derivateKeyRequest.tame
  · decide
  · intro record m hrecord
    cases hrecord
    change _ ≤ record.1.length + (record.2.1.length + (record.2.2.1.length +
      (0 + ((Text.encode record.2.2.2.2.1).length + 0))))
    dsimp only
    omega

theorem tame_derivateKeyResponse : Tame DerivateKeyResponse fun m => m.okm.length := by
  apply regular_derivateKeyResponse.tame
  · decide
  · intro record m hrecord
    cases hrecord
    exact Nat.le_refl _

/-- No message is amplified or left in two forms, whatever it was read from; and wherever a length
may be claimed, before a value, a key, an item that is passed over or a part of a string or of an
integer, one that is not there is refused. -/
theorem tame_of_messages :
    (Tame DerivationResponse fun m => m.salt.length + m.secret.length) ∧
    (Tame JobRequest fun m => (Text.encode m.operation).length + m.data.length) ∧
    (Tame JobReply fun m =>
      m.result.length + optionalSize m.errorType + optionalSize m.error) ∧
    (Tame DerivateKeyRequest fun m =>
      m.ikm.length + m.salt.length + m.info.length + (Text.encode m.hash).length) ∧
    (Tame DerivateKeyResponse fun m => m.okm.length) ∧
    (∀ kind : Kind, Heeds kind.read) ∧ Heeds shortName ∧ (∀ depth, Heeds (skip depth)) ∧
    ∀ (n : Nat) (r : Reader), r.left < n →
      (∃ e, take n r = .error e) ∧ (∀ start, ∃ e, textSegment start n r = .error e) ∧
        ∀ digits, ∃ e, magnitudeSegment n digits r = .error e := by
  refine ⟨tame_derivationResponse, tame_jobRequest, tame_jobReply, tame_derivateKeyRequest,
    tame_derivateKeyResponse, ?values, ?names, ?others, ?parts⟩
  case values =>
    intro kind first r hless
    exact (kind.read_claimed first).fails hless
  case names =>
    intro first r hless
    exact (Takes.shortName_claimed first).fails hless
  case others =>
    intro depth first r hless
    exact (Takes.skip_claimed depth first).fails hless
  case parts =>
    intro n r hless
    refine ⟨(Takes.take_claimed n).fails hless, ?_, ?_⟩
    · intro start
      exact (Takes.textSegment_claimed start n).fails hless
    · intro digits
      exact (Takes.magnitudeSegment_claimed n digits).fails hless

/-- An open map, a key with a head that is too long, an open array of integers behind a tag, a null
under a name that is not known and a byte behind the end: the response of two bytes. -/
theorem tame_of_odd_input :
    decode DerivateKeyResponse [0xbf, 0x78, 3, 0x6f, 0x6b, 0x6d, 0xc1, 0x9f, 7, 0x18, 8, 0xff,
      0x61, 0x78, 0xf6, 0xff, 0] = .ok ⟨[7, 8]⟩ ∧
    ∃ bytes, encode (⟨[7, 8]⟩ : DerivateKeyResponse) = .ok bytes ∧
      decode DerivateKeyResponse bytes = .ok ⟨[7, 8]⟩ := by
  have hdecode : decode DerivateKeyResponse [0xbf, 0x78, 3, 0x6f, 0x6b, 0x6d, 0xc1, 0x9f, 7, 0x18,
      8, 0xff, 0x61, 0x78, 0xf6, 0xff, 0] = .ok ⟨[7, 8]⟩ := by decide +kernel
  refine ⟨hdecode, ?_⟩
  have hresponse := tame_of_messages.2.2.2.2.1
  obtain ⟨size, hlarge, hencode⟩ | ⟨bytes, hencode, hagain, -⟩ := hresponse.normal _ _ hdecode
  · have hok : encode (⟨[7, 8]⟩ : DerivateKeyResponse) =
        .ok [0xa1, 0x63, 0x6f, 0x6b, 0x6d, 0x42, 7, 8] := by decide
    rw [hok] at hencode
    cases hencode
  · exact ⟨bytes, hencode, hagain⟩

end DerivationPool.Message

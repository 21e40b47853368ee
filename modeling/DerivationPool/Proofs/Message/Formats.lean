import DerivationPool.Message.Formats
import DerivationPool.Proofs.Message.Entries

/-!
The five messages are read back as they were written. What is written of a record lists its
values in the order of the schema, so that it is one of the maps that are read by looking names
up. What is assumed of a schema is that its names are distinct and short, and that a value which
is not written is the one its absence stands for.
-/
namespace DerivationPool.Message

open Cbor

/-- The written form of a value stands for the value. -/
theorem Kind.ofItem?_of_item? (kind : Kind) {value : kind.Value} {item : Item}
    (h : kind.item? value = some item) : kind.ofItem? item = some value := by
  cases kind with
  | bytes | text =>
    cases h
    rfl
  | optionalText =>
    cases value with
    | none => cases h
    | some text =>
      cases h
      rfl
  | word32 =>
    cases h
    have hn : value.toNat < 1 <<< 32 := value.toNat_lt
    rw [ofItem?, if_pos hn, UInt32.ofNat_toNat]
  | status =>
    cases h
    cases value <;> rfl

theorem Kind.written_of_item? (kind : Kind) {value : kind.Value} {item : Item}
    (h : kind.item? value = some item) (hsize : item.encode.length < 1 <<< 64) :
    Written item item.encode := by
  have hbytes : ∀ bytes : Bytes, (Item.bytes bytes).encode.length < 1 <<< 64 →
      Written (.bytes bytes) (Item.bytes bytes).encode := by
    intro bytes hsize
    rw [Item.encode, List.length_append] at hsize
    rw [Item.encode]
    exact .bytes (written_encodeHead 2 (by omega))
  have htext : ∀ text : String, (Item.text text).encode.length < 1 <<< 64 →
      Written (.text text) (Item.text text).encode := by
    intro text hsize
    rw [Item.encode] at hsize ⊢
    rw [List.length_append] at hsize
    exact .text (written_encodeHead 3 (by omega))
  cases kind with
  | bytes =>
    cases h
    exact hbytes value hsize
  | text =>
    cases h
    exact htext value hsize
  | optionalText =>
    cases value with
    | none => cases h
    | some text =>
      cases h
      exact htext text hsize
  | word32 =>
    cases h
    have hn : value.toNat < 1 <<< 32 := value.toNat_lt
    rw [Item.encode]
    exact .unsigned (written_encodeHead 0 (Nat.lt_trans hn (by decide)))
  | status =>
    cases h
    exact htext value.name hsize

namespace Schema

/-- What a schema has to be for its records to be read as they were written. -/
structure Regular (schema : Schema) : Prop where
  distinct : schema.names.Nodup
  short : ∀ field ∈ schema, (Text.encode field.name).length ≤ shortSize
  /-- A value that is not written is the one that its absence stands for. -/
  absent : ∀ field ∈ schema, ∀ value, field.kind.item? value = none → field.absent = some value

theorem Regular.tail {field : Field} {fields : Schema} (h : Regular (field :: fields)) :
    Regular fields where
  distinct := (List.nodup_cons.mp h.distinct).2
  short other hother := h.short other (List.mem_cons_of_mem _ hother)
  absent other hother := h.absent other (List.mem_cons_of_mem _ hother)

/-- The values of a record that are written, each under the name of its field. -/
def listed : (schema : Schema) → schema.Record → List (String × Item)
  | [], _ => []
  | field :: fields, (value, values) =>
    match field.kind.item? value with
    | some item => (field.name, item) :: listed fields values
    | none => listed fields values

/-- What is written of a record are its listed values under text keys. -/
theorem entries_eq (schema : Schema) (record : schema.Record) :
    schema.entries record = keyed (schema.listed record) := by
  induction schema with
  | nil => rfl
  | cons field fields ih =>
    obtain ⟨value, values⟩ := record
    rw [entries, listed]
    cases hitem : field.kind.item? value with
    | some item => simp [ih, keyed]
    | none => exact ih values

/-- Values are listed in the order of the schema, and each at most once. -/
theorem names_listed (schema : Schema) (record : schema.Record) :
    ((schema.listed record).map Prod.fst).Sublist schema.names := by
  induction schema with
  | nil => exact List.Sublist.refl _
  | cons field fields ih =>
    obtain ⟨value, values⟩ := record
    rw [listed]
    split
    · exact (ih values).cons_cons field.name
    · exact (ih values).cons field.name

theorem lookup_listed_of_notMem {schema : Schema} {name : String} (record : schema.Record)
    (hname : name ∉ schema.names) : (schema.listed record).lookup name = none :=
  lookup_eq_none_of_notMem fun hmem => hname ((names_listed schema record).subset hmem)

/-- An entry of another name changes nothing. -/
theorem Holds.cons {schema : Schema} {record : schema.Record} {entries : List (String × Item)}
    (h : schema.Holds record entries) {name : String} (item : Item) (hname : name ∉ schema.names) :
    schema.Holds record ((name, item) :: entries) := by
  induction schema with
  | nil => exact trivial
  | cons field fields ih =>
    obtain ⟨value, values⟩ := record
    obtain ⟨hvalue, hvalues⟩ := h
    rw [names, List.map_cons, List.mem_cons, not_or] at hname
    have hbeq : (field.name == name) = false := by simpa using Ne.symm hname.1
    refine ⟨?_, ih hvalues hname.2⟩
    rw [List.lookup_cons, hbeq]
    exact hvalue

/-- A record holds the values that are written of it. -/
theorem holds_listed {schema : Schema} (hregular : Regular schema) (record : schema.Record) :
    schema.Holds record (schema.listed record) := by
  induction schema with
  | nil => exact trivial
  | cons field fields ih =>
    obtain ⟨value, values⟩ := record
    have hname := (List.nodup_cons.mp hregular.distinct).1
    have hvalues := ih hregular.tail values
    rw [listed]
    cases hitem : field.kind.item? value with
    | some item =>
      refine ⟨?_, hvalues.cons item hname⟩
      rw [List.lookup_cons, beq_self_eq_true]
      exact field.kind.ofItem?_of_item? hitem
    | none =>
      refine ⟨?_, hvalues⟩
      rw [lookup_listed_of_notMem values hname]
      exact hregular.absent field List.mem_cons_self value hitem

/-- The entries of a record are written as they are encoded. -/
theorem written_listed {schema : Schema} (record : schema.Record)
    (hshort : ∀ field ∈ schema, (Text.encode field.name).length ≤ shortSize)
    (hsize : (encodeEntries (schema.entries record)).length < 1 <<< 64) :
    WrittenEntries (keyed (schema.listed record)) (encodeEntries (schema.entries record)) := by
  induction schema with
  | nil => exact .nil
  | cons field fields ih =>
    obtain ⟨value, values⟩ := record
    have hrest := ih values fun other hother => hshort other (.tail _ hother)
    rw [entries] at hsize ⊢
    rw [listed]
    cases hitem : field.kind.item? value with
    | some item =>
      simp only [hitem, encodeEntries, List.length_append] at hsize ⊢
      have hname : (Text.encode field.name).length < 1 <<< 64 :=
        Nat.lt_of_le_of_lt (hshort field List.mem_cons_self) (by decide)
      have hvalue : Written item item.encode := field.kind.written_of_item? hitem (by omega)
      refine .cons ?_ hvalue (hrest (by omega))
      rw [Item.encode]
      exact .text (written_encodeHead 3 hname)
    | none =>
      simp only [hitem] at hsize ⊢
      exact hrest hsize

/-- A schema takes what is written of its records. -/
theorem admits_listed {schema : Schema} (hdistinct : schema.names.Nodup)
    (record : schema.Record) : ∀ e ∈ schema.listed record, schema.Admits e.1 e.2 := by
  induction schema with
  | nil => simp [listed]
  | cons field fields ih =>
    obtain ⟨value, values⟩ := record
    obtain ⟨hname, hdistinct⟩ := List.nodup_cons.mp hdistinct
    have hrest : ∀ e ∈ listed fields values, Admits (field :: fields) e.1 e.2 := by
      intro e he
      have hmem : e.1 ∈ names fields :=
        (names_listed fields values).subset (List.mem_map_of_mem he)
      refine ⟨?_, fun hnot => absurd (List.mem_cons_of_mem _ hmem) hnot⟩
      intro other hother heq
      obtain rfl | hother := List.mem_cons.mp hother
      · exact absurd (heq ▸ hmem) hname
      · exact (ih hdistinct values e he).known other hother heq
    rw [listed]
    cases hitem : field.kind.item? value with
    | none => exact hrest
    | some item =>
      intro e he
      obtain rfl | he := List.mem_cons.mp he
      · refine ⟨?_, fun hnot => absurd List.mem_cons_self hnot⟩
        intro other hother heq
        obtain rfl | hother := List.mem_cons.mp hother
        · rw [other.kind.ofItem?_of_item? hitem]
          rfl
        · exact absurd (List.mem_map.mpr ⟨other, hother, heq⟩) hname
      · exact hrest e he

theorem length_entries_le (entries : List (Item × Item)) :
    entries.length ≤ (encodeEntries entries).length := by
  induction entries with
  | nil => exact Nat.zero_le _
  | cons e entries ih =>
    have hkey := e.1.length_encode_pos
    rw [encodeEntries, List.length_cons, List.length_append, List.length_append]
    omega

/-- What is written of a record lists its values. -/
theorem lists_item {schema : Schema} (hregular : Regular schema) (record : schema.Record)
    (hsize : (schema.item record).encode.length < 1 <<< 64) :
    schema.Lists (schema.listed record) (schema.item record).encode where
  written := by
    have hlength := length_entries_le (schema.entries record)
    rw [item, Item.encode, List.length_append] at hsize
    rw [item, Item.encode]
    have hentries := written_listed record hregular.short (by omega)
    rw [← entries_eq] at hentries ⊢
    exact .map (written_encodeHead 5 (by omega)) hentries
  short e he := by
    have hmem := (names_listed schema record).subset (List.mem_map_of_mem he)
    obtain ⟨field, hfield, hname⟩ := List.mem_map.mp hmem
    rw [← hname]
    exact hregular.short field hfield
  admits := admits_listed hregular.distinct record

/-- What is written of a record is read to its end. -/
theorem reads_item {schema : Schema} (hregular : Regular schema) (record : schema.Record)
    (hsize : (schema.item record).encode.length < 1 <<< 64) :
    Reads 0 (schema.item record).encode schema.read record :=
  reads_of_lists hregular.distinct (lists_item hregular record hsize)
    ((List.filter_sublist.trans (names_listed schema record)).nodup hregular.distinct)
    (complete_gathered (holds_listed hregular record))

end Schema

variable {M : Type} [Format M]

/-- A message that was written is read back, whatever comes after it. -/
theorem decode_append (hregular : (Format.schema M).Regular) {m : M} {bytes : Bytes}
    (h : encode m = .ok bytes) {tail : Bytes} (hfit : (bytes ++ tail).length ≤ maxSize) :
    decode M (bytes ++ tail) = .ok m := by
  obtain ⟨hle, rfl⟩ := (fit_eq_ok_iff _ _).mp h
  have hreads := Schema.reads_item hregular (Format.toRecord m)
    (Nat.lt_of_le_of_lt hle (by decide))
  rw [← Format.ofRecord_toRecord m]
  exact decode_of_reads hreads hfit

theorem decode_encode (hregular : (Format.schema M).Regular) {m : M} {bytes : Bytes}
    (h : encode m = .ok bytes) : decode M bytes = .ok m := by
  have hle := ((fit_eq_ok_iff _ _).mp h).1
  rw [← ((fit_eq_ok_iff _ _).mp h).2] at hle
  have hall : decode M (bytes ++ []) = .ok m := by
    refine decode_append hregular h ?_
    rwa [List.append_nil]
  rwa [List.append_nil] at hall

/-!
The five messages. Each has a regular schema, and so each is written whole or not at
all, for no other reason than its length, and is read back as it was.
-/

/-- Whether a value of the field that is not written is the one that its absence stands for. -/
def Field.keepsAbsence : Field → Bool
  | ⟨_, .optionalText, absent⟩ => absent = some none
  | _ => true

theorem Field.absent_of_keepsAbsence {field : Field} (h : field.keepsAbsence = true)
    {value : field.kind.Value} (hitem : field.kind.item? value = none) :
    field.absent = some value := by
  obtain ⟨name, kind, absent⟩ := field
  cases kind with
  | optionalText =>
    cases value with
    | none => simpa [keepsAbsence] using h
    | some text => cases hitem
  | _ => cases hitem

/-- Regularity can be checked field by field. -/
theorem Schema.Regular.of_keepsAbsence {schema : Schema} (hdistinct : schema.names.Nodup)
    (hshort : ∀ field ∈ schema, (Text.encode field.name).length ≤ Cbor.shortSize)
    (habsence : ∀ field ∈ schema, field.keepsAbsence = true) : schema.Regular where
  distinct := hdistinct
  short := hshort
  absent field hfield _ hitem := field.absent_of_keepsAbsence (habsence field hfield) hitem

theorem regular_derivationResponse : (Format.schema DerivationResponse).Regular :=
  .of_keepsAbsence (by decide) (by decide) (by decide)

theorem regular_jobRequest : (Format.schema JobRequest).Regular :=
  .of_keepsAbsence (by decide) (by decide) (by decide)

theorem regular_jobReply : (Format.schema JobReply).Regular :=
  .of_keepsAbsence (by decide) (by decide) (by decide)

theorem regular_derivateKeyRequest : (Format.schema DerivateKeyRequest).Regular :=
  .of_keepsAbsence (by decide) (by decide) (by decide)

theorem regular_derivateKeyResponse : (Format.schema DerivateKeyResponse).Regular :=
  .of_keepsAbsence (by decide) (by decide) (by decide)

def size {M : Type} [Format M] (m : M) : Nat := (item m).encode.length

theorem encode_eq_ok {M : Type} [Format M] {m : M} (hsize : size m ≤ maxSize) :
    encode m = .ok (item m).encode :=
  (fit_eq_ok_iff _ _).mpr ⟨hsize, rfl⟩

/-- Length is the only reason why a message is not written. -/
theorem encode_eq_error_iff {M : Type} [Format M] {m : M} {e : MessageError} :
    encode m = .error e ↔ maxSize < size m ∧ e = .tooLarge (size m) maxSize := by
  unfold encode fit
  split
  · rename_i hsize
    rw [Except.error.injEq]
    exact ⟨fun h => ⟨hsize, h.symm⟩, fun h => h.2.symm⟩
  · rename_i hsize
    exact ⟨nofun, fun h => absurd h.1 hsize⟩

/-- Where the last value of a map is a string of bytes, its bytes stand at the end, behind what
depends on their number alone. -/
theorem exists_front (entries : List (Item × Item)) (key : Item) (n : Nat) :
    ∃ front, ∀ bytes : Bytes, bytes.length = n →
      (Item.map (entries ++ [(key, .bytes bytes)])).encode = front ++ bytes := by
  obtain ⟨front, hfront⟩ : ∃ front, ∀ bytes : Bytes, bytes.length = n →
      encodeEntries (entries ++ [(key, .bytes bytes)]) = front ++ bytes := by
    induction entries with
    | nil =>
      refine ⟨key.encode ++ encodeHead 2 n, fun bytes hbytes => ?_⟩
      simp [encodeEntries, Item.encode, hbytes]
    | cons entry entries ih =>
      obtain ⟨front, hfront⟩ := ih
      refine ⟨entry.1.encode ++ entry.2.encode ++ front, fun bytes hbytes => ?_⟩
      rw [List.cons_append, encodeEntries, hfront bytes hbytes]
      simp only [List.append_assoc]
  refine ⟨encodeHead 5 (entries.length + 1) ++ front, fun bytes hbytes => ?_⟩
  rw [Item.encode, hfront bytes hbytes, List.length_append, List.length_singleton,
    List.append_assoc]

/-- So two strings of one length are both too long for the wire, or are both written behind the
same bytes. -/
theorem fit_front (entries : List (Item × Item)) (key : Item) {bytes bytes' : Bytes}
    (hlength : bytes.length = bytes'.length) :
    (∃ e, fit (Item.map (entries ++ [(key, .bytes bytes)])).encode = .error e ∧
      fit (Item.map (entries ++ [(key, .bytes bytes')])).encode = .error e) ∨
    ∃ front, fit (Item.map (entries ++ [(key, .bytes bytes)])).encode = .ok (front ++ bytes) ∧
      fit (Item.map (entries ++ [(key, .bytes bytes')])).encode = .ok (front ++ bytes') := by
  obtain ⟨front, hfront⟩ := exists_front entries key bytes'.length
  rw [hfront bytes hlength, hfront bytes' rfl]
  have hsame : (front ++ bytes).length = (front ++ bytes').length := by
    rw [List.length_append, List.length_append, hlength]
  unfold fit
  rw [hsame]
  split
  · exact .inl ⟨_, rfl, rfl⟩
  · exact .inr ⟨front, rfl, rfl⟩

/-- Every value is written unless its written form is too long, which is then what the error says;
and what is written reads as the value. -/
def RoundTrips (M : Type) [Format M] : Prop :=
  ∀ m : M,
    (∀ text, encode m ≠ .error (.encodeFailed text)) ∧
    (∀ e, encode m = .error e ↔ maxSize < size m ∧ e = .tooLarge (size m) maxSize) ∧
    (size m ≤ maxSize → encode m = .ok (item m).encode ∧ decode M (item m).encode = .ok m)

theorem Schema.Regular.roundTrips {M : Type} [Format M] (h : (Format.schema M).Regular) :
    RoundTrips M := by
  intro m
  refine ⟨?_, fun e => encode_eq_error_iff, ?_⟩
  · intro text hencode
    obtain ⟨-, heq⟩ := encode_eq_error_iff.mp hencode
    cases heq
  · intro hsize
    exact ⟨encode_eq_ok hsize, decode_encode h (encode_eq_ok hsize)⟩

/-- What is short enough has a written form, of its size. -/
theorem exists_written {M : Type} [Format M] (h : (Format.schema M).Regular) {m : M}
    (hsize : size m ≤ maxSize) :
    ∃ bytes : Bytes, bytes.length = size m ∧ decode M bytes = .ok m :=
  ⟨(item m).encode, rfl, decode_encode h (encode_eq_ok hsize)⟩

/-- All messages survive the wire. -/
theorem round_trip_of_messages :
    RoundTrips DerivationResponse ∧ RoundTrips JobRequest ∧ RoundTrips JobReply ∧
      RoundTrips DerivateKeyRequest ∧ RoundTrips DerivateKeyResponse :=
  ⟨regular_derivationResponse.roundTrips, regular_jobRequest.roundTrips,
    regular_jobReply.roundTrips, regular_derivateKeyRequest.roundTrips,
    regular_derivateKeyResponse.roundTrips⟩

end DerivationPool.Message

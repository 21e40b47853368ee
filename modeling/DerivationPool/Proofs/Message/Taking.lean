import DerivationPool.Proofs.Cbor.Taking
import DerivationPool.Proofs.Message.Entries

/-!
What a message takes of its input. A record is read from bytes at the front and from
nothing behind them, and what its fields hold is less than the bytes. What is held by a
field that was left out stands nowhere in the input; it is made up for by the names of
the fields that have to be there, so a schema counts both.
-/
namespace DerivationPool.Message

open Cbor

/-- The bytes that a value holds, as a byte string or as a text. -/
def Kind.size : (kind : Kind) → kind.Value → Nat
  | bytes, value => value.length
  | text, value => (Text.encode value).length
  | optionalText, value => value.elim 0 fun text => (Text.encode text).length
  | word32, _ => 0
  | status, _ => 0

section Values

variable {budget : Nat}

theorem takes_readByteArray (count : Option Nat) :
    Takes budget (readByteArray count) fun bytes => budget + bytes.length := by
  have hbytes : Takes budget (Cbor.entries count (fun first bytes => (· :: bytes) <$> word8 first) [])
      fun bytes : Bytes => budget + bytes.length := by
    apply Takes.entries (m := fun bytes : Bytes => budget + bytes.length)
    intro first bytes
    apply Takes.map
    exact (Takes.word8 first).weaken fun _ => Nat.le_refl _
  apply Takes.map
  apply hbytes.weaken
  intro bytes
  rw [List.length_reverse]

theorem takes_readBytes (first : Token) :
    Takes budget (readBytes first) fun bytes => budget + bytes.length := by
  apply (Takes.untagged first).bind
  intro first
  split
  · exact .byteString _
  · exact takes_readByteArray _
  · exact .throw _

theorem takes_readText (first : Token) :
    Takes budget (readText first) fun text => budget + (Text.encode text).length := by
  apply (Takes.untagged first).bind
  intro first
  split
  · exact .textString _
  · exact .throw _

theorem takes_readOptionalText (first : Token) :
    Takes budget (readOptionalText first) fun value =>
      budget + Kind.optionalText.size value := by
  unfold readOptionalText
  split
  · exact .pure (Nat.le_refl _)
  · exact .pure (Nat.le_refl _)
  · exact .map (takes_readText first)

theorem takes_statusNamed (name : Bytes) :
    Takes budget (statusNamed name) fun _ => budget := by
  unfold statusNamed
  split
  · exact .pure (Nat.le_refl _)
  · split
    · exact .pure (Nat.le_refl _)
    · exact .throw _

theorem takes_statusName (first : Token) :
    Takes budget (shortName first >>= statusNamed) fun _ => budget := by
  apply ((Takes.shortName first).weaken fun _ => Nat.le_add_right _ _).bind
  intro name
  exact takes_statusNamed name

theorem takes_readStatus (first : Token) :
    Takes budget (readStatus first) fun _ => budget := by
  apply (Takes.untagged first).bind
  intro first
  split
  · exact (Takes.token.weaken fun _ => Nat.le_succ _).bind fun key => takes_statusName key
  · exact Takes.offset.bind fun _ => takes_statusName _
  · exact .throw _

/-- A value that is read holds no more than its bytes. -/
theorem Kind.takes (kind : Kind) (first : Token) :
    Takes budget (kind.read first) fun value => budget + kind.size value := by
  cases kind with
  | bytes => exact takes_readBytes first
  | text => exact takes_readText first
  | optionalText => exact takes_readOptionalText first
  | word32 => exact .word32 first
  | status => exact takes_readStatus first

end Values

def Field.nameSize (field : Field) : Nat := (Text.encode field.name).length

namespace Schema

/-- The bytes that the values in the slots hold, and the names they were found under. -/
def slotsSize : (schema : Schema) → schema.Slots → Nat
  | [], _ => 0
  | field :: fields, (slot, slots) =>
    slot.elim 0 (fun value => field.nameSize + field.kind.size value) + slotsSize fields slots

/-- The bytes that the values of a record hold. -/
def recordSize : (schema : Schema) → schema.Record → Nat
  | [], _ => 0
  | field :: fields, (value, values) => field.kind.size value + recordSize fields values

/-- The bytes of the names that have to be in the input. -/
def due : Schema → Nat
  | [] => 0
  | field :: fields => field.absent.elim field.nameSize (fun _ => 0) + due fields

/-- The bytes that a record may hold without having them from the input. -/
def spare : Schema → Nat
  | [] => 0
  | field :: fields => field.absent.elim 0 field.kind.size + spare fields

theorem slotsSize_noSlots (schema : Schema) : schema.slotsSize schema.noSlots = 0 := by
  induction schema with
  | nil => rfl
  | cons field fields ih => simp [noSlots, slotsSize, ih]

/-- The name of an entry is used up: by the slot that is filled, or by nothing. -/
theorem takes_fill (schema : Schema) (name : Bytes) (slots : schema.Slots) (budget : Nat) :
    Takes (budget + schema.slotsSize slots + name.length) (schema.fill name slots)
      fun slots => budget + schema.slotsSize slots := by
  induction schema generalizing budget with
  | nil =>
    apply Takes.token.bind
    intro first
    apply (Takes.skip _ _ first).bind
    intro _
    apply Takes.pure
    simp only [slotsSize]
    omega
  | cons field fields ih =>
    obtain ⟨slot, slots⟩ := slots
    unfold fill
    split
    · rename_i hname
      cases slot with
      | some _ => exact .throw _
      | none =>
        apply Takes.token.bind
        intro first
        apply (field.kind.takes first).bind
        intro value
        apply Takes.pure
        simp only [slotsSize, Option.elim, hname, Field.nameSize]
        omega
    · -- The slot of this field is part of the budget of the others.
      have hrest := ih slots
        (budget + slot.elim 0 fun value => field.nameSize + field.kind.size value)
      apply (hrest.allow ?_).bind
      · intro slots
        apply Takes.pure
        simp only [slotsSize]
        omega
      · simp only [slotsSize]
        omega

/-- An entry that fills a slot has brought the bytes of its name and of its value. -/
theorem takes_readEntry (schema : Schema) (first : Token) (slots : schema.Slots) (budget : Nat) :
    Takes (budget + schema.slotsSize slots + 1) (schema.readEntry first slots)
      fun slots => budget + schema.slotsSize slots := by
  apply (Takes.shortName first).bind
  intro name
  exact (schema.takes_fill name slots budget).allow (by omega)

/-- The value of a field is the one in its slot, which was found under a name, or the one that its
absence stands for, and then no name is due. -/
theorem size_of_slot {field : Field} {slot : Option field.kind.Value} {value : field.kind.Value}
    (h : slot.or field.absent = some value) :
    field.kind.size value + field.absent.elim field.nameSize (fun _ => 0) ≤
      slot.elim 0 (fun value => field.nameSize + field.kind.size value) +
        field.absent.elim 0 field.kind.size := by
  cases slot with
  | some own =>
    cases h
    cases field.absent <;> simp only [Option.elim] <;> omega
  | none =>
    rw [Option.none_or] at h
    rw [h]
    simp only [Option.elim]
    omega

/-- A complete record holds what is in the slots, without the names, and what fields that were left
out stand for. -/
theorem recordSize_of_complete {schema : Schema} {slots : schema.Slots} {record : schema.Record}
    (h : schema.complete slots = .ok record) :
    schema.recordSize record + schema.due ≤ schema.slotsSize slots + schema.spare := by
  induction schema with
  | nil => exact Nat.le_refl 0
  | cons field fields ih =>
    obtain ⟨slot, slots⟩ := slots
    rw [complete] at h
    split at h
    · rename_i value hvalue
      cases hrest : complete fields slots with
      | error e =>
        rw [hrest] at h
        cases h
      | ok values =>
        rw [hrest] at h
        cases h
        have hfield := size_of_slot hvalue
        have hfields := ih hrest
        simp only [recordSize, due, slotsSize, spare]
        omega
    · cases h

/-- A record is read from the bytes at the front of the input, and holds less than they are. -/
theorem takes_read (schema : Schema) :
    Takes schema.spare schema.read fun record => schema.recordSize record + schema.due + 1 := by
  apply Takes.token.bind
  intro first
  apply (Takes.untagged first).bind
  intro first
  split
  · rename_i count hcount
    have hslots : Takes (schema.spare + 1) (Cbor.entries count schema.readEntry schema.noSlots)
        fun slots => schema.spare + 1 + schema.slotsSize slots := by
      have hentries := Takes.entries (m := fun slots => schema.spare + 1 + schema.slotsSize slots)
        (fun first slots => schema.takes_readEntry first slots (schema.spare + 1))
      simpa [slotsSize_noSlots] using hentries count schema.noSlots
    apply hslots.bind
    intro slots
    apply Takes.lift
    intro record hrecord
    have hle := recordSize_of_complete hrecord
    omega
  · exact .throw _

/-- What an input is read as is read from the bytes at its front. -/
theorem reads_of_decode {schema : Schema} {input : Bytes} {record : schema.Record}
    (h : schema.decode input = .ok record) :
    ∃ bytes tail, input = bytes ++ tail ∧ Reads 0 bytes schema.read record ∧
      schema.recordSize record + schema.due < schema.spare + bytes.length := by
  unfold decode at h
  cases hread : schema.read (.ofBytes input) with
  | error e =>
    rw [hread] at h
    cases h
  | ok result =>
    rw [hread] at h
    cases h
    exact schema.takes_read 0 input result.1 result.2 hread

end Schema

/-- A message is made of a record that was read from the front of the input. -/
theorem taken_of_decode {M : Type} [Format M] {input : Bytes} {m : M}
    (h : decode M input = .ok m) :
    ∃ bytes tail record, input = bytes ++ tail ∧
      Reads 0 bytes (Format.schema M).read record ∧ Format.ofRecord record = .ok m ∧
      (Format.schema M).recordSize record + (Format.schema M).due <
        (Format.schema M).spare + bytes.length := by
  by_cases hfit : input.length ≤ maxSize
  · rw [decode_eq_bind hfit] at h
    cases hrecord : (Format.schema M).decode input with
    | error e =>
      rw [hrecord] at h
      cases h
    | ok record =>
      rw [hrecord] at h
      obtain ⟨bytes, tail, heq, hreads, hsize⟩ := Schema.reads_of_decode hrecord
      exact ⟨bytes, tail, record, heq, hreads, h, hsize⟩
  · rw [decode, fit, if_pos (Nat.lt_of_not_le hfit)] at h
    cases h

end DerivationPool.Message

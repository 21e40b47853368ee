import DerivationPool.Message.Formats
import DerivationPool.Proofs.Cbor.Bounds
import DerivationPool.Proofs.Message.Entries

/-!
How long the text can get that says why a message was not read. Complaints name fields
and never what was found in them, unless a field is one that picks from a list of names;
a message without such fields has complaints of bounded length, whatever its bytes.
-/
namespace DerivationPool.Message

open Cbor

/-- No field picks from a list of names, and the names of the fields are not long. -/
def Schema.Plain (schema : Schema) : Prop :=
  ∀ field ∈ schema, field.kind ≠ .status ∧ field.name.length ≤ 64

section Stays

variable {last : Nat} {first : Token}

theorem stays_readByteArray (count : Option Nat) :
    Stays last (readByteArray count) fun _ => True :=
  .map _ (.entries (fun _ _ hfirst _ => .map _ ((Stays.word8 hfirst).mono fun _ _ => trivial)) count
    trivial)

theorem stays_readBytes (hfirst : first.Bounded last) :
    Stays last (readBytes first) fun _ => True := by
  refine (Stays.untagged hfirst).bind fun first hfirst => ?_
  split
  · exact .byteString _
  · exact stays_readByteArray _
  · exact .throw hfirst.head

theorem stays_readText (hfirst : first.Bounded last) :
    Stays last (readText first) fun _ => True := by
  refine (Stays.untagged hfirst).bind fun first hfirst => ?_
  split
  · exact .textString _
  · exact .throw hfirst.head

theorem stays_readOptionalText (hfirst : first.Bounded last) :
    Stays last (readOptionalText first) fun _ => True := by
  unfold readOptionalText
  split
  · exact .pure trivial
  · exact .pure trivial
  · exact .map _ (stays_readText hfirst)

theorem stays_kind {kind : Kind} (hkind : kind ≠ .status) (hfirst : first.Bounded last) :
    Stays last (kind.read first) fun _ => True := by
  cases kind with
  | bytes => exact stays_readBytes hfirst
  | text => exact stays_readText hfirst
  | optionalText => exact stays_readOptionalText hfirst
  | word32 => exact .word32 hfirst
  | status => exact absurd rfl hkind

namespace Schema

variable {schema : Schema}

theorem stays_fill (hplain : schema.Plain) (name : Bytes) (slots : schema.Slots) :
    Stays last (schema.fill name slots) fun _ => True := by
  induction schema with
  | nil =>
    exact Stays.token.bind fun _ hfirst => (Stays.skip _ hfirst).bind fun _ _ => .pure trivial
  | cons field fields ih =>
    obtain ⟨slot, slots⟩ := slots
    obtain ⟨hkind, hname⟩ := hplain field List.mem_cons_self
    unfold fill
    split
    · cases slot with
      | some _ => exact .throw hname
      | none =>
        exact Stays.token.bind fun _ hfirst =>
          (stays_kind hkind hfirst).bind fun _ _ => .pure trivial
    · exact (ih (fun other hother => hplain other (.tail _ hother)) slots).bind fun _ _ =>
        .pure trivial

theorem bounded_complete (hplain : schema.Plain) {slots : schema.Slots} {e : Cbor.Error}
    (h : schema.complete slots = .error e) : e.Bounded last := by
  induction schema with
  | nil => cases h
  | cons field fields ih =>
    obtain ⟨slot, slots⟩ := slots
    rw [complete] at h
    split at h
    · cases hrest : complete fields slots with
      | error e' =>
        rw [hrest] at h
        cases h
        exact ih (fun other hother => hplain other (.tail _ hother)) hrest
      | ok values =>
        rw [hrest] at h
        cases h
    · cases h
      exact (hplain field List.mem_cons_self).2

/-- Reading a record of a plain schema complains only of what is bounded. -/
theorem stays_read (hplain : schema.Plain) : Stays last schema.read fun _ => True := by
  refine Stays.token.bind fun first hfirst => (Stays.untagged hfirst).bind fun first hfirst => ?_
  have hentry : ∀ (first : Token) (slots : schema.Slots), first.Bounded last → True →
      Stays last (schema.readEntry first slots) fun _ => True := fun first slots hfirst _ =>
    (Stays.shortName hfirst).bind fun name _ => stays_fill hplain name slots
  split
  · exact (Stays.entries hentry _ trivial).bind fun slots _ =>
      .lift fun e => bounded_complete hplain
  · exact .throw hfirst.head

/-- So does decoding, whose complaints are about places in the input. -/
theorem bounded_decode (hplain : schema.Plain) {input : Bytes} {e : Cbor.Error}
    (h : schema.decode input = .error e) : e.Bounded input.length := by
  have hread := stays_read hplain (.ofBytes input) (Nat.zero_add input.length)
  unfold decode at h
  cases hrun : schema.read (.ofBytes input) with
  | ok result =>
    rw [hrun] at h
    cases h
  | error e' =>
    rw [hrun] at h hread
    cases h
    exact hread

end Schema

end Stays

theorem plain_jobRequest : (Format.schema JobRequest).Plain := by
  unfold Schema.Plain
  decide

/-- A request that is not read is complained of in so many bytes at most. -/
theorem length_error_jobRequest {input : Bytes} (hfit : input.length ≤ maxSize) {e : MessageError}
    (h : decode JobRequest input = .error e) : (Text.encode e.text).length ≤ 52480 := by
  rw [decode_eq_bind hfit] at h
  cases hread : (Format.schema JobRequest).decode input with
  | ok record =>
    have hrecord : Format.ofRecord record = .ok (JobRequest.mk record.1 record.2.1) := rfl
    simp only [hread, Except.mapError, Except.bind, hrecord] at h
    cases h
  | error e' =>
    simp only [hread, Except.mapError, Except.bind, Except.error.injEq] at h
    subst h
    have hbounded : e'.Bounded input.length := Schema.bounded_decode plain_jobRequest hread
    have hlength : e'.text.length ≤ 13100 :=
      hbounded.length_text_le (Nat.lt_of_le_of_lt hfit (by decide))
    have hfront : "CBOR decode failed: ".length = 20 := rfl
    calc (Text.encode (MessageError.ofCbor e').text).length
        ≤ 4 * ("CBOR decode failed: " ++ e'.text).length := Text.length_encode_le _
      _ = 4 * (20 + e'.text.length) := by rw [String.length_append, hfront]
      _ ≤ 52480 := by omega

end DerivationPool.Message

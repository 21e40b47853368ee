import DerivationPool.Message.Schema
import DerivationPool.Proofs.Cbor.Reading

/-!
Messages read from entries in any order. A map on the wire lists entries under text
keys; a schema takes those that it knows, by their kinds, and passes over the others.
What is assumed of the entries is `Lists`, and what comes of them is told by looking
their names up: a record, or the complaint about a name that is there twice or not at
all. Entries that were taken stay where they are in the slots of the schema, so the
induction is on the entries that are still to come.
-/
namespace DerivationPool.Message

open Cbor

/-! ### Values -/

/-- The value of a kind that an item stands for. -/
def Kind.ofItem? : (kind : Kind) → Item → Option kind.Value
  | bytes, .bytes value => some value
  | text, .text value => some value
  | optionalText, .text value => some (some value)
  | optionalText, .null => some none
  | word32, .unsigned n => if n < 1 <<< 32 then some (UInt32.ofNat n) else none
  | status, .text name =>
    if name = Status.ok.name then some Status.ok
    else if name = Status.failed.name then some Status.failed
    else none
  | _, _ => none

section Values

variable {α : Type} {start : Nat}

theorem reads_bytes_item {content head : Bytes} {next : Token → Read α} {value : α}
    (hhead : WrittenHead 2 content.length head)
    (hnext : ∀ behind, Reads behind content (next ⟨.bytes (some content.length), start⟩) value) :
    Reads start (head ++ content) (token >>= next) value :=
  (Reads.token start (by decide) hhead rfl).bind (hnext _)

theorem reads_text_item {text : String} {head : Bytes} {next : Token → Read α} {value : α}
    (hhead : WrittenHead 3 (Text.encode text).length head)
    (hnext : ∀ behind, Reads behind (Text.encode text)
      (next ⟨.text (some (Text.encode text).length), start⟩) value) :
    Reads start (head ++ Text.encode text) (token >>= next) value :=
  (Reads.token start (by decide) hhead rfl).bind (hnext _)

theorem reads_readBytes (behind origin : Nat) (bytes : Bytes) :
    Reads behind bytes (readBytes ⟨.bytes (some bytes.length), origin⟩) bytes :=
  (Reads.dropTags behind _ (by simp)).nil_bind (Reads.byteString behind bytes)

theorem reads_readText (behind origin : Nat) (text : String) :
    Reads behind (Text.encode text) (readText ⟨.text (some (Text.encode text).length), origin⟩)
      text :=
  (Reads.dropTags behind _ (by simp)).nil_bind (Reads.textString behind text)

theorem reads_statusNamed (behind : Nat) (status : Status) :
    Reads behind [] (statusNamed (Text.encode status.name)) status := by
  cases status with
  | ok => exact Reads.pure behind Status.ok
  | failed =>
    have hne : Text.encode Status.failed.name ≠ Text.encode Status.ok.name := by decide
    rw [statusNamed, if_neg hne, if_pos rfl]
    exact Reads.pure behind Status.failed

theorem reads_readStatus (behind origin : Nat) (status : Status) :
    Reads behind (Text.encode status.name)
      (readStatus ⟨.text (some (Text.encode status.name).length), origin⟩) status := by
  have hshort : (Text.encode status.name).length ≤ shortSize := by
    cases status <;> decide
  refine (Reads.dropTags behind _ (by simp)).nil_bind ?_
  refine (Reads.offset behind).nil_bind ?_
  exact (Reads.shortName behind status.name _ hshort).bind_nil (reads_statusNamed _ status)

/-- A text that stands for a status is its name. -/
theorem eq_name_of_ofItem? {name : String} {value : Status}
    (h : Kind.status.ofItem? (.text name) = some value) : name = value.name := by
  simp only [Kind.ofItem?] at h
  split at h
  · rename_i hname
    cases h
    exact hname
  · split at h
    · rename_i hname
      cases h
      exact hname
    · cases h

/-- An item that stands for a value is read as that value. -/
theorem Kind.reads (kind : Kind) {value : kind.Value} {item : Item} {bytes : Bytes}
    (hitem : kind.ofItem? item = some value) (hwritten : Written item bytes) :
    Reads start bytes (token >>= kind.read) value := by
  cases kind with
  | bytes =>
    cases hwritten with
    | bytes hhead =>
      cases hitem
      exact reads_bytes_item hhead fun behind => reads_readBytes behind start _
    | _ => cases hitem
  | text =>
    cases hwritten with
    | text hhead =>
      cases hitem
      exact reads_text_item hhead fun behind => reads_readText behind start _
    | _ => cases hitem
  | optionalText =>
    cases hwritten with
    | text hhead =>
      cases hitem
      exact reads_text_item hhead fun behind => (reads_readText behind start _).map some
    | null =>
      cases hitem
      exact (Reads.null start).bind_nil (Reads.pure _ none)
    | _ => cases hitem
  | word32 =>
    cases hwritten with
    | @unsigned n _ hhead =>
      simp only [ofItem?, Option.ite_none_right_eq_some, Option.some.injEq] at hitem
      obtain ⟨hn, rfl⟩ := hitem
      have hword := Reads.word32 (start + bytes.length) start (UInt32.ofNat n)
      rw [UInt32.toNat_ofNat_of_lt' hn] at hword
      exact (Reads.token start (by decide) hhead rfl).bind_nil hword
    | _ => cases hitem
  | status =>
    cases hwritten with
    | text hhead =>
      rw [eq_name_of_ofItem? hitem] at hhead ⊢
      exact reads_text_item hhead fun behind => reads_readStatus behind start value
    | _ => cases hitem

end Values

namespace Schema

/-! ### Entries -/

def names (schema : Schema) : List String := schema.map Field.name

/-- An entry that a schema can take: under the name of a field it stands for a value of the field's
kind, and under any other it is nested no deeper than may be passed over. -/
structure Admits (schema : Schema) (name : String) (item : Item) : Prop where
  known : ∀ field ∈ schema, field.name = name → (field.kind.ofItem? item).isSome
  unknown : name ∉ schema.names → item.depth ≤ fieldNesting

/-- The slots that entries fill. -/
def gathered : (schema : Schema) → List (String × Item) → schema.Slots
  | [], _ => ()
  | field :: fields, entries =>
    ((entries.lookup field.name).bind field.kind.ofItem?, gathered fields entries)

/-- The names in entries that a schema knows, as often as they are there. -/
def known (schema : Schema) (entries : List (String × Item)) : List String :=
  (entries.map Prod.fst).filter (· ∈ schema.names)

variable {schema : Schema} {entries before : List (String × Item)} {name : String} {item : Item}
  {bytes : Bytes}

theorem gathered_nil (schema : Schema) : schema.gathered [] = schema.noSlots := by
  induction schema with
  | nil => rfl
  | cons field fields ih =>
    rw [gathered, ih]
    rfl

theorem lookup_concat_of_ne {other : String} (hne : name ≠ other) :
    (entries ++ [(name, item)]).lookup other = entries.lookup other := by
  have hbeq : (other == name) = false := by simpa using hne.symm
  rw [List.lookup_append, List.lookup_cons, hbeq]
  simp

theorem gathered_concat_of_notMem (hname : name ∉ schema.names) :
    schema.gathered (entries ++ [(name, item)]) = schema.gathered entries := by
  induction schema with
  | nil => rfl
  | cons field fields ih =>
    rw [names, List.map_cons, List.mem_cons, not_or] at hname
    rw [gathered, gathered, lookup_concat_of_ne hname.1, ih hname.2]

/-- The value of a field goes into its slot, -/
theorem reads_fill_own {start : Nat} {field : Field} {fields : Schema} {value : field.kind.Value}
    (hitem : field.kind.ofItem? item = some value) (hwritten : Written item bytes)
    (slots : fields.Slots) :
    Reads start bytes
      (fill (field :: fields) (Text.encode field.name) (none, slots)) (some value, slots) := by
  have hread := (Kind.reads field.kind hitem hwritten : Reads start _ _ _)
  have hfill := hread.map fun value => ((some value, slots) : Slots (field :: fields))
  rw [map_eq_pure_bind, bind_assoc] at hfill
  simpa [fill] using hfill

/-- and that of another is left to the rest of the schema. -/
theorem reads_fill_other {start : Nat} {field : Field} {fields : Schema}
    {slot : Option field.kind.Value} {slots slots' : fields.Slots} (hne : name ≠ field.name)
    (h : Reads start bytes (fill fields (Text.encode name) slots) slots') :
    Reads start bytes (fill (field :: fields) (Text.encode name) (slot, slots))
      (slot, slots') := by
  have hencode : Text.encode name ≠ Text.encode field.name :=
    fun heq => hne (Text.encode_injective heq)
  have hfill := h.map fun slots => ((slot, slots) : Slots (field :: fields))
  simpa [fill, hencode] using hfill

/-- An entry is taken if no other of its name was taken before. -/
theorem reads_fill (hdistinct : schema.names.Nodup) (hadmits : schema.Admits name item)
    (hnew : name ∈ schema.names → before.lookup name = none) (hwritten : Written item bytes)
    (start : Nat) :
    Reads start bytes (schema.fill (Text.encode name) (schema.gathered before))
      (schema.gathered (before ++ [(name, item)])) := by
  induction schema with
  | nil =>
    rw [fill, ← bind_assoc]
    exact (Reads.skip start item hwritten (hadmits.unknown List.not_mem_nil)).bind_nil
      (Reads.pure _ _)
  | cons field fields ih =>
    obtain ⟨hfield, hdistinct⟩ := List.nodup_cons.mp hdistinct
    by_cases hname : name = field.name
    · subst hname
      obtain ⟨value, hvalue⟩ :=
        Option.isSome_iff_exists.mp (hadmits.known field List.mem_cons_self rfl)
      have hnone := hnew List.mem_cons_self
      rw [gathered, gathered, gathered_concat_of_notMem hfield, List.lookup_append, hnone]
      simpa [hvalue] using reads_fill_own hvalue hwritten (gathered fields before)
    · rw [gathered, gathered, lookup_concat_of_ne hname]
      refine reads_fill_other hname (ih hdistinct ⟨?_, ?_⟩ fun h => hnew (.tail _ h))
      · exact fun other hother => hadmits.known other (.tail _ hother)
      · intro hnot
        exact hadmits.unknown (List.not_mem_cons_of_ne_of_not_mem hname hnot)

/-- An entry of a name that was taken before is refused. -/
theorem refuses_fill (hdistinct : schema.names.Nodup) {taken : Item}
    (hadmits : schema.Admits name taken) (hname : name ∈ schema.names)
    (htaken : before.lookup name = some taken) (start : Nat) (bytes : Bytes) :
    Refuses start bytes (schema.fill (Text.encode name) (schema.gathered before))
      (.duplicateField name) := by
  induction schema with
  | nil => cases hname
  | cons field fields ih =>
    obtain ⟨hfield, hdistinct⟩ := List.nodup_cons.mp hdistinct
    by_cases heq : name = field.name
    · subst heq
      obtain ⟨value, hvalue⟩ :=
        Option.isSome_iff_exists.mp (hadmits.known field List.mem_cons_self rfl)
      intro tail
      simp [gathered, fill, htaken, hvalue]
      rfl
    · have hencode : Text.encode name ≠ Text.encode field.name :=
        fun h => heq (Text.encode_injective h)
      have hmem : name ∈ names fields := (List.mem_cons.mp hname).resolve_left heq
      have hrest := ih hdistinct ⟨fun other hother => hadmits.known other (.tail _ hother),
        fun hnot => absurd hmem hnot⟩ hmem
      have hbind : Refuses start bytes (fill fields (Text.encode name) (gathered fields before) >>=
          fun slots => pure ((gathered (field :: fields) before).1, slots))
          (.duplicateField name) := hrest.bind
      simpa [gathered, fill, hencode] using hbind

def keyed (entries : List (String × Item)) : List (Item × Item) :=
  entries.map fun e => (.text e.1, e.2)

/-- A short key is taken as a name, whatever the width of its head. -/
theorem reads_key {start : Nat} {head : Bytes}
    (hhead : WrittenHead 3 (Text.encode name).length head)
    (hshort : (Text.encode name).length ≤ shortSize) :
    Reads start (head ++ Text.encode name) (token >>= shortName) (Text.encode name) :=
  (Reads.token start (by decide) hhead rfl).bind (Reads.shortName _ name start hshort)

theorem counted_readEntry (schema : Schema) (count : Nat) (slots : schema.Slots) :
    counted schema.readEntry (count + 1) slots =
      ((token >>= shortName) >>= fun name => schema.fill name slots) >>=
        counted schema.readEntry count := by
  simp only [counted, readEntry, bind_assoc]

section First

variable {start count : Nat} {head rest : Bytes} {slots slots' last : schema.Slots}
  {e : Cbor.Error} (hhead : WrittenHead 3 (Text.encode name).length head)
  (hshort : (Text.encode name).length ≤ shortSize)

include hhead hshort

/-- The first entry is taken, and then the others, -/
theorem reads_first
    (hfill : ∀ start, Reads start bytes (schema.fill (Text.encode name) slots) slots')
    (hrest : ∀ start, Reads start rest (counted schema.readEntry count slots') last) :
    Reads start (head ++ Text.encode name ++ bytes ++ rest)
      (counted schema.readEntry (count + 1) slots) last := by
  rw [counted_readEntry]
  exact ((reads_key hhead hshort).bind (hfill _)).bind (hrest _)

/-- or it is taken and the others are not, -/
theorem refuses_later
    (hfill : ∀ start, Reads start bytes (schema.fill (Text.encode name) slots) slots')
    (hrest : ∀ start, Refuses start rest (counted schema.readEntry count slots') e) :
    Refuses start (head ++ Text.encode name ++ bytes ++ rest)
      (counted schema.readEntry (count + 1) slots) e := by
  rw [counted_readEntry]
  exact ((reads_key hhead hshort).bind (hfill _)).bind_refuses (hrest _)

/-- or it is not taken itself. -/
theorem refuses_first (hfill : ∀ start, Refuses start bytes
    (schema.fill (Text.encode name) slots) e) :
    Refuses start (head ++ Text.encode name ++ bytes ++ rest)
      (counted schema.readEntry (count + 1) slots) e := by
  rw [counted_readEntry]
  exact (((reads_key hhead hshort).bind_refuses (hfill _)).append rest).bind

end First

theorem lookup_eq_none_of_notMem (h : name ∉ before.map Prod.fst) : before.lookup name = none := by
  rw [List.lookup_eq_none_iff]
  intro e he
  have hne : name ≠ e.1 := fun heq => h (heq ▸ List.mem_map_of_mem he)
  simpa using hne

theorem lookup_of_mem (h : name ∈ before.map Prod.fst) :
    ∃ item, before.lookup name = some item ∧ (name, item) ∈ before := by
  obtain ⟨item, hitem⟩ : ∃ item, before.lookup name = some item := by
    rw [← Option.isSome_iff_exists, List.lookup_isSome_iff]
    obtain ⟨e, he, rfl⟩ := List.mem_map.mp h
    exact ⟨e, he, beq_self_eq_true _⟩
  refine ⟨item, hitem, ?_⟩
  obtain ⟨front, back, rfl, -⟩ := List.lookup_eq_some_iff.mp hitem
  exact List.mem_append_right _ List.mem_cons_self

theorem mem_known : name ∈ schema.known entries ↔
    name ∈ entries.map Prod.fst ∧ name ∈ schema.names := by
  simp [known]

theorem known_append (schema : Schema) (before entries : List (String × Item)) :
    schema.known (before ++ entries) = schema.known before ++ schema.known entries := by
  simp [known]

/-- One more entry repeats no known name if its own is new. -/
theorem nodup_known_concat {schema : Schema} {e : String × Item}
    (honce : (schema.known before).Nodup) (hnew : e.1 ∉ schema.known before) :
    (schema.known (before ++ [e])).Nodup := by
  rw [known_append, List.nodup_append]
  refine ⟨honce, (List.pairwise_singleton _ e.1).filter _, ?_⟩
  rintro a ha b hb rfl
  obtain ⟨hb, -⟩ := mem_known.mp hb
  rw [List.map_singleton, List.mem_singleton] at hb
  exact hnew (hb ▸ ha)

/-- Entries are taken one after the other, -/
theorem reads_entries (before : List (String × Item)) (hdistinct : schema.names.Nodup)
    (hadmits : ∀ e ∈ entries, schema.Admits e.1 e.2)
    (hshort : ∀ e ∈ entries, (Text.encode e.1).length ≤ shortSize)
    (honce : (schema.known (before ++ entries)).Nodup)
    (hwritten : WrittenEntries (keyed entries) bytes) (start : Nat) :
    Reads start bytes (counted schema.readEntry entries.length (schema.gathered before))
      (schema.gathered (before ++ entries)) := by
  induction entries generalizing before bytes start with
  | nil =>
    cases hwritten
    rw [List.append_nil]
    exact Reads.pure start _
  | cons e entries ih =>
    cases hwritten with
    | cons hkey hvalue hrest =>
    cases hkey with
    | text hhead =>
    have hnew : e.1 ∈ schema.names → before.lookup e.1 = none := by
      intro hname
      refine lookup_eq_none_of_notMem fun hmem => ?_
      rw [known_append, List.nodup_append] at honce
      have hlater : e.1 ∈ schema.known (e :: entries) :=
        mem_known.mpr ⟨List.mem_cons_self, hname⟩
      exact honce.2.2 e.1 (mem_known.mpr ⟨hmem, hname⟩) e.1 hlater rfl
    have hfill := reads_fill hdistinct (hadmits e List.mem_cons_self) hnew hvalue
    rw [List.append_cons] at honce ⊢
    exact reads_first hhead (hshort e List.mem_cons_self) hfill
      (ih _ (fun e he => hadmits e (.tail _ he)) (fun e he => hshort e (.tail _ he)) honce hrest)

/-- until a name comes that was taken before. -/
theorem refuses_entries (before : List (String × Item)) (hdistinct : schema.names.Nodup)
    (hbefore : ∀ e ∈ before, schema.Admits e.1 e.2)
    (hadmits : ∀ e ∈ entries, schema.Admits e.1 e.2)
    (hshort : ∀ e ∈ entries, (Text.encode e.1).length ≤ shortSize)
    (honce : (schema.known before).Nodup) (htwice : ¬ (schema.known (before ++ entries)).Nodup)
    (hwritten : WrittenEntries (keyed entries) bytes) :
    ∃ name ∈ schema.names, ∀ start,
      Refuses start bytes (counted schema.readEntry entries.length (schema.gathered before))
        (.duplicateField name) := by
  induction entries generalizing before bytes with
  | nil =>
    rw [List.append_nil] at htwice
    exact absurd honce htwice
  | cons e entries ih =>
    cases hwritten with
    | cons hkey hvalue hrest =>
    cases hkey with
    | text hhead =>
    have hshort' := hshort e List.mem_cons_self
    have hadmits' := hadmits e List.mem_cons_self
    by_cases hmem : e.1 ∈ schema.known before
    · obtain ⟨hmem, hname⟩ := mem_known.mp hmem
      obtain ⟨taken, htaken, hin⟩ := lookup_of_mem hmem
      refine ⟨e.1, hname, fun _ => refuses_first hhead hshort' fun start => ?_⟩
      exact refuses_fill hdistinct (hbefore _ hin) hname htaken start _
    · have hnew : e.1 ∈ schema.names → before.lookup e.1 = none := fun hname =>
        lookup_eq_none_of_notMem fun hin => hmem (mem_known.mpr ⟨hin, hname⟩)
      have hfill := reads_fill hdistinct hadmits' hnew hvalue
      rw [List.append_cons] at htwice
      have hbefore' : ∀ e' ∈ before ++ [e], schema.Admits e'.1 e'.2 :=
        List.forall_mem_append.mpr ⟨hbefore, by simpa using hadmits'⟩
      obtain ⟨name, hname, hrefuses⟩ := ih _ hbefore' (fun e he => hadmits e (.tail _ he))
        (fun e he => hshort e (.tail _ he)) (nodup_known_concat honce hmem) htwice hrest
      exact ⟨name, hname, fun _ => refuses_later hhead hshort' hfill hrefuses⟩

/-! ### Records -/

/-- A record holds the values that entries give: each field has the value that is listed under its
name, or the one that its absence stands for. -/
def Holds : (schema : Schema) → schema.Record → List (String × Item) → Prop
  | [], _, _ => True
  | field :: fields, (value, values), entries =>
    (match entries.lookup field.name with
      | some item => field.kind.ofItem? item = some value
      | none => field.absent = some value) ∧ Holds fields values entries

/-- Slots filled from entries that hold a record complete to that record. -/
theorem complete_gathered {schema : Schema} {record : schema.Record}
    (h : schema.Holds record entries) : schema.complete (schema.gathered entries) = .ok record := by
  induction schema with
  | nil => rfl
  | cons field fields ih =>
    obtain ⟨value, values⟩ := record
    obtain ⟨hvalue, hvalues⟩ := h
    have hslot : ((entries.lookup field.name).bind field.kind.ofItem?).or field.absent =
        some value := by
      split at hvalue
      · rename_i item hitem
        simp [hitem, hvalue]
      · rename_i hnone
        simp [hnone, hvalue]
    rw [gathered, complete, hslot]
    simp only [ih hvalues]
    rfl

/-- Whether a field is due and not listed. -/
def isMissing (entries : List (String × Item)) (field : Field) : Bool :=
  field.absent.isNone && (entries.lookup field.name).isNone

/-- The first field that is due and not listed is the one that is missed. -/
theorem complete_gathered_of_missing {schema : Schema} {missed : Field}
    (hkinds : ∀ field ∈ schema, ∀ item, entries.lookup field.name = some item →
      (field.kind.ofItem? item).isSome)
    (hmissed : schema.find? (isMissing entries) = some missed) :
    schema.complete (schema.gathered entries) = .error (.missingField missed.name) := by
  induction schema with
  | nil => cases hmissed
  | cons field fields ih =>
    rw [gathered, complete]
    cases hmissing : isMissing entries field with
    | true =>
      rw [List.find?_cons_of_pos hmissing] at hmissed
      cases hmissed
      simp only [isMissing, Bool.and_eq_true, Option.isNone_iff_eq_none] at hmissing
      rw [hmissing.1, hmissing.2]
      rfl
    | false =>
      rw [List.find?_cons_of_neg (by simp [hmissing])] at hmissed
      obtain ⟨value, hvalue⟩ : ∃ value,
          ((entries.lookup field.name).bind field.kind.ofItem?).or field.absent = some value := by
        rw [← Option.isSome_iff_exists]
        cases hlookup : entries.lookup field.name with
        | none => simpa [isMissing, hlookup, Option.isSome_iff_ne_none] using hmissing
        | some item => simp [hkinds field List.mem_cons_self item hlookup]
      rw [hvalue]
      simp only [ih (fun other hother => hkinds other (.tail _ hother)) hmissed]
      rfl

/-! ### Maps -/

/-- Bytes that list entries which a schema can take, under keys that are short enough. -/
structure Lists (schema : Schema) (entries : List (String × Item)) (bytes : Bytes) : Prop where
  written : Written (.map (keyed entries)) bytes
  short : ∀ e ∈ entries, (Text.encode e.1).length ≤ shortSize
  admits : ∀ e ∈ entries, schema.Admits e.1 e.2

theorem Lists.kinds {schema : Schema} (h : schema.Lists entries bytes) :
    ∀ field ∈ schema, ∀ item, entries.lookup field.name = some item →
      (field.kind.ofItem? item).isSome := by
  intro field hfield item hitem
  obtain ⟨front, back, rfl, -⟩ := List.lookup_eq_some_iff.mp hitem
  exact (h.admits (field.name, item) (by simp)).known field hfield rfl

section Decode

variable {schema : Schema}

theorem decode_of_reads {record : schema.Record} (h : Reads 0 bytes schema.read record)
    (tail : Bytes) : schema.decode (bytes ++ tail) = .ok record := by
  have hread : schema.read (.ofBytes (bytes ++ tail)) =
      .ok (record, readerAt (0 + bytes.length) tail) := h tail
  rw [decode, hread]
  rfl

theorem decode_of_refuses {e : Cbor.Error} (h : Refuses 0 bytes schema.read e) (tail : Bytes) :
    schema.decode (bytes ++ tail) = .error e := by
  have hread : schema.read (.ofBytes (bytes ++ tail)) = .error e := h tail
  rw [decode, hread]
  rfl

theorem read_eq (schema : Schema) :
    schema.read = (token >>= untagged) >>= fun first =>
      match first.head with
      | .map count => Cbor.entries count schema.readEntry schema.noSlots >>= fun slots =>
          liftM (schema.complete slots)
      | head => throw (.unexpected head .map) := by
  rw [bind_assoc]
  rfl

theorem reads_map {head : Bytes} {count : Nat} (hhead : WrittenHead 5 count head) :
    Reads 0 head (token >>= untagged) ⟨.map (some count), 0⟩ :=
  (Reads.token 0 (by decide) hhead rfl).bind_nil (Reads.dropTags _ _ (by simp))

/-- Entries in any order fill the slots in which their names are looked up. -/
theorem reads_gathered {content : Bytes} (hdistinct : schema.names.Nodup)
    (hadmits : ∀ e ∈ entries, schema.Admits e.1 e.2)
    (hshort : ∀ e ∈ entries, (Text.encode e.1).length ≤ shortSize)
    (honce : (schema.known entries).Nodup)
    (hentries : WrittenEntries (keyed entries) content) (start : Nat) :
    Reads start content
      (Cbor.entries (some (keyed entries).length) schema.readEntry schema.noSlots)
      (schema.gathered entries) := by
  rw [← gathered_nil, keyed, List.length_map]
  exact reads_entries [] hdistinct hadmits hshort honce hentries start

/-- A map of entries is read to its end where what was gathered is complete, -/
theorem reads_of_lists (hdistinct : schema.names.Nodup) (hlists : schema.Lists entries bytes)
    (honce : (schema.known entries).Nodup) {record : schema.Record}
    (hcomplete : schema.complete (schema.gathered entries) = .ok record) :
    Reads 0 bytes schema.read record := by
  obtain ⟨hwritten, hshort, hadmits⟩ := hlists
  cases hwritten with
  | map hhead hentries =>
  have hslots := reads_gathered hdistinct hadmits hshort honce hentries
  rw [read_eq]
  refine (reads_map hhead).bind ((hslots _).bind_nil ?_)
  rw [hcomplete]
  exact fun _ => rfl

/-- and in any case as the schema completes what it has gathered. -/
theorem decode_of_lists (hdistinct : schema.names.Nodup) (hlists : schema.Lists entries bytes)
    (honce : (schema.known entries).Nodup) (tail : Bytes) :
    schema.decode (bytes ++ tail) = schema.complete (schema.gathered entries) := by
  cases hcomplete : schema.complete (schema.gathered entries) with
  | ok record => exact decode_of_reads (reads_of_lists hdistinct hlists honce hcomplete) tail
  | error e =>
    obtain ⟨hwritten, hshort, hadmits⟩ := hlists
    cases hwritten with
    | @map _ head content hhead hentries =>
    have hslots := reads_gathered hdistinct hadmits hshort honce hentries
    refine decode_of_refuses ?_ tail
    rw [read_eq, ← List.append_nil content]
    refine (reads_map hhead).bind_refuses ((hslots _).bind_refuses ?_)
    rw [hcomplete]
    exact fun _ => rfl

/-- A map that has a known name twice is refused. -/
theorem decode_of_repeated (hdistinct : schema.names.Nodup) (hlists : schema.Lists entries bytes)
    (htwice : ¬ (schema.known entries).Nodup) (tail : Bytes) :
    ∃ name ∈ schema.names, schema.decode (bytes ++ tail) = .error (.duplicateField name) := by
  obtain ⟨hwritten, hshort, hadmits⟩ := hlists
  cases hwritten with
  | @map _ head content hhead hentries =>
  obtain ⟨name, hname, hrefuses⟩ :=
    refuses_entries [] hdistinct (by simp) hadmits hshort .nil htwice hentries
  have hslots : Refuses (0 + head.length) content
      (Cbor.entries (some (keyed entries).length) schema.readEntry schema.noSlots)
      (.duplicateField name) := by
    rw [← gathered_nil, keyed, List.length_map]
    exact hrefuses _
  refine ⟨name, hname, decode_of_refuses ?_ tail⟩
  rw [read_eq]
  exact (reads_map hhead).bind_refuses hslots.bind

end Decode

end Schema

section Format

variable {M : Type} [Format M] {entries : List (String × Item)} {bytes tail : Bytes}

/-- A message that fits is decoded in two steps: its record, and what the record stands for. -/
theorem decode_eq_bind (hfit : bytes.length ≤ maxSize) :
    decode M bytes = (((Format.schema M).decode bytes).mapError .ofCbor).bind Format.ofRecord := by
  rw [decode, (fit_eq_ok_iff _ _).mpr ⟨hfit, rfl⟩]
  rfl

/-- What comes after the bytes that a record is read from does not matter. -/
theorem decode_of_reads {record : (Format.schema M).Record}
    (hreads : Reads 0 bytes (Format.schema M).read record)
    (hfit : (bytes ++ tail).length ≤ maxSize) :
    decode M (bytes ++ tail) = Format.ofRecord record := by
  rw [decode_eq_bind hfit, Schema.decode_of_reads hreads]
  rfl

/-- A map of entries is the message that its values make up. -/
theorem decode_of_holds (hdistinct : (Format.schema M).names.Nodup)
    (hlists : (Format.schema M).Lists entries bytes)
    (honce : ((Format.schema M).known entries).Nodup) {record : (Format.schema M).Record}
    (hholds : (Format.schema M).Holds record entries) (hfit : (bytes ++ tail).length ≤ maxSize) :
    decode M (bytes ++ tail) = Format.ofRecord record :=
  decode_of_reads
    (Schema.reads_of_lists hdistinct hlists honce (Schema.complete_gathered hholds)) hfit

end Format

end DerivationPool.Message

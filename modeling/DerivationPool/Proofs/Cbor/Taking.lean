import DerivationPool.Cbor.Values
import DerivationPool.Proofs.Cbor.Reading
import DerivationPool.Proofs.Text.Length
import Mathlib.Data.List.Perm.Basic

/-!
What a reading takes, whatever the input. Whenever a reading gives a value there are
bytes at the front of its input that it has taken, it would take the same from any input
that begins with them, and the value is no larger than what was taken. `Takes` says so
of readings in a row, and so of every loop and of every item: the budget is the size of
what was read before, the size that of all that was read since.
-/
namespace DerivationPool.Cbor

variable {α β : Type}

/-- Whenever a reading gives a value, there are bytes that it takes from the front of the input
(`Reads`), and the value is not larger than the bytes and the budget together. -/
def Takes (budget : Nat) (read : Read α) (size : α → Nat) : Prop :=
  ∀ start input value next, read (readerAt start input) = .ok (value, next) →
    ∃ bytes tail, input = bytes ++ tail ∧ Reads start bytes read value ∧
      size value ≤ budget + bytes.length

theorem take?_eq_some {start n : Nat} {input bytes : Bytes} {next : Reader}
    (h : (readerAt start input).take? n = some (bytes, next)) :
    bytes.length = n ∧ ∃ tail, input = bytes ++ tail := by
  unfold Reader.take? at h
  split at h
  · rename_i hle
    have hlength : n ≤ input.length := hle
    cases h
    constructor
    · exact List.length_take_of_le hlength
    · exact ⟨input.drop n, (List.take_append_drop n input).symm⟩
  · cases h

theorem run_bind_of_ok {read : Read α} {r next : Reader} {a : α} (h : read r = .ok (a, next))
    (rest : α → Read β) : (read >>= rest) r = rest a next := by
  simp only [Bind.bind, StateT.bind, h, Except.bind]

theorem run_bind_of_error {read : Read α} {r : Reader} {e : Error} (h : read r = .error e)
    (rest : α → Read β) : (read >>= rest) r = .error e := by
  simp only [Bind.bind, StateT.bind, h, Except.bind]

/-- From the front of one input only one value is read, and from one part of it. -/
theorem Reads.unique {start : Nat} {read : Read α} {first second tail tail' : Bytes}
    {value value' : α} (hfirst : Reads start first read value)
    (hsecond : Reads start second read value') (heq : first ++ tail = second ++ tail') :
    first = second ∧ value = value' := by
  have hread := hfirst tail
  rw [heq, hsecond tail', Except.ok.injEq, Prod.mk.injEq] at hread
  obtain ⟨hvalue, hnext⟩ := hread
  have htail : tail' = tail := congrArg Reader.rest hnext
  rw [htail] at heq
  constructor
  · exact List.append_cancel_right heq
  · exact hvalue.symm

/-- A loop whose first turn is not its last takes bytes in that turn. -/
theorem Reads.iterate_again {start : Nat} {first second : Bytes} {turn : α → Read (Turn α β)}
    {a a' : α} {b : β} (hturn : Reads start first (turn a) (.again a')) (hpos : 0 < first.length)
    (hrest : Reads (start + first.length) second (Cbor.iterate turn a') b) :
    Reads start (first ++ second) (Cbor.iterate turn a) b := by
  intro tail
  have hless : (readerAt (start + first.length) (second ++ tail)).left <
      (readerAt start (first ++ (second ++ tail))).left := by
    have hlength := @List.length_append _ first (second ++ tail)
    change (second ++ tail).length < (first ++ (second ++ tail)).length
    omega
  rw [Cbor.iterate, List.append_assoc, hturn (second ++ tail)]
  dsimp only
  rw [if_pos hless, hrest tail, List.length_append, Nat.add_assoc]

namespace Takes

variable {budget : Nat} {read : Read α} {m : α → Nat} {m' : β → Nat}

theorem pure {a : α} (h : m a ≤ budget) : Takes budget (Pure.pure a) m := by
  intro start input value next hread
  cases hread
  exact ⟨[], input, rfl, Reads.pure start a, h⟩

theorem throw (e : Error) : Takes budget (throw e : Read α) m := by
  intro start input value next hread
  cases hread

/-- A result that is there without reading. -/
theorem lift {result : Except Error α} (h : ∀ a, result = .ok a → m a ≤ budget) :
    Takes budget (liftM result : Read α) m := by
  intro start input value next hread
  cases result with
  | error e => cases hread
  | ok a =>
    cases hread
    exact ⟨[], input, rfl, fun _ => rfl, h _ rfl⟩

theorem bind {next : α → Read β} (h : Takes budget read m)
    (hnext : ∀ a, Takes (m a) (next a) m') : Takes budget (read >>= next) m' := by
  intro start input value last hread
  cases hrun : read (readerAt start input) with
  | error e =>
    rw [run_bind_of_error hrun] at hread
    cases hread
  | ok result =>
    obtain ⟨a, mid⟩ := result
    obtain ⟨first, rest, rfl, hfirst, hsize⟩ := h start input a mid hrun
    rw [hfirst.run_bind] at hread
    obtain ⟨second, tail, rfl, hsecond, hsize'⟩ := hnext a _ _ _ _ hread
    refine ⟨first ++ second, tail, by simp, hfirst.bind hsecond, ?_⟩
    rw [List.length_append]
    omega

theorem weaken {smaller : α → Nat} (h : Takes budget read m)
    (hle : ∀ a, smaller a ≤ m a) : Takes budget read smaller := by
  intro start input value next hread
  obtain ⟨bytes, tail, heq, hreads, hsize⟩ := h start input value next hread
  exact ⟨bytes, tail, heq, hreads, Nat.le_trans (hle value) hsize⟩

theorem allow {larger : Nat} (h : Takes budget read m) (hle : budget ≤ larger) :
    Takes larger read m := by
  intro start input value next hread
  obtain ⟨bytes, tail, heq, hreads, hsize⟩ := h start input value next hread
  exact ⟨bytes, tail, heq, hreads, by omega⟩

theorem map {f : α → β} (h : Takes budget read fun a => m' (f a)) :
    Takes budget (f <$> read) m' := by
  rw [map_eq_pure_bind]
  exact h.bind fun a => pure (Nat.le_refl _)

theorem discard {n : Nat} (h : Takes budget read fun _ => n) :
    Takes budget (Functor.discard read) fun _ => n :=
  map h

/-- A reading that takes bytes at all does not use up a budget. -/
theorem idle (h : Takes budget read m) (n : Nat) : Takes n read fun _ => n := by
  intro start input value next hread
  obtain ⟨bytes, tail, heq, hreads, -⟩ := h start input value next hread
  exact ⟨bytes, tail, heq, hreads, Nat.le_add_right _ _⟩

/-- Where there are not as many bytes as a reading takes at least, it fails. -/
theorem fails {n : Nat} (h : Takes 0 read fun _ => n) {r : Reader} (hless : r.left < n) :
    ∃ e, read r = .error e := by
  obtain ⟨rest, left, offset, rfl⟩ := r
  cases hread : read (readerAt offset rest) with
  | error e => exact ⟨e, hread⟩
  | ok result =>
    obtain ⟨bytes, tail, rfl, -, hsize⟩ := h offset rest result.1 result.2 hread
    have hlength := @List.length_append _ bytes tail
    change (bytes ++ tail).length < n at hless
    change n ≤ 0 + bytes.length at hsize
    omega

theorem take (n : Nat) :
    Takes budget (Cbor.take n) fun bytes => budget + max n bytes.length := by
  intro start input value next hread
  rw [Cbor.take] at hread
  split at hread
  · rename_i result htake
    cases hread
    obtain ⟨rfl, tail, rfl⟩ := take?_eq_some htake
    exact ⟨value, tail, rfl, Reads.take start value,
      Nat.add_le_add_left (Nat.le_of_eq (Nat.max_self _)) budget⟩
  · cases hread

theorem number (width : Nat) : Takes budget (Cbor.number width) fun _ => budget + width :=
  map ((take width).weaken fun _ => Nat.add_le_add_left (Nat.le_max_left _ _) budget)

theorem offset : Takes budget Cbor.offset fun _ => budget := by
  intro start input value next hread
  cases hread
  exact ⟨[], input, rfl, Reads.offset start, Nat.le_refl _⟩

/-! ### Heads -/

theorem number_map (width : Nat) (f : Nat → α) :
    Takes budget (f <$> Cbor.number width) fun _ => budget :=
  map ((number width).weaken fun _ => Nat.le_add_right _ _)

theorem argument (start minor : Nat) :
    Takes budget (Cbor.argument start minor) fun _ => budget := by
  unfold Cbor.argument
  split
  · exact pure (Nat.le_refl _)
  iterate 4
    split
    · exact number_map _ _
  split
  · exact pure (Nat.le_refl _)
  · exact throw _

theorem special (start minor : Nat) :
    Takes budget (Cbor.special start minor) fun _ => budget := by
  unfold Cbor.special
  split
  · exact pure (Nat.le_refl _)
  iterate 4
    split
    · exact number_map _ _
  split
  · exact pure (Nat.le_refl _)
  · exact throw _

theorem headFrom (start first : Nat) :
    Takes budget (Cbor.headFrom start first) fun _ => budget := by
  unfold Cbor.headFrom
  split
  · exact special _ _
  · apply (argument _ _).bind
    intro argument
    split
    · exact pure (Nat.le_refl _)
    · exact throw _

/-- A head takes a byte at least. -/
theorem token : Takes budget Cbor.token fun _ => budget + 1 :=
  offset.bind fun start => (number 1).bind fun first => (headFrom start first).bind fun _ =>
    pure (Nat.le_refl _)

/-! ### Loops -/

def turnSize (m : α → Nat) (m' : β → Nat) : Turn α β → Nat
  | .again a => m a
  | .done b => m' b

/-- A loop stays within its budget if every turn hands on what it has left of it. -/
theorem iterate {turn : α → Read (Turn α β)}
    (hturn : ∀ a, Takes (m a) (turn a) (turnSize m m')) (a : α) :
    Takes (m a) (Cbor.iterate turn a) m' := by
  intro start input value last hread
  -- Each turn that does not end the loop leaves less of the input.
  induction hlength : input.length using Nat.strongRecOn generalizing start input a with
  | ind length ih =>
    rw [Cbor.iterate] at hread
    cases hrun : turn a (readerAt start input) with
    | error e =>
      rw [hrun] at hread
      cases hread
    | ok result =>
      obtain ⟨result, mid⟩ := result
      obtain ⟨first, rest, rfl, hfirst, hsize⟩ := hturn a start input result mid hrun
      rw [hfirst rest] at hrun
      cases hrun
      rw [hfirst rest] at hread
      cases result with
      | done b =>
        cases hread
        exact ⟨first, rest, rfl, Reads.iterate_done hfirst, hsize⟩
      | again a' =>
        dsimp only at hread
        split at hread
        · rename_i hless
          have hshort : rest.length < (first ++ rest).length := hless
          have hpos : 0 < first.length := by
            rw [List.length_append] at hshort
            omega
          obtain ⟨second, tail, rfl, hsecond, hsize'⟩ :=
            ih rest.length (hlength ▸ hshort) a' _ rest hread rfl
          refine ⟨first ++ second, tail, by simp, hfirst.iterate_again hpos hsecond, ?_⟩
          have hagain : m a' ≤ m a + first.length := hsize
          rw [List.length_append]
          omega
        · cases hread

section Entries

variable {entry : Token → α → Read α} (hentry : ∀ first a, Takes (m a + 1) (entry first a) m)

include hentry

theorem counted (n : Nat) (a : α) : Takes (m a) (Cbor.counted entry n a) m := by
  induction n generalizing a with
  | zero => exact pure (Nat.le_refl _)
  | succ n ih => exact token.bind fun first => (hentry first a).bind fun a' => ih a'

theorem untilStop (a : α) : Takes (m a) (Cbor.untilStop entry a) m := by
  apply iterate (m := m)
  intro a
  apply token.bind
  intro first
  split
  · exact pure (Nat.le_succ _)
  · exact offset.bind fun _ => (hentry _ a).bind fun _ => pure (Nat.le_refl _)

theorem entries (count : Option Nat) (a : α) :
    Takes (m a) (Cbor.entries count entry a) m := by
  cases count with
  | some n => exact counted hentry n a
  | none => exact untilStop hentry a

end Entries

theorem dropTags (keep : Nat → Bool) (first : Token) :
    Takes budget (Cbor.dropTags keep first) fun _ => budget := by
  apply iterate (m := fun _ => budget)
  intro first
  split
  · split
    · exact pure (Nat.le_refl _)
    · exact token.bind fun _ => pure (Nat.le_succ _)
  · exact pure (Nat.le_refl _)

theorem untagged (first : Token) : Takes budget (Cbor.untagged first) fun _ => budget :=
  dropTags _ first

/-! ### Strings -/

section Segments

variable {kind : Head → Option (Option Nat)} {segment : Nat → Nat → α → Read α}
  (hsegment : ∀ start n a, Takes (m a) (segment start n a) m)

include hsegment

theorem openSegments (state : Nat × α) :
    Takes (m state.2) (Cbor.openSegments kind segment state) m := by
  apply iterate (m := fun state : Nat × α => m state.2)
  rintro ⟨depth, a⟩
  apply token.bind
  intro next
  split
  · apply pure
    split <;> exact Nat.le_succ _
  · exact pure (Nat.le_succ _)
  · exact ((hsegment _ _ a).allow (Nat.le_succ _)).bind fun _ => pure (Nat.le_refl _)
  · exact throw _

theorem segments (length : Option Nat) (a : α) :
    Takes (m a) (Cbor.segments kind segment length a) m := by
  cases length with
  | some n => exact offset.bind fun _ => hsegment _ n a
  | none => exact openSegments hsegment _

end Segments

theorem byteString (length : Option Nat) :
    Takes budget (Cbor.byteString length) fun bytes => budget + bytes.length := by
  have hparts : Takes budget
      (Cbor.segments Head.bytes? (fun _ n parts => (· :: parts) <$> Cbor.take n) length [])
      fun parts : List Bytes => budget + parts.flatten.length := by
    apply segments (m := fun parts : List Bytes => budget + parts.flatten.length)
    intro start n parts
    apply map
    apply (take n).weaken
    intro bytes
    rw [List.flatten_cons, List.length_append]
    omega
  apply map
  apply hparts.weaken
  intro parts
  rw [(List.reverse_perm parts).flatten.length_eq]

theorem textSegment (origin n : Nat) :
    Takes budget (Cbor.textSegment origin n) fun text =>
      budget + max n (Text.encode text).length := by
  intro start input value next hread
  rw [Cbor.textSegment] at hread
  split at hread
  · rename_i bytes mid htake
    obtain ⟨rfl, tail, rfl⟩ := take?_eq_some htake
    split at hread
    · rename_i text htext
      cases hread
      refine ⟨bytes, tail, rfl, ?_, ?_⟩
      · rw [← Text.encode_of_decode? htext]
        exact Reads.textSegment start origin value
      · dsimp only
        rw [Text.encode_of_decode? htext, Nat.max_self]
    · cases hread
  · cases hread

theorem textString (length : Option Nat) :
    Takes budget (Cbor.textString length) fun text => budget + (Text.encode text).length := by
  have hparts : Takes budget
      (Cbor.segments Head.text? (fun start n parts => (· :: parts) <$> Cbor.textSegment start n)
        length [])
      fun parts : List String => budget + (parts.flatMap Text.encode).length := by
    apply segments (m := fun parts : List String => budget + (parts.flatMap Text.encode).length)
    intro start n parts
    apply map
    apply (textSegment start n).weaken
    intro text
    rw [List.flatMap_cons, List.length_append]
    omega
  apply map
  apply hparts.weaken
  intro parts
  rw [Text.length_encode_join, ((List.reverse_perm parts).flatMap_right Text.encode).length_eq]

theorem shortText (start n : Nat) :
    Takes budget (Cbor.shortText start n) fun bytes => budget + bytes.length := by
  apply (take n).bind
  intro bytes
  split
  · exact pure (Nat.add_le_add_left (Nat.le_max_right _ _) budget)
  · exact throw _

theorem shortName (first : Token) :
    Takes budget (Cbor.shortName first) fun name => budget + name.length := by
  apply (untagged first).bind
  intro first
  split
  · split
    · exact shortText _ _
    · exact throw _
  · split
    · exact (take _).weaken fun _ => Nat.add_le_add_left (Nat.le_max_right _ _) budget
    · exact throw _
  · exact throw _

/-! ### Integers -/

theorem magnitudeSegment (n : Nat) (digits : Bytes) :
    Takes budget (Cbor.magnitudeSegment n digits) fun _ => budget + n := by
  intro start input value next hread
  rw [Cbor.magnitudeSegment] at hread
  split at hread
  · rename_i bytes mid htake
    obtain ⟨rfl, tail, rfl⟩ := take?_eq_some htake
    cases hextended : extendMagnitude digits bytes with
    | error e =>
      rw [hextended] at hread
      cases hread
    | ok extended =>
      rw [hextended] at hread
      cases hread
      refine ⟨bytes, tail, rfl, ?_, Nat.le_refl _⟩
      intro tail
      rw [Cbor.magnitudeSegment, take?_readerAt]
      dsimp only
      rw [hextended]
      rfl
  · generalize extendMagnitude digits _ = extended at hread
    cases extended <;> cases hread

theorem magnitude (length : Option Nat) :
    Takes budget (Cbor.magnitude length) fun _ => budget :=
  map (segments (m := fun _ => budget) (fun _ n digits =>
    (magnitudeSegment n digits).weaken fun _ => Nat.le_add_right _ _) length [])

theorem integer (first : Token) : Takes budget (Cbor.integer first) fun _ => budget := by
  apply (dropTags _ first).bind
  intro first
  split
  · exact pure (Nat.le_refl _)
  · exact pure (Nat.le_refl _)
  · apply token.bind
    intro next
    split
    · exact map ((magnitude _).weaken fun _ => Nat.le_succ _)
    · exact throw _
  · exact throw _

theorem word64 (first : Token) : Takes budget (Cbor.word64 first) fun _ => budget := by
  apply (integer first).bind
  intro i
  split
  · exact throw _
  · split
    · exact throw _
    · exact pure (Nat.le_refl _)

theorem word32 (first : Token) : Takes budget (Cbor.word32 first) fun _ => budget := by
  apply (word64 first).bind
  intro n
  split
  · exact pure (Nat.le_refl _)
  · exact throw _

theorem word8 (first : Token) : Takes budget (Cbor.word8 first) fun _ => budget := by
  apply (word64 first).bind
  intro n
  split
  · exact pure (Nat.le_refl _)
  · exact throw _

/-! ### Items that are passed over -/

theorem skipText (length : Option Nat) : Takes budget (Cbor.skipText length) fun _ => budget := by
  have hlong : Takes budget (Functor.discard (Cbor.textString length)) fun _ => budget :=
    ((textString length).weaken fun _ => Nat.le_add_right _ _).discard
  unfold Cbor.skipText
  split
  · split
    · exact offset.bind fun _ => ((shortText _ _).weaken fun _ => Nat.le_add_right _ _).discard
    · exact hlong
  · exact hlong

theorem skipMagnitude (tag n : Nat) :
    Takes budget (Cbor.skipMagnitude tag n) fun _ => budget := by
  apply (magnitude _).bind
  intro magnitude
  split
  · exact throw _
  · exact pure (Nat.le_refl _)

theorem skipWith {inside : Option (Token → Read Unit)}
    (hinside : ∀ skip ∈ inside, ∀ (budget : Nat) (first : Token),
      Takes budget (skip first) fun _ => budget) (budget : Nat) (first : Token) :
    Takes budget (Cbor.skipWith inside first) fun _ => budget := by
  unfold Cbor.skipWith
  extract_lets deeper
  have hdeeper : ∀ (available : Nat) (pass : (Token → Read Unit) → Read Unit),
      (∀ skip, (∀ (budget : Nat) (first : Token), Takes budget (skip first) fun _ => budget) →
        Takes available (pass skip) fun _ => budget) →
      Takes available (deeper pass) fun _ => budget := by
    intro available pass hpass
    cases inside with
    | none => exact throw _
    | some skip => exact hpass skip (hinside skip rfl)
  split
  case h_1 | h_2 | h_3 => exact pure (Nat.le_refl _)
  · exact ((byteString _).weaken fun _ => Nat.le_add_right _ _).discard
  · exact skipText _
  · apply hdeeper
    intro skip hskip
    exact entries (m := fun _ => budget)
      (fun first _ => (hskip budget first).allow (Nat.le_succ _)) _ ()
  · apply hdeeper
    intro skip hskip
    apply entries (m := fun _ => budget) (fun first _ => ?_)
    exact ((hskip budget first).allow (Nat.le_succ _)).bind fun _ =>
      token.bind fun next => (hskip budget next).allow (Nat.le_succ _)
  · apply token.bind
    intro next
    have hnext : Takes (budget + 1) (deeper fun skip => skip next) fun _ => budget :=
      hdeeper _ _ fun skip hskip => (hskip budget next).allow (Nat.le_succ _)
    split
    · split
      · exact (skipMagnitude _ _).weaken fun _ => Nat.le_succ _
      · exact hnext
    · exact hnext
  · split
    · exact pure (Nat.le_refl _)
    · exact throw _
  · exact throw _

theorem skip (depth budget : Nat) (first : Token) :
    Takes budget (Cbor.skip depth first) fun _ => budget := by
  induction depth generalizing budget first with
  | zero => exact skipWith (by simp) budget first
  | succ depth ih =>
    apply skipWith
    intro skip hskip budget first
    rw [← Option.some.inj hskip]
    exact ih budget first

end Takes

end DerivationPool.Cbor

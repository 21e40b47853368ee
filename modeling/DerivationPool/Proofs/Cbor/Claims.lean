import DerivationPool.Proofs.Cbor.Taking

/-!
What heads claim. A string says how many bytes it has and a container how many entries,
each of them a byte at least. No reading that comes to such a head gets by with less,
whether it keeps the value or passes over it.
-/
namespace DerivationPool.Cbor

variable {α : Type}

/-- The number of bytes that an item has at least, as its head has it: the length of a string or
the number of entries. Where the end is left open nothing is claimed. -/
def Head.claimed : Head → Nat
  | .bytes count | .text count | .array count | .map count => count.getD 0
  | _ => 0

@[simp] theorem Token.head_lookedAt (first : Token) (stop : Nat) :
    (first.lookedAt stop).head = first.head := by
  unfold lookedAt
  split <;> rfl

namespace Takes

/-- Every entry has a head, so that as many entries as are claimed take as many bytes at least. -/
theorem counted_claimed {entry : Token → α → Read α}
    (hentry : ∀ budget first a, Takes budget (entry first a) fun _ => budget) (n budget : Nat)
    (a : α) : Takes budget (Cbor.counted entry n a) fun _ => budget + n := by
  induction n generalizing budget a with
  | zero => exact pure (Nat.le_refl _)
  | succ n ih =>
    apply token.bind
    intro first
    apply (hentry _ first a).bind
    intro a
    rw [Nat.add_comm n 1, ← Nat.add_assoc]
    exact ih (budget + 1) a

/-- Each entry of a container has a head. -/
theorem entries_claimed {entry : Token → α → Read α}
    (hentry : ∀ budget first a, Takes budget (entry first a) fun _ => budget)
    (count : Option Nat) (a : α) :
    Takes 0 (Cbor.entries count entry a) fun _ => count.getD 0 := by
  cases count with
  | some n =>
    have hcounted := counted_claimed hentry n 0 a
    rwa [Nat.zero_add] at hcounted
  | none =>
    apply entries (m := fun _ => 0)
    intro first a
    exact (hentry 0 first a).allow (Nat.zero_le 1)

section Segments

variable {kind : Head → Option (Option Nat)} {segment : Nat → Nat → α → Read α}

/-- A string with a length takes so many bytes; one whose end is left open claims none. -/
theorem segments_claimed (hsegment : ∀ start n a, Takes 0 (segment start n a) fun _ => n)
    (length : Option Nat) (a : α) :
    Takes 0 (Cbor.segments kind segment length a) fun _ => length.getD 0 := by
  cases length with
  | some n => exact offset.bind fun _ => hsegment _ n a
  | none =>
    apply openSegments (m := fun _ => 0)
    intro start n a
    exact Takes.idle (hsegment start n a) 0

end Segments

theorem take_claimed (n : Nat) : Takes 0 (Cbor.take n) fun _ => n :=
  (take n).weaken fun _ => by omega

theorem byteString_claimed (length : Option Nat) :
    Takes 0 (Cbor.byteString length) fun _ => length.getD 0 :=
  map (segments_claimed (fun _ n _ => map (take_claimed n)) length [])

theorem textSegment_claimed (origin n : Nat) : Takes 0 (Cbor.textSegment origin n) fun _ => n :=
  (textSegment origin n).weaken fun _ => by omega

theorem textString_claimed (length : Option Nat) :
    Takes 0 (Cbor.textString length) fun _ => length.getD 0 :=
  map (segments_claimed (fun _ n _ => map (textSegment_claimed _ n)) length [])

theorem shortText_claimed (start n : Nat) : Takes 0 (Cbor.shortText start n) fun _ => n := by
  apply (take_claimed n).bind
  intro bytes
  split
  · exact pure (Nat.le_refl _)
  · exact throw _

/-- Tags claim nothing, and a head without them is left as it is. -/
theorem dropTags_claimed (keep : Nat → Bool) {next : Token → Read α}
    (hnext : ∀ first, Takes 0 (next first) fun _ => first.head.claimed) (first : Token) :
    Takes 0 (Cbor.dropTags keep first >>= next) fun _ => first.head.claimed := by
  by_cases htag : ∃ n, first.head = .tag n
  · obtain ⟨n, hn⟩ := htag
    rw [hn]
    exact (dropTags keep first).bind fun first => Takes.idle (hnext first) 0
  · have hsame : Cbor.dropTags keep first = Pure.pure first := by
      funext r
      obtain ⟨rest, left, offset, rfl⟩ := r
      exact Reads.dropTags offset keep (fun n hn => htag ⟨n, hn⟩) rest
    rw [hsame, pure_bind]
    exact hnext first

theorem shortName_claimed (first : Token) :
    Takes 0 (Cbor.shortName first) fun _ => first.head.claimed := by
  apply dropTags_claimed
  intro first
  split
  · rename_i n hhead
    rw [hhead]
    split
    · exact shortText_claimed _ n
    · exact throw _
  · rename_i n hhead
    rw [hhead]
    split
    · exact take_claimed n
    · exact throw _
  · exact throw _

/-! ### Integers -/

theorem magnitudeSegment_claimed (n : Nat) (digits : Bytes) :
    Takes 0 (Cbor.magnitudeSegment n digits) fun _ => n :=
  (magnitudeSegment n digits).weaken fun _ => by omega

/-- An integer has a head that claims nothing. -/
theorem integer_claimed (first : Token) :
    Takes 0 (Cbor.integer first) fun _ => first.head.claimed := by
  apply dropTags_claimed
  intro first
  split
  · rename_i hhead
    rw [hhead]
    exact pure (Nat.le_refl _)
  · rename_i hhead
    rw [hhead]
    exact pure (Nat.le_refl _)
  · rename_i hhead
    rw [hhead]
    apply (token.weaken fun _ => Nat.zero_le _).bind
    intro next
    split
    · exact map (magnitude _)
    · exact throw _
  · exact throw _

theorem word64_claimed (first : Token) :
    Takes 0 (Cbor.word64 first) fun _ => first.head.claimed := by
  apply (integer_claimed first).bind
  intro i
  split
  · exact throw _
  · split
    · exact throw _
    · exact pure (Nat.le_refl _)

theorem word32_claimed (first : Token) :
    Takes 0 (Cbor.word32 first) fun _ => first.head.claimed := by
  apply (word64_claimed first).bind
  intro n
  split
  · exact pure (Nat.le_refl _)
  · exact throw _

/-! ### Items that are passed over -/

theorem skipText_claimed (length : Option Nat) :
    Takes 0 (Cbor.skipText length) fun _ => length.getD 0 := by
  unfold Cbor.skipText
  split
  · rename_i n
    split
    · exact offset.bind fun _ => discard (n := n) (shortText_claimed _ n)
    · exact discard (n := n) (textString_claimed (some n))
  · exact discard (n := 0) (textString_claimed none)

theorem skipWith_claimed {inside : Option (Token → Read Unit)}
    (hinside : ∀ skip ∈ inside, ∀ (budget : Nat) (first : Token),
      Takes budget (skip first) fun _ => budget) (first : Token) :
    Takes 0 (Cbor.skipWith inside first) fun _ => first.head.claimed := by
  obtain ⟨head, start⟩ := first
  cases head with
  | bytes length => exact discard (n := length.getD 0) (byteString_claimed length)
  | text length => exact skipText_claimed length
  | array count =>
    cases inside with
    | none => exact throw _
    | some skip =>
      exact entries_claimed (fun budget first _ => hinside skip rfl budget first) count ()
  | map count =>
    cases inside with
    | none => exact throw _
    | some skip =>
      refine entries_claimed (fun budget first _ => ?_) count ()
      apply (hinside skip rfl budget first).bind
      intro _
      apply (token.weaken fun _ => Nat.le_succ budget).bind
      intro next
      exact hinside skip rfl budget next
  | unsigned n | negative n | tag n | simple n | float x | stop => exact skipWith hinside 0 _

/-- Passing over an item is no way around what its head claims. -/
theorem skip_claimed (depth : Nat) (first : Token) :
    Takes 0 (Cbor.skip depth first) fun _ => first.head.claimed := by
  cases depth with
  | zero => exact skipWith_claimed (by simp) first
  | succ depth =>
    apply skipWith_claimed
    intro skip hskip budget first
    rw [← Option.some.inj hskip]
    exact Takes.skip depth budget first

end Takes

end DerivationPool.Cbor

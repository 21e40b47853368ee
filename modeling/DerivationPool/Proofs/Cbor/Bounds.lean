import DerivationPool.Cbor.Values
import DerivationPool.Proofs.Cbor.Errors
import Mathlib.Data.List.Induction

/-!
What a reader can complain of. `Stays` says of a reading that it leaves the end of its
input where it is, that what it gives has some property, and that the numbers in what
it complains of are bounded: offsets lie in the input, and other numbers fit in a head.
It goes through every loop and through every item however deep it is nested.
-/
namespace DerivationPool

theorem Bytes.toNat_lt (bytes : Bytes) : toNat bytes < Nat.pow 256 bytes.length := by
  induction bytes using List.reverseRecOn with
  | nil => exact Nat.one_pos
  | append_singleton bytes b ih =>
    have hb : b.toNat < 256 := b.toNat_lt
    have hgrow : Nat.pow 256 (bytes.length + 1) = Nat.pow 256 bytes.length * 256 := rfl
    rw [toNat_concat, List.length_append, List.length_singleton, hgrow]
    omega

namespace Cbor

variable {α β : Type}

/-- A head and an offset up to the end of an input. -/
structure Token.Bounded (last : Nat) (token : Token) : Prop where
  head : token.head.Bounded
  start_le : token.start ≤ last

/-- From any reader whose input ends at an offset, a reading keeps the end, gives a value with a
property or complains of what is bounded. -/
def Stays (last : Nat) (read : Read α) (post : α → Prop) : Prop :=
  ∀ r : Reader, r.offset + r.left = last →
    match read r with
    | .ok (a, next) => next.offset + next.left = last ∧ post a
    | .error e => e.Bounded last

namespace Stays

variable {last : Nat} {read : Read α} {post : α → Prop} {post' : β → Prop}

theorem pure {a : α} (h : post a) : Stays last (Pure.pure a) post :=
  fun _ hr => ⟨hr, h⟩

theorem throw {e : Error} (h : e.Bounded last) : Stays last (throw e : Read α) post :=
  fun _ _ => h

/-- A result that is there without reading. -/
theorem lift {result : Except Error α} (h : ∀ e, result = .error e → e.Bounded last) :
    Stays last (liftM result : Read α) fun _ => True := by
  intro r hr
  cases result with
  | ok a => exact ⟨hr, trivial⟩
  | error e => exact h e rfl

/-- What the first reading gives has to be enough for the bounds of the second. -/
theorem bind {next : α → Read β} (h : Stays last read post)
    (hnext : ∀ a, post a → Stays last (next a) post') : Stays last (read >>= next) post' := by
  intro r hr
  have hread := h r hr
  simp only [Bind.bind, StateT.bind]
  cases hrun : read r with
  | error e =>
    rw [hrun] at hread
    exact hread
  | ok result =>
    rw [hrun] at hread
    exact hnext result.1 hread.2 result.2 hread.1

theorem mono {weaker : α → Prop} (h : Stays last read post) (himp : ∀ a, post a → weaker a) :
    Stays last read weaker := by
  rw [← bind_pure read]
  exact h.bind fun a ha => pure (himp a ha)

theorem map (f : α → β) (h : Stays last read fun a => post' (f a)) :
    Stays last (f <$> read) post' := by
  rw [map_eq_pure_bind]
  exact h.bind fun a ha => pure ha

theorem take (n : Nat) : Stays last (Cbor.take n) fun bytes => bytes.length = n := by
  intro r hr
  rw [Cbor.take, Reader.take?]
  by_cases hn : n ≤ r.left
  · rw [if_pos hn]
    refine ⟨?_, ?_⟩
    · dsimp only
      omega
    · dsimp only
      rw [List.length_take, ← r.left_eq, Nat.min_eq_left hn]
  · rw [if_neg hn]
    trivial

theorem number {width : Nat} (hwidth : width ≤ 8) :
    Stays last (Cbor.number width) fun n => n < 1 <<< 64 := by
  refine map _ ((take width).mono fun bytes hlength => ?_)
  have hlt := bytes.toNat_lt
  rw [hlength] at hlt
  exact Nat.lt_of_lt_of_le hlt (Nat.pow_le_pow_right (by decide : 0 < 256) hwidth)

theorem offset : Stays last Cbor.offset fun start => start ≤ last :=
  fun _ hr => ⟨hr, Nat.le.intro hr⟩

/-! ### Heads -/

theorem argument {start : Nat} (minor : Nat) (hstart : start ≤ last) :
    Stays last (Cbor.argument start minor) fun argument => ∀ n ∈ argument, n < 1 <<< 64 := by
  have hnumber : ∀ width ≤ 8,
      Stays last (some <$> Cbor.number width) fun argument => ∀ n ∈ argument, n < 1 <<< 64 :=
    fun width hwidth => map _ ((number hwidth).mono fun n hn => by simpa using hn)
  unfold Cbor.argument
  split
  · rename_i hminor
    refine pure ?_
    simpa using Nat.lt_trans hminor (by decide)
  iterate 4
    split
    · exact hnumber _ (by decide)
  split
  · exact pure (by simp)
  · exact throw hstart

theorem special {start : Nat} (minor : Nat) (hstart : start ≤ last) :
    Stays last (Cbor.special start minor) Head.Bounded := by
  unfold Cbor.special
  split
  · exact pure trivial
  split
  · exact map _ ((number (by decide)).mono fun _ _ => trivial)
  split
  · exact map _ ((number (by decide)).mono fun bits _ => BinaryFloat.bounded_ofHalf bits)
  split
  · exact map _ ((number (by decide)).mono fun bits _ => BinaryFloat.bounded_ofSingle bits)
  split
  · exact map _ ((number (by decide)).mono fun bits _ => BinaryFloat.bounded_ofDouble bits)
  split
  · exact pure trivial
  · exact throw hstart

/-- An argument below 2 ^ 64 makes a head whose numbers are bounded. -/
theorem bounded_ofArgument? {major : Nat} {argument : Option Nat} {head : Head}
    (h : Head.ofArgument? major argument = some head) (hargument : ∀ n ∈ argument, n < 1 <<< 64) :
    head.Bounded := by
  unfold Head.ofArgument? at h
  split at h
  all_goals cases h
  case h_1 | h_2 => exact hargument _ rfl
  all_goals trivial

theorem headFrom {start : Nat} (first : Nat) (hstart : start ≤ last) :
    Stays last (Cbor.headFrom start first) Head.Bounded := by
  unfold Cbor.headFrom
  split
  · exact special _ hstart
  · refine (argument _ hstart).bind fun argument hargument => ?_
    split
    · rename_i head hhead
      exact pure (bounded_ofArgument? hhead hargument)
    · exact throw hstart

/-- A head lies in front of the end of the input, and its numbers fit in it. -/
theorem token : Stays last Cbor.token (Token.Bounded last) :=
  offset.bind fun _ hstart => (number (by decide)).bind fun first _ =>
    (headFrom first hstart).bind fun _ hhead => pure ⟨hhead, hstart⟩

theorem bounded_lookedAt {first : Token} {stop : Nat} (h : first.Bounded last)
    (hstop : stop ≤ last) : (first.lookedAt stop).Bounded last := by
  unfold Token.lookedAt
  split
  · exact ⟨h.head, Nat.le_trans (Nat.sub_le _ _) hstop⟩
  · exact h

/-! ### Loops -/

def turnPost (pre : α → Prop) (post : β → Prop) : Turn α β → Prop
  | .again a => pre a
  | .done b => post b

/-- A loop is bounded by what each of its turns keeps. -/
theorem iterate {turn : α → Read (Turn α β)} (pre : α → Prop)
    (hturn : ∀ a, pre a → Stays last (turn a) (turnPost pre post')) {a : α} (ha : pre a) :
    Stays last (Cbor.iterate turn a) post' := by
  intro r hr
  -- Each turn that does not end the loop leaves less of the input.
  induction hleft : r.left using Nat.strongRecOn generalizing r a with
  | ind left ih =>
    have hread := hturn a ha r hr
    rw [Cbor.iterate]
    cases hrun : turn a r with
    | error e =>
      rw [hrun] at hread
      exact hread
    | ok result =>
      obtain ⟨result, next⟩ := result
      rw [hrun] at hread
      cases result with
      | done b => exact hread
      | again a' =>
        dsimp only
        by_cases hless : next.left < r.left
        · rw [if_pos hless]
          exact ih next.left (hleft ▸ hless) hread.2 next hread.1 rfl
        · rw [if_neg hless]
          trivial

section Entries

variable {entry : Token → α → Read α} {pre : α → Prop}
  (hentry : ∀ first a, first.Bounded last → pre a → Stays last (entry first a) pre)

include hentry

theorem counted (n : Nat) {a : α} (ha : pre a) : Stays last (Cbor.counted entry n a) pre := by
  induction n generalizing a with
  | zero => exact pure ha
  | succ n ih =>
    exact token.bind fun first hfirst => (hentry first a hfirst ha).bind fun _ ha' => ih ha'

theorem untilStop {a : α} (ha : pre a) : Stays last (Cbor.untilStop entry a) pre := by
  refine iterate pre (fun a ha => token.bind fun first hfirst => ?_) ha
  split
  · exact pure ha
  · exact offset.bind fun stop hstop =>
      (hentry _ a (bounded_lookedAt hfirst hstop) ha).bind fun _ ha' => pure ha'

theorem entries (count : Option Nat) {a : α} (ha : pre a) :
    Stays last (Cbor.entries count entry a) pre := by
  cases count with
  | some n => exact counted hentry n ha
  | none => exact untilStop hentry ha

end Entries

theorem dropTags (keep : Nat → Bool) {first : Token} (hfirst : first.Bounded last) :
    Stays last (Cbor.dropTags keep first) (Token.Bounded last) := by
  refine iterate _ (fun first hfirst => ?_) hfirst
  split
  · split
    · exact pure hfirst
    · exact token.bind fun next hnext => pure hnext
  · exact pure hfirst

theorem untagged {first : Token} (hfirst : first.Bounded last) :
    Stays last (Cbor.untagged first) (Token.Bounded last) :=
  dropTags _ hfirst

/-! ### Strings -/

section Segments

variable {kind : Head → Option (Option Nat)} {segment : Nat → Nat → α → Read α}
  (hsegment : ∀ start n a, start ≤ last → Stays last (segment start n a) fun _ => True)

include hsegment

theorem openSegments (state : Nat × α) :
    Stays last (Cbor.openSegments kind segment state) fun _ => True := by
  refine iterate (fun _ => True) (fun state _ => token.bind fun next hnext => ?_) trivial
  split
  · exact pure (by split <;> trivial)
  · exact pure trivial
  · exact (hsegment _ _ _ hnext.start_le).bind fun _ _ => pure trivial
  · exact throw hnext.start_le

theorem segments (length : Option Nat) (a : α) :
    Stays last (Cbor.segments kind segment length a) fun _ => True := by
  cases length with
  | some n =>
    exact offset.bind fun start hstart =>
      hsegment _ n a (Nat.le_trans (Nat.sub_le _ _) hstart)
  | none => exact openSegments hsegment _

end Segments

theorem byteString (length : Option Nat) :
    Stays last (Cbor.byteString length) fun _ => True := by
  refine map _ (segments (fun start n parts _ => ?_) length [])
  exact map _ ((take n).mono fun _ _ => trivial)

theorem textSegment {start : Nat} (n : Nat) (hstart : start ≤ last) :
    Stays last (Cbor.textSegment start n) fun _ => True := by
  intro r hr
  have htake := take n r hr
  rw [Cbor.take] at htake
  rw [Cbor.textSegment]
  cases hrun : r.take? n with
  | none =>
    dsimp only
    split
    · exact hstart
    · trivial
  | some result =>
    rw [hrun] at htake
    dsimp only
    cases Text.decode? result.1 with
    | some text => exact ⟨htake.1, trivial⟩
    | none => exact hstart

theorem textString (length : Option Nat) :
    Stays last (Cbor.textString length) fun _ => True := by
  refine map _ (segments (fun start n parts hstart => ?_) length [])
  exact map _ (textSegment n hstart)

theorem shortText {start : Nat} (n : Nat) (hstart : start ≤ last) :
    Stays last (Cbor.shortText start n) fun _ => True := by
  refine (take n).bind fun bytes _ => ?_
  split
  · exact pure trivial
  · exact throw hstart

theorem shortName {first : Token} (hfirst : first.Bounded last) :
    Stays last (Cbor.shortName first) fun _ => True := by
  refine (untagged hfirst).bind fun first hfirst => ?_
  split
  · split
    · exact shortText _ hfirst.start_le
    · exact throw hfirst.head
  · split
    · exact (take _).mono fun _ _ => trivial
    · exact throw hfirst.head
  · exact throw hfirst.head

/-! ### Integers -/

theorem magnitudeSegment (n : Nat) (digits : Bytes) :
    Stays last (Cbor.magnitudeSegment n digits) fun _ => True := by
  have hextend : ∀ (digits bytes : Bytes) (e : Error), extendMagnitude digits bytes = .error e →
      e.Bounded last := by
    intro digits bytes e h
    unfold extendMagnitude at h
    dsimp only at h
    split at h
    all_goals cases h
    trivial
  intro r hr
  have htake := take n r hr
  rw [Cbor.take] at htake
  rw [Cbor.magnitudeSegment]
  cases hrun : r.take? n with
  | none =>
    dsimp only
    generalize r.rest.take (r.left / magnitudeSize * magnitudeSize) = bytes
    cases hextended : extendMagnitude digits bytes with
    | error e => exact hextend _ _ e hextended
    | ok digits => trivial
  | some result =>
    rw [hrun] at htake
    dsimp only
    cases hextended : extendMagnitude digits result.1 with
    | error e => exact hextend _ _ e hextended
    | ok digits => exact ⟨htake.1, trivial⟩

theorem magnitude (length : Option Nat) : Stays last (Cbor.magnitude length) fun _ => True :=
  map _ (segments (fun _ n digits _ => magnitudeSegment n digits) length [])

theorem integer {first : Token} (hfirst : first.Bounded last) :
    Stays last (Cbor.integer first) fun _ => True := by
  refine (dropTags _ hfirst).bind fun first hfirst => ?_
  split
  · exact pure trivial
  · exact pure trivial
  · refine token.bind fun next hnext => ?_
    split
    · exact map _ (magnitude _)
    · exact throw hnext.head
  · exact throw hfirst.head

theorem word64 {first : Token} (hfirst : first.Bounded last) :
    Stays last (Cbor.word64 first) fun n => n < 1 <<< 64 := by
  refine (integer hfirst).bind fun i _ => ?_
  split
  · exact throw trivial
  split
  · exact throw trivial
  · rename_i hlt
    exact pure (Nat.lt_of_not_le hlt)

theorem word32 {first : Token} (hfirst : first.Bounded last) :
    Stays last (Cbor.word32 first) fun _ => True := by
  refine (word64 hfirst).bind fun n hn => ?_
  split
  · exact pure trivial
  · exact throw hn

theorem word8 {first : Token} (hfirst : first.Bounded last) :
    Stays last (Cbor.word8 first) fun _ => True := by
  refine (word64 hfirst).bind fun n hn => ?_
  split
  · exact pure trivial
  · exact throw hn

/-! ### Items that are passed over -/

theorem discard (h : Stays last read post) : Stays last (Functor.discard read) fun _ => True :=
  map _ (h.mono fun _ _ => trivial)

theorem skipText (length : Option Nat) : Stays last (Cbor.skipText length) fun _ => True := by
  unfold Cbor.skipText
  split
  · split
    · exact offset.bind fun start hstart =>
        (shortText _ (Nat.le_trans (Nat.sub_le _ _) hstart)).discard
    · exact (textString _).discard
  · exact (textString _).discard

theorem skipMagnitude (tag n : Nat) : Stays last (Cbor.skipMagnitude tag n) fun _ => True := by
  refine (magnitude _).bind fun _ _ => ?_
  split
  · exact throw trivial
  · exact pure trivial

theorem skipWith {inside : Option (Token → Read Unit)}
    (hinside : ∀ skip ∈ inside, ∀ first : Token, first.Bounded last →
      Stays last (skip first) fun _ => True) {first : Token} (hfirst : first.Bounded last) :
    Stays last (Cbor.skipWith inside first) fun _ => True := by
  unfold Cbor.skipWith
  extract_lets deeper
  have hdeeper : ∀ pass : (Token → Read Unit) → Read Unit,
      (∀ skip, (∀ first : Token, first.Bounded last → Stays last (skip first) fun _ => True) →
        Stays last (pass skip) fun _ => True) → Stays last (deeper pass) fun _ => True := by
    intro pass hpass
    cases inside with
    | none => exact throw trivial
    | some skip => exact hpass skip (hinside skip rfl)
  split
  case h_1 | h_2 | h_3 => exact pure trivial
  · exact (byteString _).discard
  · exact skipText _
  · refine hdeeper _ fun skip hskip => entries (fun first _ hfirst _ => ?_) _ trivial
    exact hskip first hfirst
  · refine hdeeper _ fun skip hskip => entries (fun first _ hfirst _ => ?_) _ trivial
    exact (hskip first hfirst).bind fun _ _ => token.bind fun next hnext => hskip next hnext
  · refine token.bind fun next hnext => ?_
    split
    · split
      · exact skipMagnitude _ _
      · exact hdeeper _ fun skip hskip => hskip next hnext
    · exact hdeeper _ fun skip hskip => hskip next hnext
  · split
    · exact pure trivial
    · exact throw hfirst.head
  · exact throw hfirst.head

theorem skip (depth : Nat) {first : Token} (hfirst : first.Bounded last) :
    Stays last (Cbor.skip depth first) fun _ => True := by
  induction depth generalizing first with
  | zero => exact skipWith (by simp) hfirst
  | succ depth ih =>
    refine skipWith (fun skip hskip first hfirst => ?_) hfirst
    rw [← Option.some.inj hskip]
    exact ih hfirst

end Stays

end Cbor

end DerivationPool

import DerivationPool.Cbor.Reader
import DerivationPool.Decimal
import DerivationPool.Proofs.Text.Length
import Mathlib.Data.Nat.Digits.Defs

/-!
How long the text of a complaint can get. The longest complaints show a number. A number of the
widest width has a mantissa and an exponent that are bounded; the search for its shortest
decimal starts at a fixed power of ten and takes only so many steps down, so that the digits and
the power of what it finds are bounded too, whether or not it finds the shortest.
-/
namespace DerivationPool.BinaryFloat

/-- The numbers that the widest width can hold. -/
def Bounded : BinaryFloat → Prop
  | .finite _ m e => m < 1 <<< precision ∧ e ≤ 971
  | .infinite _ | .nan => True

theorem widen_bounded {fuel m : Nat} {e : Int} (hm : m < 1 <<< precision) (he : e ≤ 971) :
    (widen fuel m e).1 < 1 <<< precision ∧ (widen fuel m e).2 ≤ 971 := by
  induction fuel generalizing m e with
  | zero => exact ⟨hm, he⟩
  | succ fuel ih =>
    rw [widen]
    split
    · rename_i h
      refine ih ?_ (by omega)
      have hhalf : (1 <<< precision : Nat) = 2 * 1 <<< (precision - 1) := by decide
      omega
    · exact ⟨hm, he⟩

/-- A mantissa that fits still fits when it was widened. -/
theorem bounded_widened (negative : Bool) {m : Nat} {e : Int} (hm : m < 1 <<< precision)
    (he : e ≤ 971) :
    (if m = 0 then finite negative 0 0
      else finite negative (widen precision m e).1 (widen precision m e).2).Bounded := by
  split
  · exact ⟨by decide, by decide⟩
  · exact widen_bounded hm he

theorem bounded_ofBits {exponentSize fractionSize : Nat} (bits : Nat)
    (hfraction : fractionSize < precision)
    (hexponent : ((1 <<< exponentSize : Nat) : Int) - 2 -
      ((1 <<< (exponentSize - 1) - 1 : Nat) : Int) - fractionSize ≤ 971) :
    (ofBits exponentSize fractionSize bits).Bounded := by
  have hfull : 1 <<< fractionSize + 1 <<< fractionSize ≤ 1 <<< precision := by
    rw [← Nat.two_mul, Nat.shiftLeft_eq, Nat.shiftLeft_eq, Nat.one_mul, Nat.one_mul,
      ← Nat.pow_succ']
    exact Nat.pow_le_pow_right (by decide) hfraction
  have hrest : bits % 1 <<< fractionSize < 1 <<< fractionSize := Nat.mod_lt _ (by
    rw [Nat.shiftLeft_eq, Nat.one_mul]; exact Nat.pow_pos (by decide))
  have hfield : (bits >>> fractionSize) % 1 <<< exponentSize < 1 <<< exponentSize :=
    Nat.mod_lt _ (by rw [Nat.shiftLeft_eq, Nat.one_mul]; exact Nat.pow_pos (by decide))
  unfold ofBits
  dsimp only
  split
  · split <;> trivial
  · refine bounded_widened _ ?_ ?_
    · split <;> omega
    · split <;> omega

theorem bounded_ofHalf (bits : Nat) : (ofHalf bits).Bounded :=
  bounded_ofBits bits (by decide) (by decide)

theorem bounded_ofSingle (bits : Nat) : (ofSingle bits).Bounded :=
  bounded_ofBits bits (by decide) (by decide)

theorem bounded_ofDouble (bits : Nat) : (ofDouble bits).Bounded :=
  bounded_ofBits bits (by decide) (by decide)

/-- How many digits are more than any number of this precision has. -/
def Decimal.places : Nat := 720

/-- Digits and a power of ten that are not too many. -/
structure Decimal.Short (d : Decimal) : Prop where
  digits_lt : d.digits < Nat.pow 10 places
  le_exponent : -408 ≤ d.exponent
  exponent_le : d.exponent ≤ 326

theorem pow_shiftLeft_le {base m n k l : Nat} (hbase : 0 < base) (hm : m ≤ n) (hk : k ≤ l) :
    Nat.pow base m <<< k ≤ Nat.pow base n <<< l := by
  rw [Nat.shiftLeft_eq, Nat.shiftLeft_eq]
  exact Nat.mul_le_mul (Nat.pow_le_pow_right hbase hm) (Nat.pow_le_pow_right (by decide) hk)

theorem scale_value_lt {m : Nat} {e k : Int} (hm : m < 1 <<< precision) (he : e ≤ 971)
    (hk : -408 ≤ k) : (scale m e k).value + 1 < Nat.pow 10 Decimal.places := by
  have hfactor := pow_shiftLeft_le (by decide : 0 < 10) (by omega : (-k).toNat ≤ 408)
    (by omega : e.toNat ≤ 971)
  have hvalue := Nat.mul_le_mul (Nat.mul_le_mul_left 4 (Nat.le_of_lt hm)) hfactor
  exact Nat.lt_of_le_of_lt (Nat.succ_le_succ hvalue) (by decide +kernel)

theorem nearest?_le {s : Scaled} {d : Nat} (h : s.nearest? = some d) : d ≤ s.value + 1 := by
  have hlow : s.value / s.unit ≤ s.value := Nat.div_le_self _ _
  grind [Scaled.nearest?]

/-- The search for the leading power takes at most `fuel` steps down. -/
theorem leadingExponent_bounds (m : Nat) (e : Int) (fuel : Nat) (k : Int) :
    k - fuel ≤ leadingExponent m e fuel k ∧ leadingExponent m e fuel k ≤ k := by
  induction fuel generalizing k with
  | zero => simp [leadingExponent]
  | succ fuel ih =>
    have hrest := ih (k - 1)
    simp only [leadingExponent]
    split
    · omega
    · omega

/-- Whatever grid the search ends on, its point has so few digits and its power lies so near to
zero. -/
theorem search_bounds {m : Nat} {e lead : Int} (hm : m < 1 <<< precision) (he : e ≤ 971)
    (count : Nat) (n : Int) (hlow : -408 ≤ lead - (n + count) + 1) (hn : 1 ≤ n)
    (hhigh : lead ≤ 309) :
    (search m e lead count n).digits < Nat.pow 10 Decimal.places ∧
      -408 ≤ (search m e lead count n).exponent ∧ (search m e lead count n).exponent ≤ 309 := by
  induction count generalizing n with
  | zero =>
    have hvalue := scale_value_lt hm he (by omega : -408 ≤ lead - n + 1)
    exact ⟨Nat.lt_of_succ_lt hvalue, by simp only [search]; omega, by simp only [search]; omega⟩
  | succ count ih =>
    simp only [search]
    split
    · rename_i d hd
      have hvalue := scale_value_lt hm he (by omega : -408 ≤ lead - n + 1)
      exact ⟨Nat.lt_of_le_of_lt (nearest?_le hd) hvalue, by dsimp only; omega, by dsimp only; omega⟩
    · exact ih (n + 1) (by omega) (by omega)

theorem Decimal.reduce_bounds (d : Decimal) (fuel : Nat) :
    (d.reduce fuel).digits ≤ d.digits ∧ d.exponent ≤ (d.reduce fuel).exponent ∧
      (d.reduce fuel).exponent ≤ d.exponent + fuel := by
  induction fuel generalizing d with
  | zero => simp [reduce]
  | succ fuel ih =>
    rw [reduce]
    split
    · have hrest := ih ⟨d.digits / 10, d.exponent + 1⟩
      have hdigits : d.digits / 10 ≤ d.digits := Nat.div_le_self _ _
      dsimp only at hrest
      omega
    · omega

theorem short_shortest {m : Nat} {e : Int} (hm : m < 1 <<< precision) (he : e ≤ 971) :
    (shortest m e).Short := by
  have hlead := leadingExponent_bounds m e 700 309
  have hsearch := search_bounds hm he 17 1 (by omega) (by omega) hlead.2
  have hreduce := (search m e (leadingExponent m e 700 309) 17 1).reduce_bounds 17
  rw [shortest]
  exact ⟨Nat.lt_of_le_of_lt hreduce.1 hsearch.1, by omega, by omega⟩

theorem Decimal.Short.length_positional_le {d : Decimal} (h : d.Short) :
    d.positional.length ≤ places + 480 := by
  obtain ⟨hdigits, hlow, hhigh⟩ := h
  have hlength : ∀ n, 0 < n → d.digits < Nat.pow 10 n → (Nat.toDigits 10 d.digits).length ≤ n :=
    Nat.toDigits_length 10 d.digits
  replace hlength := hlength places (by decide) hdigits
  unfold Decimal.positional
  dsimp only
  split
  · simp only [String.length_ofList, List.length_append, List.length_replicate, List.length_cons,
      List.length_nil]
    omega
  · simp only [String.length_ofList, List.length_append, List.length_cons, List.length_take,
      List.length_drop, List.length_replicate]
    omega

/-- More than a thousand zeros may stand in the text of a number, but not many more. -/
theorem Bounded.length_text_le {x : BinaryFloat} (h : x.Bounded) : x.text.length ≤ 1201 := by
  cases x with
  | finite negative m e =>
    have hsign : (if negative then "-" else "").length ≤ 1 := by cases negative <;> decide
    have hdigits : (if m = 0 then "0.0" else (shortest m e).positional).length ≤ 1200 := by
      split
      · decide
      · exact (short_shortest h.1 h.2).length_positional_le
    rw [text, String.length_append]
    exact Nat.le_trans (Nat.add_le_add hsign hdigits) (by decide)
  | infinite negative => cases negative <;> decide
  | nan => decide

end DerivationPool.BinaryFloat

/-!
How long the text of a complaint about an input can get. It names what was found and
what was expected, and of what was found at most a number, so a bound on the numbers is
a bound on the text, escapes included.
-/
namespace DerivationPool.Cbor

/-- The numbers of a head are those that a head can carry. -/
def Head.Bounded : Head → Prop
  | unsigned n | negative n => n < 1 <<< 64
  | float x => x.Bounded
  | _ => True

/-- A complaint about an input that ends at an offset, whose numbers are bounded and whose names are
those of fields. No name that was read is in it. -/
def Error.Bounded (last : Nat) : Error → Prop
  | malformed offset => offset ≤ last
  | unexpected found _ => found.Bounded
  | outOfRange n _ => n < 1 <<< 64
  | unknownChoice _ _ => False
  | duplicateField name | missingField name => name.length ≤ 64
  | endOfInput | tooDeep | negativeInteger | integerTooLarge | magnitudeTooLarge => True

theorem length_complementText_le (n : Nat) : (complementText n).length ≤ 21 := by
  have hlow : -((1 <<< 64 : Nat) / 2 : Int) ≤ (-1 - (n : Int)).bmod (1 <<< 64) :=
    Int.le_bmod (by decide)
  have hhigh : (-1 - (n : Int)).bmod (1 <<< 64) < ((1 <<< 64 : Nat) + 1) / 2 :=
    Int.bmod_lt (by decide)
  rw [complementText]
  generalize (-1 - (n : Int)).bmod (1 <<< 64) = i at hlow hhigh ⊢
  cases i with
  | ofNat m =>
    have hm : (m : Int) < ((1 <<< 64 : Nat) + 1) / 2 := hhigh
    exact Nat.le_succ_of_le (Text.length_word_le (by omega))
  | negSucc m =>
    have htext : toString (Int.negSucc m) = "-" ++ toString (m + 1) := rfl
    have hlength : (toString (m + 1)).length ≤ 20 := Text.length_word_le (by omega)
    rw [htext, String.length_append]
    exact Nat.le_trans (Nat.add_le_add_left hlength _) (by decide)

theorem Head.Bounded.length_description_le {head : Head} (h : head.Bounded) :
    head.description.length ≤ 1220 := by
  cases head with
  | unsigned n =>
    exact Nat.le_trans (Text.length_around_le (Text.length_word_le h)) (by decide)
  | negative n =>
    exact Nat.le_trans (Text.length_around_le (length_complementText_le n)) (by decide)
  | float x => exact Nat.le_trans (Text.length_around_le h.length_text_le) (by decide)
  | simple n =>
    unfold description
    split
    case h_8 | h_9 | h_10 | h_11 | h_12 => decide
    all_goals simp_all
  | bytes => exact (by decide : "bytes".length ≤ 1220)
  | text => exact (by decide : "string".length ≤ 1220)
  | array => exact (by decide : "sequence".length ≤ 1220)
  | map => exact (by decide : "map".length ≤ 1220)
  | tag => exact (by decide : "tag".length ≤ 1220)
  | stop => exact (by decide : "break".length ≤ 1220)

/-- The longest complaints are about a number that stands where something else was expected. -/
theorem Error.Bounded.length_complaint_le {last : Nat} {e : Error} (h : e.Bounded last)
    {complaint : String} (hcomplaint : e.complaint? = some complaint) :
    complaint.length ≤ 1300 := by
  cases e with
  | unexpected found expected =>
    cases hcomplaint
    have hfound : ("invalid type: " ++ found.description).length ≤ 1234 := by
      rw [String.length_append]
      exact Nat.add_le_add_left (Head.Bounded.length_description_le h) 14
    have hexpected : expected.label.length ≤ 18 := by cases expected <;> decide
    rw [String.length_append, String.length_append]
    exact Nat.le_trans (Nat.add_le_add (Nat.add_le_add_right hfound _) hexpected) (by decide)
  | outOfRange n range =>
    cases hcomplaint
    have hrange : range.label.length ≤ 3 := by cases range <;> decide
    have hnumber := Text.length_word_le h
    rw [String.length_append]
    exact Nat.le_trans (Nat.add_le_add (Text.length_around_le hnumber) hrange) (by decide)
  | unknownChoice found known => exact h.elim
  | duplicateField name | missingField name =>
    cases hcomplaint
    exact Nat.le_trans (Text.length_around_le h) (by decide)
  | negativeInteger | integerTooLarge | magnitudeTooLarge =>
    cases hcomplaint
    decide
  | endOfInput | malformed | tooDeep => cases hcomplaint

/-- The text of a bounded complaint has a bound of its own. -/
theorem Error.Bounded.length_text_le {last : Nat} {e : Error} (h : e.Bounded last)
    (hlast : last < 1 <<< 64) : e.text.length ≤ 13100 := by
  unfold text
  split
  · rename_i complaint hcomplaint
    have hlength := h.length_complaint_le hcomplaint
    have hquoted : (Text.quoted complaint).length ≤ 13002 :=
      Nat.le_trans (Text.length_quoted_le complaint) (by omega)
    exact Nat.le_trans (Text.length_around_le hquoted) (by decide)
  · split
    · have hoffset := Text.length_word_le (Nat.lt_of_le_of_lt h hlast)
      exact Nat.le_trans (Text.length_around_le hoffset) (by decide)
    · decide
    · decide

end DerivationPool.Cbor

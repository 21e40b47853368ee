import DerivationPool.Bytes

/-!
Hexadecimal text. A byte string is written as two digits for each byte, the high half first, and
each digit in either case. The reader takes just what is so written, and of every text that is an
even number of digits it knows the bytes.
-/
namespace DerivationPool.Bytes

def lowerDigits : List Char :=
  ['0', '1', '2', '3', '4', '5', '6', '7', '8', '9', 'a', 'b', 'c', 'd', 'e', 'f']

def upperDigits : List Char :=
  ['0', '1', '2', '3', '4', '5', '6', '7', '8', '9', 'A', 'B', 'C', 'D', 'E', 'F']

/-- A character that writes a digit, in either case. -/
def DigitOf (n : Nat) (c : Char) : Prop := lowerDigits[n]? = some c ∨ upperDigits[n]? = some c

instance (n : Nat) (c : Char) : Decidable (DigitOf n c) :=
  inferInstanceAs (Decidable (_ ∨ _))

theorem DigitOf.lt {n : Nat} {c : Char} (h : DigitOf n c) : n < 16 := by
  cases h with
  | inl h => exact (List.getElem?_eq_some_iff.mp h).1
  | inr h => exact (List.getElem?_eq_some_iff.mp h).1

/-- What goes for both rows goes for every digit. -/
theorem DigitOf.of_rows {p : Nat → Char → Prop} {n : Nat} {c : Char} (h : DigitOf n c)
    (hlower : ∀ n < 16, p n (lowerDigits.getD n ' '))
    (hupper : ∀ n < 16, p n (upperDigits.getD n ' ')) : p n c := by
  have hn := h.lt
  cases h with
  | inl hc =>
    have hp := hlower n hn
    rwa [List.getD, hc] at hp
  | inr hc =>
    have hp := hupper n hn
    rwa [List.getD, hc] at hp

theorem exists_digitOf_iff {c : Char} :
    (∃ n, DigitOf n c) ↔ c ∈ lowerDigits ∨ c ∈ upperDigits := by
  simp [DigitOf, List.mem_iff_getElem?, exists_or]

/-- What goes for the first characters goes for those with small numbers. -/
theorem of_toNat_lt {p : Char → Prop} {c : Char} {bound : Nat} (hc : c.toNat < bound)
    (h : ∀ n < bound, p (Char.ofNat n)) : p c := by
  have hp := h c.toNat hc
  rwa [c.ofNat_toNat] at hp

theorem hexValue?_eq_some_iff {c : Char} {n : Nat} : hexValue? c = some n ↔ DigitOf n c := by
  constructor
  · intro h
    have hsmall : c.toNat < 103 := by
      apply Nat.lt_of_not_le
      intro hlarge
      rw [hexValue?, if_neg (by omega), if_neg (by omega), if_neg (by omega)] at h
      cases h
    have hdigit : ∀ n ∈ hexValue? c, DigitOf n c :=
      of_toNat_lt (p := fun c => ∀ n ∈ hexValue? c, DigitOf n c) hsmall (by decide)
    exact hdigit n h
  · intro h
    refine h.of_rows (p := fun n c => hexValue? c = some n) ?_ ?_ <;> decide

/-- Text that writes a byte string, two digits for each byte. -/
inductive Spells : List Char → Bytes → Prop where
  | nil : Spells [] []
  | cons {high low : Char} {text : List Char} {b : UInt8} {bytes : Bytes}
      (hhigh : DigitOf (b.toNat / 16) high) (hlow : DigitOf (b.toNat % 16) low)
      (h : Spells text bytes) : Spells (high :: low :: text) (b :: bytes)

theorem toNat_ofNat_halves {high low : Nat} (hhigh : high < 16) (hlow : low < 16) :
    (UInt8.ofNat (16 * high + low)).toNat = 16 * high + low := by
  rw [UInt8.toNat_ofNat']
  omega

/-- Two digits write a byte, whatever they are. -/
theorem Spells.digits {high low : Nat} {a b : Char} {text : List Char} {bytes : Bytes}
    (hhigh : DigitOf high a) (hlow : DigitOf low b) (h : Spells text bytes) :
    Spells (a :: b :: text) (UInt8.ofNat (16 * high + low) :: bytes) := by
  have hvalue := toNat_ofNat_halves hhigh.lt hlow.lt
  have hhigh_lt := hhigh.lt
  have hlow_lt := hlow.lt
  refine .cons ?_ ?_ h
  · have hhalf : (16 * high + low) / 16 = high := by omega
    rwa [hvalue, hhalf]
  · have hhalf : (16 * high + low) % 16 = low := by omega
    rwa [hvalue, hhalf]

theorem spells_of_ofHexChars? {text : List Char} {bytes : Bytes}
    (h : ofHexChars? text = some bytes) : Spells text bytes := by
  induction text using ofHexChars?.induct generalizing bytes with
  | case1 =>
    cases h
    exact .nil
  | case2 => cases h
  | case3 a b text ih =>
    simp only [ofHexChars?, Option.bind_eq_bind, Option.bind_eq_some_iff] at h
    obtain ⟨high, hhigh, low, hlow, rest, hrest, hbytes⟩ := h
    cases hbytes
    exact .digits (hexValue?_eq_some_iff.mp hhigh) (hexValue?_eq_some_iff.mp hlow) (ih hrest)

theorem Spells.ofHexChars?_eq {text : List Char} {bytes : Bytes} (h : Spells text bytes) :
    ofHexChars? text = some bytes := by
  induction h with
  | nil => rfl
  | @cons high low text b bytes hhigh hlow h ih =>
    have hbyte : UInt8.ofNat (16 * (b.toNat / 16) + b.toNat % 16) = b := by
      rw [Nat.div_add_mod, UInt8.ofNat_toNat]
    simp only [ofHexChars?, hexValue?_eq_some_iff.mpr hhigh, hexValue?_eq_some_iff.mpr hlow, ih,
      Option.bind_eq_bind, Option.bind_some, hbyte]
    rfl

/-- The reader takes what is spelled, and nothing else. -/
theorem ofHexChars?_eq_some_iff {text : List Char} {bytes : Bytes} :
    ofHexChars? text = some bytes ↔ Spells text bytes :=
  ⟨spells_of_ofHexChars?, Spells.ofHexChars?_eq⟩

theorem Spells.length_eq {text : List Char} {bytes : Bytes} (h : Spells text bytes) :
    text.length = 2 * bytes.length := by
  induction h with
  | nil => rfl
  | cons _ _ _ ih =>
    simp only [List.length_cons, ih]
    omega

theorem spells_nil_iff {text : List Char} : Spells text [] ↔ text = [] := by
  constructor
  · exact fun h => List.length_eq_zero_iff.mp h.length_eq
  · rintro rfl
    exact .nil

theorem Spells.mem_digits {text : List Char} {bytes : Bytes} (h : Spells text bytes) :
    ∀ c ∈ text, c ∈ lowerDigits ∨ c ∈ upperDigits := by
  induction h with
  | nil => simp
  | cons hhigh hlow _ ih =>
    intro c hc
    simp only [List.mem_cons] at hc
    obtain rfl | rfl | hc := hc
    · exact exists_digitOf_iff.mp ⟨_, hhigh⟩
    · exact exists_digitOf_iff.mp ⟨_, hlow⟩
    · exact ih c hc

/-- An even number of digits is enough to be read. -/
theorem exists_spells {text : List Char} (heven : text.length % 2 = 0)
    (hdigits : ∀ c ∈ text, c ∈ lowerDigits ∨ c ∈ upperDigits) : ∃ bytes, Spells text bytes := by
  induction text using ofHexChars?.induct with
  | case1 => exact ⟨[], .nil⟩
  | case2 => simp at heven
  | case3 a b text ih =>
    simp only [List.mem_cons, forall_eq_or_imp, ← exists_digitOf_iff] at hdigits
    obtain ⟨⟨high, hhigh⟩, ⟨low, hlow⟩, hrest⟩ := hdigits
    simp only [← exists_digitOf_iff] at ih
    rw [List.length_cons, List.length_cons] at heven
    obtain ⟨bytes, hbytes⟩ := ih (by omega) hrest
    exact ⟨_, .digits hhigh hlow hbytes⟩

/-- An even number of digits, of either case in any mixture, always spells something. -/
theorem exists_spells_iff {text : List Char} : (∃ bytes, Spells text bytes) ↔
    text.length % 2 = 0 ∧ ∀ c ∈ text, c ∈ lowerDigits ∨ c ∈ upperDigits := by
  constructor
  · rintro ⟨bytes, h⟩
    have hlength := h.length_eq
    exact ⟨by omega, h.mem_digits⟩
  · rintro ⟨heven, hdigits⟩
    exact exists_spells heven hdigits

/-- Capitals are worth what the letters are. -/
theorem hexValue?_toLower (c : Char) : hexValue? c.toLower = hexValue? c := by
  by_cases h : c.toNat < 128
  · exact of_toNat_lt (p := fun c => hexValue? c.toLower = hexValue? c) h (by decide)
  · have hother : ¬ (c.val ≥ 'A'.val ∧ c.val ≤ 'Z'.val) := by
      rintro ⟨-, hle⟩
      exact h (Nat.lt_of_le_of_lt (UInt32.le_iff_toNat_le.mp hle) (by decide))
    unfold Char.toLower
    rw [dif_neg hother]

/-- The digits of a value are those that are one in lower case. -/
theorem digitOf_iff_toLower {n : Nat} {c : Char} (hn : n < 16) :
    DigitOf n c ↔ c.toLower = hexDigit n := by
  constructor
  · intro h
    refine h.of_rows (p := fun n c => c.toLower = hexDigit n) ?_ ?_ <;> decide
  · intro h
    have hdigit : ∀ n < 16, hexValue? (hexDigit n) = some n := by decide
    rw [← hexValue?_eq_some_iff, ← hexValue?_toLower, h]
    exact hdigit n hn

theorem hexChars_cons (b : UInt8) (bytes : Bytes) : hexChars (b :: bytes) =
    hexDigit (b.toNat / 16) :: hexDigit (b.toNat % 16) :: hexChars bytes := rfl

/-- The spellings of a byte string are the texts that differ from its lower-case digits in nothing
but the case. -/
theorem spells_iff_toLower {text : List Char} {bytes : Bytes} :
    Spells text bytes ↔ text.map Char.toLower = hexChars bytes := by
  have hhalf : ∀ b : UInt8, b.toNat / 16 < 16 ∧ b.toNat % 16 < 16 := by
    intro b
    have hb := b.toNat_lt
    omega
  constructor
  · intro h
    induction h with
    | nil => rfl
    | @cons high low text b bytes hhigh hlow _ ih =>
      rw [digitOf_iff_toLower (hhalf b).1] at hhigh
      rw [digitOf_iff_toLower (hhalf b).2] at hlow
      rw [hexChars_cons, List.map_cons, List.map_cons, hhigh, hlow, ih]
  · intro h
    induction bytes generalizing text with
    | nil =>
      rw [List.map_eq_nil_iff.mp h]
      exact .nil
    | cons b bytes ih =>
      obtain ⟨high, rest, rfl, hhigh, hrest⟩ := List.map_eq_cons_iff.mp h
      obtain ⟨low, text, rfl, hlow, htext⟩ := List.map_eq_cons_iff.mp hrest
      rw [← digitOf_iff_toLower (hhalf b).1] at hhigh
      rw [← digitOf_iff_toLower (hhalf b).2] at hlow
      exact .cons hhigh hlow (ih htext)

end DerivationPool.Bytes

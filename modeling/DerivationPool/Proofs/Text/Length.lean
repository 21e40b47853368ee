import DerivationPool.Text.Display
import DerivationPool.Text.Utf8
import Mathlib.Data.Nat.Digits.Defs

/-!
Text in bytes: it is read back as it was written, and how long it can get is known for numbers in
digits, for text in quotes and for any text.
-/
namespace DerivationPool.Text

@[simp] theorem decode?_encode (text : String) : decode? (encode text) = some text := by
  have hbytes : (⟨(encode text).toArray⟩ : ByteArray) = text.toByteArray := by
    rw [encode, Array.toArray_toList]
    rfl
  rw [decode?, hbytes, String.fromUTF8?, dif_pos text.isValidUTF8]
  rfl

/-- Different texts are written differently. -/
theorem encode_injective {a b : String} (h : encode a = encode b) : a = b := by
  have hdecode := congrArg decode? h
  rw [decode?_encode, decode?_encode] at hdecode
  exact Option.some.inj hdecode

/-- What reads as a text is how the text is written. -/
theorem encode_of_decode? {bytes : Bytes} {text : String} (h : decode? bytes = some text) :
    encode text = bytes := by
  unfold decode? String.fromUTF8? at h
  split at h
  · cases h
    rfl
  · cases h

/-!
How long a text can get: numbers in digits, text in quotes, and any text in bytes.
-/

theorem length_encode (text : String) : (encode text).length = text.utf8ByteSize := by
  rw [encode, Array.length_toList]
  rfl

@[simp] theorem length_encode_append (a b : String) :
    (encode (a ++ b)).length = (encode a).length + (encode b).length := by
  simp only [length_encode, String.utf8ByteSize_append]

/-- A text of so many characters of one byte each. -/
theorem length_encode_replicate {c : Char} (hc : c.utf8Size = 1) (n : Nat) :
    (encode (String.ofList (List.replicate n c))).length = n := by
  induction n with
  | zero => rfl
  | succ n ih =>
    rw [List.replicate_succ, String.ofList_cons, length_encode_append, ih, length_encode,
      String.utf8ByteSize_singleton, hc, Nat.add_comm]

theorem length_encode_join (parts : List String) :
    (encode (String.join parts)).length = (parts.flatMap encode).length := by
  induction parts with
  | nil => rfl
  | cons text parts ih =>
    rw [String.join_cons, length_encode_append, ih, List.flatMap_cons, List.length_append]

/-- A character takes four bytes at most. -/
theorem length_encode_le (text : String) : (encode text).length ≤ 4 * text.length := by
  obtain ⟨cs, rfl⟩ : ∃ cs, text = String.ofList cs := ⟨text.toList, by simp⟩
  induction cs with
  | nil => exact Nat.zero_le _
  | cons c cs ih =>
    have hfirst : (String.singleton c).utf8ByteSize ≤ 4 := by
      rw [String.utf8ByteSize_singleton]
      exact c.utf8Size_le_four
    rw [String.ofList_cons, length_encode_append, String.length_append, length_encode,
      String.length_singleton]
    omega

/-- A machine word has twenty digits at most. -/
theorem length_word_le {n : Nat} (hn : n < 1 <<< 64) : (toString n).length ≤ 20 :=
  (Nat.length_repr_le_iff (by decide)).mpr (Nat.lt_trans hn (by decide))

theorem length_around_le {front inside back : String} {bound : Nat}
    (h : inside.length ≤ bound) :
    (front ++ inside ++ back).length ≤ front.length + bound + back.length := by
  rw [String.length_append, String.length_append]
  omega

/-- Inside quotes a character takes ten at most: the six digits of its number, and what is around
them. -/
theorem length_quotedChar_le (c : Char) : (quotedChar c).length ≤ 10 := by
  have hlt : c.toNat < Nat.pow 16 6 := by
    have hvalid : c.toNat < 0xd800 ∨ 0xdfff < c.toNat ∧ c.toNat < 0x110000 := c.valid
    have hsize : Nat.pow 16 6 = 0x1000000 := rfl
    omega
  have hhex : (hexNumber c.toNat).length ≤ 6 :=
    Nat.toDigits_length 16 c.toNat 6 (by decide) hlt
  unfold quotedChar
  split
  · rename_i escape hescape
    have hshort : escape.length = 2 := by grind [shortEscape?]
    omega
  · split
    · simp
    · split
      · simp only [List.length_append, List.length_cons, List.length_nil]
        omega
      · simp

/-- No escape has more than ten characters. -/
theorem length_quoted_le (text : String) : (quoted text).length ≤ 10 * text.length + 2 := by
  have hinside : (text.toList.flatMap quotedChar).length ≤ 10 * text.toList.length := by
    induction text.toList with
    | nil => exact Nat.zero_le _
    | cons c cs ih =>
      have hfirst := length_quotedChar_le c
      rw [List.flatMap_cons, List.length_append, List.length_cons]
      omega
  rw [String.length_toList] at hinside
  rw [quoted, String.length_ofList, List.cons_append, List.length_cons, List.length_append]
  simp only [List.length_singleton]
  omega

end DerivationPool.Text

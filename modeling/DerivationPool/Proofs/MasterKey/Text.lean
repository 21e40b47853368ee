import DerivationPool.MasterKey
import DerivationPool.Proofs.Text.Hex
import DerivationPool.Text.Classes

/-!
Keys as text. First what is left of a text when the white space at both ends is cut away: it is
a part of the text, it neither begins nor ends with white space, and there is no other such
part.
-/
namespace DerivationPool.Text

/-- The characters that have the property White_Space, in the order of their numbers. -/
def whiteSpace : List Char := [
  '\t', '\n', '\u000b', '\u000c', '\r', ' ', '\u0085', '\u00a0', '\u1680', '\u2000', '\u2001',
  '\u2002', '\u2003', '\u2004', '\u2005', '\u2006', '\u2007', '\u2008', '\u2009', '\u200a',
  '\u2028', '\u2029', '\u202f', '\u205f', '\u3000']

def CharRanges.toList (ranges : CharRanges) : List Char :=
  ranges.flatMap fun r => (List.range' r.1 (r.2 + 1 - r.1)).map Char.ofNat

theorem CharRanges.mem_toList_of_contains {ranges : CharRanges} {c : Char}
    (h : ranges.contains c = true) : c ∈ ranges.toList := by
  obtain ⟨r, hr, hlow, hhigh⟩ := (ranges.contains_iff c).mp h
  have hrange : c.toNat ∈ List.range' r.1 (r.2 + 1 - r.1) := by
    rw [List.mem_range'_1]
    omega
  exact List.mem_flatMap.mpr ⟨r, hr, List.mem_map.mpr ⟨_, hrange, c.ofNat_toNat⟩⟩

theorem toList_blankRanges : blankRanges.toList = whiteSpace := by decide

/-- The ranges that are searched hold the characters of the property and no others. -/
theorem isBlank_iff {c : Char} : isBlank c = true ↔ c ∈ whiteSpace := by
  constructor
  · intro h
    rw [← toList_blankRanges]
    exact CharRanges.mem_toList_of_contains h
  · have hall : whiteSpace.all isBlank = true := by decide
    exact List.all_eq_true.mp hall c

theorem isBlank_eq_false_iff {c : Char} : isBlank c = false ↔ c ∉ whiteSpace := by
  rw [← isBlank_iff, Bool.not_eq_true]

/-- What is left of a text between the white space at its ends. -/
structure Trimmed (text core : List Char) : Prop where
  ends : ∃ before after, text = before ++ core ++ after ∧ (∀ c ∈ before, c ∈ whiteSpace) ∧
    ∀ c ∈ after, c ∈ whiteSpace
  head : ∀ c ∈ core.head?, c ∉ whiteSpace
  last : ∀ c ∈ core.getLast?, c ∉ whiteSpace

theorem dropWhile_append_of_head {p : Char → Bool} {before rest : List Char}
    (hbefore : ∀ c ∈ before, p c = true) (hrest : ∀ c ∈ rest.head?, p c = false) :
    (before ++ rest).dropWhile p = rest := by
  rw [List.dropWhile_append_of_pos hbefore]
  cases rest with
  | nil => rfl
  | cons c cs => simp [hrest c rfl]

theorem head_dropWhile {p : Char → Bool} (cs : List Char) :
    ∀ c ∈ (cs.dropWhile p).head?, p c = false := by
  intro c hc
  have hnot := List.head?_dropWhile_not p cs
  rw [Option.mem_def.mp hc] at hnot
  exact hnot

theorem mem_takeWhile_isBlank {cs : List Char} {c : Char} (h : c ∈ cs.takeWhile isBlank) :
    c ∈ whiteSpace :=
  isBlank_iff.mp (List.all_eq_true.mp List.all_takeWhile c h)

/-- White space in front of a text and behind it is cut away, and no more. -/
theorem trimBlank_eq {text core : List Char} (h : Trimmed text core) : trimBlank text = core := by
  obtain ⟨⟨before, after, rfl, hbefore, hafter⟩, hhead, hlast⟩ := h
  have hfront : ∀ c ∈ before, isBlank c = true := fun c hc => isBlank_iff.mpr (hbefore c hc)
  have hback : ∀ c ∈ after, isBlank c = true := fun c hc => isBlank_iff.mpr (hafter c hc)
  cases core with
  | nil =>
    have hblank : ∀ c ∈ before ++ after, isBlank c = true := by
      intro c hc
      cases List.mem_append.mp hc with
      | inl hc => exact hfront c hc
      | inr hc => exact hback c hc
    have htext : before ++ [] ++ after = (before ++ after) ++ [] := by simp
    rw [trimBlank, htext, dropWhile_append_of_head hblank (by simp)]
    rfl
  | cons first rest =>
    have hfirst : ∀ c ∈ (first :: rest ++ after).head?, isBlank c = false := by
      intro c hc
      exact isBlank_eq_false_iff.mpr (hhead c hc)
    have hend : ∀ c ∈ (first :: rest).reverse.head?, isBlank c = false := by
      intro c hc
      rw [List.head?_reverse] at hc
      exact isBlank_eq_false_iff.mpr (hlast c hc)
    rw [trimBlank, List.append_assoc, dropWhile_append_of_head hfront hfirst, List.reverse_append,
      dropWhile_append_of_head (by simpa using hback) hend, List.reverse_reverse]

/-- Cutting away what is blank at both ends leaves the trimmed text. -/
theorem trimmed_trimBlank (text : List Char) : Trimmed text (trimBlank text) := by
  -- The second cut is made from the end, so it is told of the reversed rest.
  let rest := text.dropWhile isBlank
  have hrest : rest = trimBlank text ++ (rest.reverse.takeWhile isBlank).reverse := by
    rw [trimBlank, ← List.reverse_append, List.takeWhile_append_dropWhile, List.reverse_reverse]
  refine ⟨⟨text.takeWhile isBlank, (rest.reverse.takeWhile isBlank).reverse, ?_, ?_, ?_⟩, ?_, ?_⟩
  · rw [List.append_assoc, ← hrest]
    exact List.takeWhile_append_dropWhile.symm
  · exact fun c hc => mem_takeWhile_isBlank hc
  · exact fun c hc => mem_takeWhile_isBlank (List.mem_reverse.mp hc)
  · intro c hc
    have hhead : c ∈ rest.head? := by
      rw [hrest, List.head?_append, Option.mem_def.mp hc]
      rfl
    exact isBlank_eq_false_iff.mp (head_dropWhile text c hhead)
  · intro c hc
    rw [trimBlank, List.getLast?_reverse] at hc
    exact isBlank_eq_false_iff.mp (head_dropWhile _ c hc)

/-- A text has one trimmed part. -/
theorem trimmed_iff {text core : List Char} : Trimmed text core ↔ trimBlank text = core := by
  constructor
  · exact trimBlank_eq
  · rintro rfl
    exact trimmed_trimBlank text

end DerivationPool.Text

/-!
Keys as text. What counts is the text between the white space at its ends. Digit pairs are a key,
nothing at all is refused as empty, and all else is refused as no hexadecimal text; a refusal tells
which of the two it is and nothing more.
-/
namespace DerivationPool.MasterKey

open Bytes Text

/-- A key is what the digits between the white space spell. -/
theorem ofHexText_eq_ok_iff {text : List Char} {key : MasterKey} :
    ofHexText text = .ok key ↔ Spells (trimBlank text) key.bytes := by
  rw [← ofHexChars?_eq_some_iff, ofHexText]
  cases ofHexChars? (trimBlank text) with
  | none => simp
  | some bytes =>
    obtain ⟨bytes', hne⟩ := key
    by_cases h : bytes = []
    · simp [h, hne.symm]
    · simp [h]

/-- A text is refused as empty if white space is all there is of it. -/
theorem ofHexText_eq_empty_iff {text : List Char} :
    ofHexText text = .error .empty ↔ trimBlank text = [] := by
  rw [← spells_nil_iff, ← ofHexChars?_eq_some_iff, ofHexText]
  cases ofHexChars? (trimBlank text) with
  | none => simp
  | some bytes => by_cases h : bytes = [] <;> simp [h]

/-- All else is refused as no hexadecimal text. -/
theorem ofHexText_eq_notHex_iff {text : List Char} :
    ofHexText text = .error .notHex ↔ ¬ ∃ bytes, Spells (trimBlank text) bytes := by
  simp only [← ofHexChars?_eq_some_iff]
  rw [ofHexText]
  cases ofHexChars? (trimBlank text) with
  | none => simp
  | some bytes => by_cases h : bytes = [] <;> simp [h]

theorem ofHex_eq (text : String) : ofHex text =
    match ofHexText text.toList with
    | .ok key => .ok key
    | .error fault => .error (.keySourceUnavailable fault.reason) := by
  rw [ofHex]
  cases ofHexText text.toList <;> rfl

theorem ofHex_eq_ok_iff {text : String} {key : MasterKey} :
    ofHex text = .ok key ↔ Spells (trimBlank text.toList) key.bytes := by
  rw [← ofHexText_eq_ok_iff, ofHex_eq]
  cases ofHexText text.toList with
  | error fault => simp
  | ok key' => simp

theorem ofHex_eq_error_iff {text : String} {e : DerivationError} :
    ofHex text = .error e ↔
      ∃ fault, ofHexText text.toList = .error fault ∧ e = .keySourceUnavailable fault.reason := by
  rw [ofHex_eq]
  cases ofHexText text.toList with
  | error fault => simp [eq_comm]
  | ok key => simp

theorem exists_ofHex_iff {text : String} : (∃ key, ofHex text = .ok key) ↔
    trimBlank text.toList ≠ [] ∧ ∃ bytes, Spells (trimBlank text.toList) bytes := by
  constructor
  · rintro ⟨key, hkey⟩
    rw [ofHex_eq_ok_iff] at hkey
    refine ⟨fun hnil => key.bytes_ne_nil (List.length_eq_zero_iff.mp ?_), _, hkey⟩
    have hlength := hkey.length_eq
    rw [hnil, List.length_nil] at hlength
    omega
  · rintro ⟨hne, bytes, hbytes⟩
    have hbytes_ne : bytes ≠ [] := by
      rintro rfl
      exact hne (spells_nil_iff.mp hbytes)
    exact ⟨⟨bytes, hbytes_ne⟩, ofHex_eq_ok_iff.mpr hbytes⟩

/-- No digit is white space, so a spelling is never cut. -/
theorem trimmed_padded {spelling before after : List Char} {bytes : Bytes}
    (hspells : Spells spelling bytes) (hbefore : ∀ c ∈ before, c ∈ whiteSpace)
    (hafter : ∀ c ∈ after, c ∈ whiteSpace) : Trimmed (before ++ spelling ++ after) spelling := by
  have hall : (lowerDigits ++ upperDigits).all (!isBlank ·) = true := by decide
  have hdigit : ∀ c ∈ spelling, c ∉ whiteSpace := by
    intro c hc
    have hnot := List.all_eq_true.mp hall c (List.mem_append.mpr (hspells.mem_digits c hc))
    rwa [Bool.not_eq_true', isBlank_eq_false_iff] at hnot
  exact ⟨⟨before, after, rfl, hbefore, hafter⟩, fun c hc => hdigit c (List.mem_of_mem_head? hc),
    fun c hc => hdigit c (List.mem_of_mem_getLast? hc)⟩

/-- A text is a key just if digit pairs stand between the white space at its ends, and then it is
the key that they spell. Otherwise it is refused for one of two reasons, and which it is tells only
whether there is nothing but white space. Every spelling of a key, with white space around it, is
read as the key. -/
theorem keys_of_texts :
    (∀ text : String, ∃ core, (∀ other, Trimmed text.toList other ↔ other = core) ∧
      (∀ key, ofHex text = .ok key ↔ core ≠ [] ∧ Spells core key.bytes) ∧
      ((∃ key, ofHex text = .ok key) ↔ core ≠ [] ∧ core.length % 2 = 0 ∧
        ∀ c ∈ core, c ∈ lowerDigits ∨ c ∈ upperDigits) ∧
      ∀ e, ofHex text = .error e ↔
        core = [] ∧ e = .keySourceUnavailable "master key is empty" ∨
        ¬ (core.length % 2 = 0 ∧ ∀ c ∈ core, c ∈ lowerDigits ∨ c ∈ upperDigits) ∧
          e = .keySourceUnavailable "master key is not valid hex") ∧
    ∀ (key : MasterKey) (spelling before after : List Char),
      spelling.map Char.toLower = hexChars key.bytes → (∀ c ∈ before, c ∈ whiteSpace) →
      (∀ c ∈ after, c ∈ whiteSpace) →
      ofHex (String.ofList (before ++ spelling ++ after)) = .ok key := by
  constructor
  · intro text
    refine ⟨trimBlank text.toList, fun other => ?_, fun key => ?_, ?_, fun e => ?_⟩
    · rw [trimmed_iff, eq_comm]
    · rw [ofHex_eq_ok_iff]
      refine ⟨fun h => ⟨?_, h⟩, fun h => h.2⟩
      exact (exists_ofHex_iff.mp ⟨key, ofHex_eq_ok_iff.mpr h⟩).1
    · rw [exists_ofHex_iff, exists_spells_iff]
    · rw [ofHex_eq_error_iff, ← exists_spells_iff, ← ofHexText_eq_empty_iff,
        ← ofHexText_eq_notHex_iff]
      constructor
      · rintro ⟨fault, hfault, rfl⟩
        cases fault with
        | empty => exact .inl ⟨hfault, rfl⟩
        | notHex => exact .inr ⟨hfault, rfl⟩
      · rintro (⟨hempty, rfl⟩ | ⟨hnot, rfl⟩)
        · exact ⟨.empty, hempty, rfl⟩
        · exact ⟨.notHex, hnot, rfl⟩
  · intro key spelling before after hspelling hbefore hafter
    have hspells := spells_iff_toLower.mpr hspelling
    rw [ofHex_eq_ok_iff, String.toList_ofList,
      trimBlank_eq (trimmed_padded hspells hbefore hafter)]
    exact hspells

/-- Capitals and white space of more than one byte are read. White space between the digits is not,
nor are digits of another script; white space alone is nothing at all. -/
theorem keys_of_padded_text :
    (∃ key, ofHex "\u2003 00fF1a\u00a0\n" = .ok key ∧ key.bytes = [0x00, 0xff, 0x1a]) ∧
    ofHex "0 0f" = .error (.keySourceUnavailable "master key is not valid hex") ∧
    ofHex "\u0660\u0660" = .error (.keySourceUnavailable "master key is not valid hex") ∧
    ofHex "\u3000" = .error (.keySourceUnavailable "master key is empty") := by
  obtain ⟨hread, hspelt⟩ := keys_of_texts
  refine ⟨⟨⟨[0x00, 0xff, 0x1a], by decide⟩, ?_, rfl⟩, ?_, ?_, ?_⟩
  · have htext : "\u2003 00fF1a\u00a0\n" = String.ofList
        (['\u2003', ' '] ++ ['0', '0', 'f', 'F', '1', 'a'] ++ ['\u00a0', '\n']) := rfl
    rw [htext]
    exact hspelt _ _ _ _ (by decide) (by simp [whiteSpace]) (by simp [whiteSpace])
  · obtain ⟨core, hcore, -, -, hrefused⟩ := hread "0 0f"
    obtain rfl := (hcore _).mp (trimmed_iff.mpr rfl)
    refine (hrefused _).mpr (.inr ⟨fun hdigits => ?_, rfl⟩)
    exact absurd (hdigits.2 ' ' (by decide)) (by decide)
  · obtain ⟨core, hcore, -, -, hrefused⟩ := hread "\u0660\u0660"
    obtain rfl := (hcore _).mp (trimmed_iff.mpr rfl)
    refine (hrefused _).mpr (.inr ⟨fun hdigits => ?_, rfl⟩)
    exact absurd (hdigits.2 '\u0660' (by decide)) (by decide)
  · obtain ⟨core, hcore, -, -, hrefused⟩ := hread "\u3000"
    obtain rfl := (hcore _).mp (trimmed_iff.mpr rfl)
    exact (hrefused _).mpr (.inl ⟨by decide, rfl⟩)

end DerivationPool.MasterKey

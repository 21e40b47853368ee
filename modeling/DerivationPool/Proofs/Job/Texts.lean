import DerivationPool.Operation.Table

/-!
Errors are told by their classification and their text. A text is taken apart from its front:
where the characters of one part cannot begin the next, the whole tells its parts; a number is
told by its digits.
-/
namespace DerivationPool.Text

/-- What is in front, up to the first character that cannot be in it. -/
theorem takeWhile_append {p : Char → Bool} {front back : List Char} (hfront : ∀ c ∈ front, p c)
    (hback : ∀ c ∈ back.head?, p c = false) : (front ++ back).takeWhile p = front := by
  rw [List.takeWhile_append_of_pos hfront]
  cases back with
  | nil => exact List.append_nil front
  | cons c cs => rw [List.takeWhile_cons_of_neg (by simp [hback c rfl]), List.append_nil]

/-- Two texts in two parts are equal part by part if a property of characters tells where the first
part ends. -/
theorem parts_eq {p : Char → Bool} {front front' back back' : List Char}
    (h : front ++ back = front' ++ back') (hfront : ∀ c ∈ front, p c) (hfront' : ∀ c ∈ front', p c)
    (hback : ∀ c ∈ back.head?, p c = false) (hback' : ∀ c ∈ back'.head?, p c = false) :
    front = front' ∧ back = back' := by
  have heq : front = front' := by
    rw [← takeWhile_append hfront hback, h, takeWhile_append hfront' hback']
  subst heq
  exact ⟨rfl, List.append_cancel_left h⟩

theorem isDigit_of_mem {n : Nat} {c : Char} (h : c ∈ Nat.toDigits 10 n) : c.isDigit = true :=
  Nat.isDigit_of_mem_toDigits (by decide) (by decide) h

theorem toDigits_injective {m n : Nat} (h : Nat.toDigits 10 m = Nat.toDigits 10 n) : m = n := by
  rw [← Nat.ofDigitChars_ten_toDigits (n := m), h, Nat.ofDigitChars_ten_toDigits]

/-- Two lists of one length that differ at most in how many of one character they begin with. -/
theorem eq_of_dropWhile {c : Char} {l l' : List Char} (hlength : l.length = l'.length)
    (h : l.dropWhile (· = c) = l'.dropWhile (· = c)) : l = l' := by
  have hsplit : ∀ l : List Char, l = List.replicate (l.takeWhile (· = c)).length c ++
      l.dropWhile (· = c) := by
    intro l
    have hall : l.takeWhile (· = c) = List.replicate (l.takeWhile (· = c)).length c :=
      List.eq_replicate_of_mem fun a ha => by
        simpa using List.all_eq_true.mp List.all_takeWhile a ha
    rw [← hall]
    exact List.takeWhile_append_dropWhile.symm
  have hcount : (l.takeWhile (· = c)).length = (l'.takeWhile (· = c)).length := by
    have hl := congrArg List.length (hsplit l)
    have hl' := congrArg List.length (hsplit l')
    rw [List.length_append, List.length_replicate] at hl hl'
    rw [h] at hl
    omega
  rw [hsplit l, hsplit l', h, hcount]

/-- Two numbers behind a text and with a text between them that does not begin with a digit. -/
theorem numbers_eq {front middle : String} {c : Char} {cs : List Char} {m m' n n' : Nat}
    (hmiddle : middle.toList = c :: cs) (hc : c.isDigit = false)
    (h : front ++ toString m ++ middle ++ toString n =
      front ++ toString m' ++ middle ++ toString n') : m = m' ∧ n = n' := by
  simp only [String.append_assoc, String.append_right_inj] at h
  have hlists := congrArg String.toList h
  simp only [String.toList_append, Nat.toString_eq_ofList_toDigits, String.toList_ofList,
    hmiddle] at hlists
  obtain ⟨hfirst, hrest⟩ := parts_eq hlists (fun _ => isDigit_of_mem) (fun _ => isDigit_of_mem)
    (by simpa using hc) (by simpa using hc)
  exact ⟨toDigits_injective hfirst, toDigits_injective (List.append_cancel_left hrest)⟩

end DerivationPool.Text

/-!
What a job failed of can be told from outside: the classification of an error and its
text leave only one error that has them. A text is taken apart from its front, and each
part ends where the characters end that can be in it.
-/
namespace DerivationPool

open Text

namespace Elapsed

theorem ofDigitChars_padded (count n : Nat) :
    Nat.ofDigitChars 10 (List.replicate count '0' ++ Nat.toDigits 10 n) 0 = n := by
  rw [Nat.ofDigitChars_append, Nat.ofDigitChars_replicate_zero, Nat.mul_zero,
    Nat.ofDigitChars_ten_toDigits]

theorem length_padded {places n : Nat} (hplaces : 0 < places) (hn : n < Nat.pow 10 places) :
    (List.replicate (places - (Nat.toDigits 10 n).length) '0' ++ Nat.toDigits 10 n).length =
      places := by
  have hlength : (Nat.toDigits 10 n).length ≤ places :=
    (Nat.length_toDigits_le_iff (by decide) hplaces).mpr hn
  rw [List.length_append, List.length_replicate]
  omega

/-- Without the zeros at its end a fraction is as good as with them. -/
theorem fraction_injective {places m n : Nat} (hm : m < Nat.pow 10 places)
    (hn : n < Nat.pow 10 places) (h : fraction places m = fraction places n) : m = n := by
  unfold fraction at h
  by_cases hzero : m = 0 <;> by_cases hzero' : n = 0
  · rw [hzero, hzero']
  · simp [hzero, hzero'] at h
  · simp [hzero, hzero'] at h
  · have hplaces : 0 < places := by
      refine Nat.pos_of_ne_zero ?_
      rintro rfl
      exact hzero (Nat.lt_one_iff.mp hm)
    simp only [hzero, hzero', if_false, List.cons.injEq, true_and, List.reverse_inj] at h
    have hpadded := eq_of_dropWhile (by
      rw [List.length_reverse, List.length_reverse, length_padded hplaces hm,
        length_padded hplaces hn]) h
    rw [List.reverse_inj] at hpadded
    rw [← ofDigitChars_padded (places - (Nat.toDigits 10 m).length) m, hpadded, ofDigitChars_padded]

/-- The characters in front of a unit. -/
def isPlace (c : Char) : Bool := c.isDigit || c = '.'

theorem isPlace_of_mem_fraction {places rest : Nat} {c : Char} (h : c ∈ fraction places rest) :
    isPlace c = true := by
  unfold fraction at h
  dsimp only at h
  split at h
  · cases h
  · obtain rfl | hmem := List.mem_cons.mp h
    · rfl
    · have hmem := (List.dropWhile_sublist _).subset (List.mem_reverse.mp hmem)
      rw [List.mem_reverse, List.mem_append, List.mem_replicate] at hmem
      obtain ⟨-, rfl⟩ | hdigit := hmem
      · rfl
      · simp [isPlace, isDigit_of_mem hdigit]

theorem toList_inUnit (t : Elapsed) (places : Nat) (unit : String) :
    (t.inUnit places unit).toList =
      (Nat.toDigits 10 (t.nanos / Nat.pow 10 places) ++
        fraction places (t.nanos % Nat.pow 10 places)) ++ unit.toList := by
  simp [inUnit]

theorem isDigit_of_head_fraction {places rest : Nat} :
    ∀ c ∈ (fraction places rest).head?, c.isDigit = false := by
  unfold fraction
  dsimp only
  split
  · simp
  · simp

/-- The number in front of a unit tells the span. -/
theorem eq_of_number {places : Nat} {t t' : Elapsed}
    (h : Nat.toDigits 10 (t.nanos / Nat.pow 10 places) ++
        fraction places (t.nanos % Nat.pow 10 places) =
      Nat.toDigits 10 (t'.nanos / Nat.pow 10 places) ++
        fraction places (t'.nanos % Nat.pow 10 places)) : t = t' := by
  obtain ⟨hwhole, hfraction⟩ := parts_eq h (fun _ => isDigit_of_mem) (fun _ => isDigit_of_mem)
    isDigit_of_head_fraction isDigit_of_head_fraction
  have hsize : 0 < Nat.pow 10 places := Nat.pow_pos (by decide)
  have hquotient := toDigits_injective hwhole
  have hrest := fraction_injective (Nat.mod_lt _ hsize) (Nat.mod_lt _ hsize) hfraction
  have hnanos : t.nanos = t'.nanos := by
    rw [← Nat.div_add_mod t.nanos (Nat.pow 10 places), hquotient, hrest, Nat.div_add_mod]
  cases t
  cases t'
  exact congrArg Elapsed.mk hnanos

/-- The unit of so many places, if there is one. -/
def unitOf : Nat → String
  | 9 => "s"
  | 6 => "ms"
  | 3 => "µs"
  | _ => "ns"

/-- A span of time is shown in one of four units. -/
theorem text_eq (t : Elapsed) :
    ∃ places ∈ [9, 6, 3, 0], t.text = t.inUnit places (unitOf places) := by
  unfold text
  split
  · exact ⟨9, by decide, rfl⟩
  split
  · exact ⟨6, by decide, rfl⟩
  split
  · exact ⟨3, by decide, rfl⟩
  · exact ⟨0, by decide, rfl⟩

/-- Different spans have different texts. -/
theorem text_injective {t t' : Elapsed} (h : t.text = t'.text) : t = t' := by
  obtain ⟨places, hplaces, htext⟩ := t.text_eq
  obtain ⟨places', hplaces', htext'⟩ := t'.text_eq
  rw [htext, htext'] at h
  have hlists := congrArg String.toList h
  rw [toList_inUnit, toList_inUnit] at hlists
  have hplace : ∀ whole rest places : Nat,
      ∀ c ∈ Nat.toDigits 10 whole ++ fraction places rest, isPlace c = true := by
    intro whole rest places c hc
    obtain hc | hc := List.mem_append.mp hc
    · simp [isPlace, isDigit_of_mem hc]
    · exact isPlace_of_mem_fraction hc
  have hunit : ∀ places ∈ [9, 6, 3, 0], ∀ c ∈ (unitOf places).toList.head?, isPlace c = false := by
    simp [unitOf, isPlace]
  obtain ⟨hnumber, hunits⟩ := parts_eq hlists (hplace _ _ _) (hplace _ _ _)
    (hunit places hplaces) (hunit places' hplaces')
  have hdistinct : ∀ a ∈ [9, 6, 3, 0], ∀ b ∈ [9, 6, 3, 0],
      (unitOf a).toList = (unitOf b).toList → a = b := by
    decide
  obtain rfl := hdistinct places hplaces places' hplaces' hunits
  exact eq_of_number hnumber

end Elapsed

/-- Classification and text together tell the error of a derivation. -/
theorem DerivationError.eq_of_texts {e e' : DerivationError} (hkind : e.kind = e'.kind)
    (hmessage : e.message = e'.message) : e = e' := by
  cases e with
  | entropyUnavailable reason =>
    cases e' with
    | entropyUnavailable reason' =>
      exact congrArg entropyUnavailable ((String.append_right_inj _).mp hmessage)
    | _ => simp [kind] at hkind
  | emptyKeyingMaterial | emptySalt | zeroLength =>
    -- These have no text of their own: the classification alone tells them.
    cases e' <;> simp_all [kind]
  | lengthExceeded requested max =>
    cases e' with
    | lengthExceeded requested' max' =>
      have hnumbers : "output length " ++ toString requested ++ " exceeds HKDF maximum of " ++
          toString max = "output length " ++ toString requested' ++ " exceeds HKDF maximum of " ++
          toString max' := hmessage
      obtain ⟨rfl, rfl⟩ := numbers_eq rfl rfl hnumbers
      rfl
    | _ => simp [kind] at hkind
  | unsupportedHash name =>
    cases e' with
    | unsupportedHash name' =>
      exact congrArg unsupportedHash ((String.append_right_inj _).mp hmessage)
    | _ => simp [kind] at hkind
  | keySourceUnavailable reason =>
    cases e' with
    | keySourceUnavailable reason' =>
      exact congrArg keySourceUnavailable ((String.append_right_inj _).mp hmessage)
    | _ => simp [kind] at hkind

/-- The first six characters of a text: they tell which kind of error it is the text of. -/
def MessageError.opening : MessageError → String
  | encodeFailed _ => "CBOR e"
  | decodeFailed _ => "CBOR d"
  | tooLarge _ _ => "messag"
  | emptyField _ => "field "

/-- The kind of an error shows in the first six characters of its text. -/
theorem MessageError.take_text (e : MessageError) : e.text.toList.take 6 = e.opening.toList := by
  have htake : ∀ front back start : String, front.toList.take 6 = start.toList →
      6 ≤ front.toList.length → (front ++ back).toList.take 6 = start.toList := by
    intro front back start hstart hlength
    rw [String.toList_append, List.take_append_of_le_length hlength, hstart]
  cases e with
  | encodeFailed text => exact htake "CBOR encode failed: " text "CBOR e" (by decide) (by decide)
  | decodeFailed text => exact htake "CBOR decode failed: " text "CBOR d" (by decide) (by decide)
  | tooLarge size max =>
    have htext : (tooLarge size max).text =
        "message too large: " ++ (toString size ++ (" bytes (max " ++ (toString max ++ ")"))) := by
      simp only [← String.append_assoc]
      rfl
    rw [htext]
    exact htake "message too large: " _ "messag" (by decide) (by decide)
  | emptyField name =>
    have htext : (emptyField name).text = "field `" ++ (name ++ "` must not be empty") := by
      rw [← String.append_assoc]
      rfl
    rw [htext]
    exact htake "field `" _ "field " (by decide) (by decide)

/-- No two errors of messages have one text. -/
theorem MessageError.text_injective {e e' : MessageError} (h : e.text = e'.text) : e = e' := by
  have hopening : e.opening = e'.opening := by
    rw [← String.toList_inj, ← take_text, ← take_text, h]
  cases e with
  | encodeFailed text =>
    cases e' with
    | encodeFailed text' => exact congrArg encodeFailed ((String.append_right_inj _).mp h)
    | _ => simp [opening] at hopening
  | decodeFailed text =>
    cases e' with
    | decodeFailed text' => exact congrArg decodeFailed ((String.append_right_inj _).mp h)
    | _ => simp [opening] at hopening
  | tooLarge size max =>
    cases e' with
    | tooLarge size' max' =>
      obtain ⟨rfl, rfl⟩ := numbers_eq rfl rfl ((String.append_left_inj ")").mp h)
      rfl
    | _ => simp [opening] at hopening
  | emptyField name =>
    cases e' with
    | emptyField name' =>
      have hname := (String.append_left_inj "` must not be empty").mp h
      exact congrArg emptyField ((String.append_right_inj _).mp hname)
    | _ => simp [opening] at hopening

/-- The classification of a derivation that failed is that of no other error. -/
theorem DerivationError.ne_kind {name : String} (e : DerivationError)
    (hname : name ∈ ["unknown_operation", "invalid_job", "encoding_failure", "timed_out",
      "pool_closed", "worker_panicked"]) : name ≠ e.kind := by
  rintro rfl
  cases e <;> simp [kind] at hname

/-- No two errors have the same classification and the same text. -/
theorem JobError.eq_of_texts {e e' : JobError} (hkind : e.kind = e'.kind)
    (hmessage : e.message = e'.message) : e = e' := by
  cases e with
  | unknownOperation name =>
    cases e' with
    | unknownOperation name' =>
      exact congrArg unknownOperation ((String.append_right_inj _).mp hmessage)
    | derivation error => exact absurd hkind (error.ne_kind (by simp [kind]))
    | _ => simp [kind] at hkind
  | invalidJob text =>
    cases e' with
    | invalidJob text' => exact congrArg invalidJob ((String.append_right_inj _).mp hmessage)
    | derivation error => exact absurd hkind (error.ne_kind (by simp [kind]))
    | _ => simp [kind] at hkind
  | derivation error =>
    cases e' with
    | derivation error' =>
      exact congrArg derivation (error.eq_of_texts hkind ((String.append_right_inj _).mp hmessage))
    | _ => exact absurd hkind.symm (error.ne_kind (by simp [kind]))
  | encoding error =>
    cases e' with
    | encoding error' =>
      exact congrArg encoding (error.text_injective ((String.append_right_inj _).mp hmessage))
    | derivation error' => exact absurd hkind (error'.ne_kind (by simp [kind]))
    | _ => simp [kind] at hkind
  | timedOut t =>
    cases e' with
    | timedOut t' =>
      exact congrArg timedOut (t.text_injective ((String.append_right_inj _).mp hmessage))
    | derivation error => exact absurd hkind (error.ne_kind (by simp [kind]))
    | _ => simp [kind] at hkind
  | poolClosed =>
    cases e' with
    | poolClosed => rfl
    | derivation error => exact absurd hkind (error.ne_kind (by simp [kind]))
    | _ => simp [kind] at hkind
  | workerPanicked =>
    cases e' with
    | workerPanicked => rfl
    | derivation error => exact absurd hkind (error.ne_kind (by simp [kind]))
    | _ => simp [kind] at hkind

end DerivationPool

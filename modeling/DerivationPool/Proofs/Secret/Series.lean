import DerivationPool.Entropy
import DerivationPool.Proofs.Secret.Drawing

/-!
Derivations in a row. A deriver that was built makes one read for each of them, and
what a derivation comes to is told by its read: a whole salt always gives a secret, and
a failed read gives the error of the source and nothing else. How much a failed read has
written makes no difference, neither to its own derivation nor to any after it. Only a
deriver whose salts are longer than any buffer reads nothing: it was built like any
other, and its derivations panic.
-/
namespace DerivationPool

variable {σ : Type}

/-- Two readings that differ at most in what was written before a failure. -/
inductive Reading.Alike {n : Nat} : Reading n → Reading n → Prop where
  | filled (bytes : Bytes) (length_eq length_eq' : bytes.length = n) :
      Alike (.filled bytes length_eq) (.filled bytes length_eq')
  | failed (written written' : Bytes) (error : DerivationError) :
      Alike (.failed written error) (.failed written' error)
  | panicked : Alike .panicked .panicked

namespace Entropy

/-- Two sources that differ at most in what their failed reads have written. -/
def Alike (source other : Entropy σ) : Prop :=
  ∀ n state, (source.read n state).1.Alike (other.read n state).1 ∧
    (source.read n state).2 = (other.read n state).2

/-- A source with a record of the lengths that were read of it. -/
def recorded (source : Entropy σ) : Entropy (σ × List Nat) where
  read n state :=
    ((source.read n state.1).1, (source.read n state.1).2, state.2 ++ [n])
  waits state := source.waits state.1

end Entropy

namespace Secret.Deriver

variable {d : Deriver} {source other : Entropy σ}

/-- So many derivations, each from the state in which the one before left the source. -/
def series (d : Deriver) (source : Entropy σ) :
    Nat → σ → List (Attempt (Except DerivationError Derived)) × σ
  | 0, state => ([], state)
  | count + 1, state =>
    let (first, state) := d.next source state
    let (others, state) := series d source count state
    (first :: others, state)

/-- What a derivation comes to, by what its read came to. -/
inductive Follows (d : Deriver) : Reading d.saltLength → Attempt (Except DerivationError Derived) →
    Prop where
  | filled (salt : Bytes) (length_eq : salt.length = d.saltLength) (secret : Bytes)
      (derived : derive .sha256 d.master.bytes salt d.params.info d.params.secretLength =
        .ok secret)
      (length_secret : secret.length = d.params.secretLength) :
      Follows d (.filled salt length_eq) (.returned (.ok ⟨salt, secret⟩))
  | failed (written : Bytes) (error : DerivationError) :
      Follows d (.failed written error) (.returned (.error error))
  | panicked : Follows d .panicked .panicked

/-- The checks of a deriver leave no fault in its requests. -/
theorem derive_of_ne_nil (d : Deriver) {salt : Bytes} (hsalt : salt ≠ []) :
    derive .sha256 d.master.bytes salt d.params.info d.params.secretLength =
      .ok (d.secretOf salt) := by
  obtain ⟨-, hpos, hle⟩ := (Params.validate_eq_ok_iff _).mp d.validate_eq_ok
  have hvalid := (validate_eq_ok_iff .sha256 d.master.bytes salt d.params.secretLength).mpr
    ⟨d.master.bytes_ne_nil, hsalt, hpos, hle⟩
  exact derive_of_valid hvalid

theorem replay_of_ne_nil (d : Deriver) {salt : Bytes} (hsalt : salt ≠ []) :
    d.replay salt = .ok ⟨salt, d.secretOf salt⟩ := by
  have hderive := d.derive_of_ne_nil hsalt
  rw [replay, Algorithm.standard, hderive]
  rfl

/-- A salt that was read is answered with the response of its secret, if that fits. -/
theorem outcome_filled (d : Deriver) {salt : Bytes} (hlength : salt.length = d.saltLength) :
    d.outcome (.filled salt hlength) =
      .returned ((DerivationResponse.encodeParts salt (d.secretOf salt)).mapError .encoding) := by
  have hsalt : salt ≠ [] := List.ne_nil_of_length_pos (hlength ▸ d.saltLength_pos)
  simp only [outcome, Reading.salt, Attempt.map_returned, Except.bind, d.replay_of_ne_nil hsalt]
  rfl

/-- What a derivation makes of its read follows from the read alone. -/
theorem follows_replay (d : Deriver) (reading : Reading d.saltLength) :
    d.Follows reading (reading.salt.map fun salt => salt.bind d.replay) := by
  cases reading with
  | filled salt hlength =>
    have hsalt : salt ≠ [] := by
      intro hnil
      have hpos := d.saltLength_pos
      rw [← hlength, hnil] at hpos
      exact Nat.lt_irrefl 0 hpos
    simp only [Reading.salt, Attempt.map_returned, Except.bind, d.replay_of_ne_nil hsalt]
    exact .filled salt hlength _ (d.derive_of_ne_nil hsalt)
      (length_material .sha256 d.master.bytes salt _ _)
  | failed written error => exact .failed written error
  | panicked => exact .panicked

theorem length_series (d : Deriver) (source : Entropy σ) (count : Nat) (state : σ) :
    (d.series source count state).1.length = count := by
  induction count generalizing state with
  | zero => rfl
  | succ count ih => simp [series, ih]

/-- The reads of a series from its second on are a series too. -/
theorem stateAfter_succ (source : Entropy σ) (n k : Nat) (state : σ) :
    source.stateAfter n state (k + 1) = source.stateAfter n (source.read n state).2 k := by
  induction k with
  | zero => rfl
  | succ k ih => rw [Entropy.stateAfter, ih, Entropy.stateAfter]

/-- The derivations of a series whose salts there is no buffer for. -/
theorem series_of_lt (hlarge : Bytes.maxLength < d.saltLength) (source : Entropy σ) (count : Nat)
    (state : σ) : d.series source count state = (List.replicate count .panicked, state) := by
  induction count with
  | zero => rfl
  | succ count ih => simp only [series, next_of_lt hlarge, ih, List.replicate_succ]

/-- What the derivations of a series come to, one after the other. -/
theorem follows_series (hroom : d.saltLength ≤ Bytes.maxLength) (source : Entropy σ)
    {count k : Nat} (hk : k < count) (state : σ) :
    ∃ result, (d.series source count state).1[k]? = some result ∧
      d.Follows (source.reading d.saltLength state k) result := by
  induction count generalizing k state with
  | zero => exact absurd hk (Nat.not_lt_zero k)
  | succ count ih =>
    simp only [series, next_of_le hroom]
    cases k with
    | zero => exact ⟨_, rfl, d.follows_replay _⟩
    | succ k =>
      obtain ⟨result, hget, hfollows⟩ :=
        ih (Nat.lt_of_succ_lt_succ hk) (source.read d.saltLength state).2
      refine ⟨result, hget, ?_⟩
      rwa [Entropy.reading, stateAfter_succ]

/-- A derivation fails only where its read does. -/
theorem failed_of_mem_series (d : Deriver) {count : Nat} {state : σ} {error : DerivationError}
    (h : .returned (.error error) ∈ (d.series source count state).1) :
    ∃ k < count, ∃ written, source.reading d.saltLength state k = .failed written error := by
  have hroom : d.saltLength ≤ Bytes.maxLength := by
    refine Nat.le_of_not_lt fun hlarge => ?_
    rw [series_of_lt hlarge] at h
    cases List.eq_of_mem_replicate h
  obtain ⟨k, hget⟩ := List.getElem?_of_mem h
  obtain ⟨hk, -⟩ := List.getElem?_eq_some_iff.mp hget
  rw [length_series] at hk
  obtain ⟨result, hresult, hfollows⟩ := follows_series hroom source hk state
  rw [hget] at hresult
  cases hresult
  generalize hreading : source.reading d.saltLength state k = reading at hfollows
  cases hfollows with
  | failed written => exact ⟨k, hk, written, hreading⟩

/-- Each derivation of a series leaves one entry in the record. -/
theorem series_recorded (hroom : d.saltLength ≤ Bytes.maxLength) (source : Entropy σ)
    (count : Nat) (state : σ) (record : List Nat) :
    d.series source.recorded count (state, record) =
      ((d.series source count state).1, (d.series source count state).2,
        record ++ List.replicate count d.saltLength) := by
  induction count generalizing state record with
  | zero => simp [series]
  | succ count ih =>
    simp only [series, next_of_le hroom, Entropy.recorded] at ih ⊢
    simp [ih, List.replicate_succ]

/-- A failed read is worth nothing, whatever it has written. -/
theorem salt_of_alike {n : Nat} {reading reading' : Reading n} (h : reading.Alike reading') :
    reading.salt = reading'.salt := by
  cases h <;> rfl

/-- A series cannot tell two sources apart by what their failed reads have written. -/
theorem series_of_alike (halike : source.Alike other) (d : Deriver) (count : Nat) (state : σ) :
    d.series other count state = d.series source count state := by
  induction count generalizing state with
  | zero => rfl
  | succ count ih =>
    have hnext : d.next other state = d.next source state := by
      obtain hlarge | hroom := Nat.lt_or_ge Bytes.maxLength d.saltLength
      · rw [next_of_lt hlarge, next_of_lt hlarge]
      · obtain ⟨hreading, hstate⟩ := halike d.saltLength state
        rw [next_of_le hroom, next_of_le hroom, salt_of_alike hreading, hstate]
    simp only [series, hnext, ih]

theorem build_eq_ok {master : MasterKey} {params : Params} (h : build master params = .ok d) :
    d.master = master ∧ d.params = params := by
  unfold build at h
  split at h
  · cases h
    exact ⟨rfl, rfl⟩
  · cases h

theorem build_eq_error {master : MasterKey} {params : Params} {e : DerivationError}
    (h : params.validate = .error e) : build master params = .error e := by
  unfold build
  split
  · rename_i hvalid
    rw [hvalid] at h
    cases h
  · rename_i e' hvalid
    rw [hvalid] at h
    cases h
    rfl

/-- A deriver is built from all parameters that pass the check. -/
theorem exists_build_iff (master : MasterKey) (params : Params) :
    (∃ d, build master params = .ok d) ↔ params.validate = .ok () := by
  constructor
  · rintro ⟨d, h⟩
    rw [← (build_eq_ok h).2]
    exact d.validate_eq_ok
  · intro hvalid
    cases hbuild : build master params with
    | ok d => exact ⟨d, rfl⟩
    | error e =>
      unfold build at hbuild
      split at hbuild
      · cases hbuild
      · rename_i e' hinvalid
        rw [hinvalid] at hvalid
        cases hvalid

/-- A deriver is built where its parameters have no fault, and the first fault is what is said of
others. Of every deriver that is built and whose salts there is a buffer for, and of every series of
its derivations: each makes one read, of the whole length of a salt; it fails if its read does, with
the error of the source, and a salt that was read is answered with the secret which anyone derives
from it who has the key. A deriver with longer salts makes no read, and each of its derivations
panics. What failed reads have written shows nowhere. -/
theorem series_of_build (master : MasterKey) (params : Params) :
    ((∃ d, build master params = .ok d) ↔
      1 ≤ params.saltLength ∧ 1 ≤ params.secretLength ∧ params.secretLength ≤ 8160) ∧
    (params.saltLength = 0 → build master params = .error .emptySalt) ∧
    (params.saltLength ≠ 0 → params.secretLength = 0 →
      build master params = .error .zeroLength) ∧
    (params.saltLength ≠ 0 → 8160 < params.secretLength →
      build master params = .error (.lengthExceeded params.secretLength 8160)) ∧
    ∀ d, build master params = .ok d → d.master = master ∧ d.params = params ∧
      ∀ {σ : Type} (source : Entropy σ) (state : σ) (count : Nat),
        (params.saltLength ≤ Bytes.maxLength →
          (∀ k < count, ∃ result, (d.series source count state).1[k]? = some result ∧
            d.Follows (source.reading d.saltLength state k) result) ∧
          d.series source.recorded count (state, []) =
            ((d.series source count state).1, (d.series source count state).2,
              List.replicate count params.saltLength)) ∧
        (Bytes.maxLength < params.saltLength →
          d.series source count state = (List.replicate count .panicked, state) ∧
          d.series source.recorded count (state, []) =
            (List.replicate count .panicked, state, [])) ∧
        (d.series source count state).1.length = count ∧
        (∀ error, .returned (.error error) ∈ (d.series source count state).1 →
          ∃ k < count, ∃ written, source.reading d.saltLength state k = .failed written error) ∧
        ∀ other, source.Alike other → d.series other count state = d.series source count state := by
  have hmax : Params.maxSecretLength = 8160 := rfl
  refine ⟨?_, ?_, ?_, ?_, ?_⟩
  · rw [exists_build_iff, Params.validate_eq_ok_iff, hmax]
    rfl
  · intro hsalt
    apply build_eq_error
    rw [Params.validate, if_pos hsalt]
  · intro hsalt hzero
    apply build_eq_error
    rw [Params.validate, if_neg hsalt, if_pos hzero]
  · intro hsalt hlong
    apply build_eq_error
    have hpos : params.secretLength ≠ 0 := by omega
    rw [Params.validate, if_neg hsalt, if_neg hpos, hmax, if_pos hlong]
  · intro d hbuild
    obtain ⟨rfl, rfl⟩ := build_eq_ok hbuild
    refine ⟨rfl, rfl, ?_⟩
    intro σ source state count
    refine ⟨fun hroom => ⟨fun k hk => follows_series hroom source hk state, ?_⟩,
      fun hlarge => ⟨series_of_lt hlarge source count state, series_of_lt hlarge _ count _⟩,
      d.length_series source count state, fun error herror => d.failed_of_mem_series herror,
      fun other halike => series_of_alike halike d count state⟩
    rw [series_recorded hroom]
    rfl

/-- A read that fails with one byte written, whichever it is, and one that fills. -/
theorem series_of_partial_fill :
    ∃ (d : Deriver) (secret : Bytes), build .reference ⟨1, 1, []⟩ = .ok d ∧
      derive .sha256 MasterKey.reference.bytes [7] [] 1 = .ok secret ∧
      ∀ written : UInt8,
        (d.series (Entropy.Script.source
          [.partly [written] 1 (.entropyUnavailable "dry"), .fill [7]]) 2 ⟨0, 0, []⟩).1 =
            [.returned (.error (.entropyUnavailable "dry")), .returned (.ok ⟨[7], secret⟩)] := by
  let source (written : UInt8) : Entropy Entropy.Progress :=
    Entropy.Script.source [.partly [written] 1 (.entropyUnavailable "dry"), .fill [7]]
  let d : Deriver := ⟨.reference, ⟨1, 1, []⟩, rfl⟩
  have hbuild : build .reference ⟨1, 1, []⟩ = .ok d := rfl
  have hbuilt := (series_of_build .reference ⟨1, 1, []⟩).2.2.2.2 d hbuild
  obtain ⟨hread, -, hlength, -, hother⟩ := hbuilt.2.2 (source 9) ⟨0, 0, []⟩ 2
  obtain ⟨hfollows, -⟩ := hread (by decide)
  obtain ⟨first, hfirst, hfailed⟩ := hfollows 0 (by decide)
  obtain ⟨second, hsecond, hfilled⟩ := hfollows 1 (by decide)
  have hreading : (source 9).reading d.saltLength ⟨0, 0, []⟩ 0 =
      .failed [9] (.entropyUnavailable "dry") := rfl
  have hreading' : (source 9).reading d.saltLength ⟨0, 0, []⟩ 1 = .filled [7] rfl := rfl
  rw [hreading] at hfailed
  rw [hreading'] at hfilled
  cases hfailed
  cases hfilled with
  | filled _ _ secret hderive =>
  refine ⟨d, secret, hbuild, hderive, fun written => ?_⟩
  have halike : (source 9).Alike (source written) := by
    rintro n ⟨count, counter, reads⟩
    match count with
    | 0 => exact ⟨.failed _ _ _, rfl⟩
    | 1 | _ + 2 => exact ⟨.filled _ _ _, rfl⟩
  rw [hother _ halike]
  generalize (d.series (source 9) 2 ⟨0, 0, []⟩).1 = results at hfirst hsecond hlength
  match results with
  | [a, b] =>
    cases hfirst
    cases hsecond
    rfl
  | [] | [_] | _ :: _ :: _ :: _ => cases hlength

/-- A deriver is built for salts of `2 ^ 63` bytes. A read of its source would fail with an error,
but there is none: the derivation panics, and the record of reads stays empty. -/
theorem panicked_of_long_salt :
    ∃ (d : Deriver) (dry : Entropy Entropy.Progress),
      build .reference ⟨1 <<< 63, 1, []⟩ = .ok d ∧
      dry.reading d.saltLength ⟨0, 0, []⟩ 0 = .failed [] (.entropyUnavailable "dry") ∧
      d.series dry.recorded 1 (⟨0, 0, []⟩, []) = ([.panicked], ⟨0, 0, []⟩, []) :=
  ⟨⟨.reference, ⟨1 <<< 63, 1, []⟩, rfl⟩,
    Entropy.Script.source [.fail (.entropyUnavailable "dry")], rfl, rfl,
    series_of_lt (by decide) _ 1 _⟩

end Secret.Deriver

end DerivationPool

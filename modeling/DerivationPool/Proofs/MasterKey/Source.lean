import DerivationPool.MasterKey

/-!
What comes of asking a source for a key. A source has a key or lacks one, in one of a few
ways, and then it is refused for a reason that is made of its name and of the way. Nothing
but the source itself has a part in either.
-/
namespace DerivationPool.KeySource

variable {s s' : Surroundings} {source : KeySource}

/-- The bytes that a source has for a key. -/
inductive Supplies (s : Surroundings) : KeySource → Bytes → Prop where
  | fixed {bytes : Bytes} (hne : bytes ≠ []) : Supplies s (.fixed bytes) bytes
  | environment {name text : String} {raw bytes : Bytes} (hvalue : s.value? name = some raw)
      (htext : Text.decode? raw = some text)
      (hhex : Bytes.ofHexChars? (Text.trimBlank text.toList) = some bytes) (hne : bytes ≠ []) :
      Supplies s (.environment name) bytes
  | file {path : String} {bytes : Bytes} (hread : s.read path = .ok bytes) (hne : bytes ≠ []) :
      Supplies s (.file path) bytes

/-- The ways in which a source may have no key. -/
inductive Lack where
  | emptyFixed | unset | notText | notHex | emptyText
  | unreadable (fault : FileFault)
  | emptyFile
  deriving DecidableEq, Repr

/-- A source that has no key, and why. -/
inductive Lacks (s : Surroundings) : KeySource → Lack → Prop where
  | emptyFixed : Lacks s (.fixed []) .emptyFixed
  | unset {name : String} (hvalue : s.value? name = none) : Lacks s (.environment name) .unset
  | notText {name : String} {raw : Bytes} (hvalue : s.value? name = some raw)
      (htext : Text.decode? raw = none) : Lacks s (.environment name) .notText
  | notHex {name text : String} {raw : Bytes} (hvalue : s.value? name = some raw)
      (htext : Text.decode? raw = some text)
      (hhex : Bytes.ofHexChars? (Text.trimBlank text.toList) = none) :
      Lacks s (.environment name) .notHex
  | emptyText {name text : String} {raw : Bytes} (hvalue : s.value? name = some raw)
      (htext : Text.decode? raw = some text)
      (hhex : Bytes.ofHexChars? (Text.trimBlank text.toList) = some []) :
      Lacks s (.environment name) .emptyText
  | unreadable {path : String} {fault : FileFault} (hread : s.read path = .error fault) :
      Lacks s (.file path) (.unreadable fault)
  | emptyFile {path : String} (hread : s.read path = .ok []) : Lacks s (.file path) .emptyFile

def label : KeySource → String
  | fixed _ => ""
  | environment name => name
  | file path => path

/-- What is said of a source without a key. -/
def Lack.reason (label : String) : Lack → String
  | emptyFixed => "static key is empty"
  | unset => "environment variable " ++ label ++ " is not set"
  | notText => "environment variable " ++ label ++ " is not valid unicode"
  | notHex => "master key is not valid hex"
  | emptyText => "master key is empty"
  | unreadable fault => "failed to read " ++ label ++ ": " ++ fault.text
  | emptyFile => label ++ " is empty"

/-- Two surroundings with the same in a source. -/
def SameIn (s s' : Surroundings) : KeySource → Prop
  | fixed _ => True
  | environment name => s.value? name = s'.value? name
  | file path => s.read path = s'.read path

/-- There is no third way for a source. -/
theorem supplies_or_lacks (s : Surroundings) (source : KeySource) :
    (∃ bytes, source.Supplies s bytes) ∨ ∃ lack, source.Lacks s lack := by
  cases source with
  | fixed bytes =>
    cases bytes with
    | nil => exact .inr ⟨_, .emptyFixed⟩
    | cons b bytes => exact .inl ⟨_, .fixed (List.cons_ne_nil _ _)⟩
  | environment name =>
    cases hvalue : s.value? name with
    | none => exact .inr ⟨_, .unset hvalue⟩
    | some raw =>
    cases htext : Text.decode? raw with
    | none => exact .inr ⟨_, .notText hvalue htext⟩
    | some text =>
    cases hhex : Bytes.ofHexChars? (Text.trimBlank text.toList) with
    | none => exact .inr ⟨_, .notHex hvalue htext hhex⟩
    | some bytes =>
      cases bytes with
      | nil => exact .inr ⟨_, .emptyText hvalue htext hhex⟩
      | cons b bytes => exact .inl ⟨_, .environment hvalue htext hhex (List.cons_ne_nil _ _)⟩
  | file path =>
    cases hread : s.read path with
    | error fault => exact .inr ⟨_, .unreadable hread⟩
    | ok bytes =>
      cases bytes with
      | nil => exact .inr ⟨_, .emptyFile hread⟩
      | cons b bytes => exact .inl ⟨_, .file hread (List.cons_ne_nil _ _)⟩

theorem keyOr_of_ne_nil (fault : KeyFault) {bytes : Bytes} (hne : bytes ≠ []) :
    keyOr fault bytes = .ok ⟨bytes, hne⟩ := dif_neg hne

/-- What a source supplies is the key, byte for byte. -/
theorem load_of_supplies {bytes : Bytes} (h : source.Supplies s bytes) :
    ∃ key : MasterKey, source.load s = .ok key ∧ key.bytes = bytes := by
  cases h with
  | fixed hne =>
    refine ⟨⟨bytes, hne⟩, ?_, rfl⟩
    rw [load, find, keyOr_of_ne_nil _ hne]
    rfl
  | environment hvalue htext hhex hne =>
    refine ⟨⟨bytes, hne⟩, ?_, rfl⟩
    simp only [load, find, hvalue, htext, MasterKey.ofHexText, hhex, dif_neg hne]
    rfl
  | file hread hne =>
    refine ⟨⟨bytes, hne⟩, ?_, rfl⟩
    simp only [load, find, hread, keyOr_of_ne_nil _ hne]
    rfl

/-- A source without a key is refused for a reason that names the source and the way. -/
theorem load_of_lacks {lack : Lack} (h : source.Lacks s lack) :
    source.load s = .error (.keySourceUnavailable (lack.reason source.label)) := by
  cases h with
  | emptyFixed => rfl
  | unset hvalue =>
    simp only [load, find, hvalue]
    rfl
  | notText hvalue htext =>
    simp only [load, find, hvalue, htext]
    rfl
  | notHex hvalue htext hhex | emptyText hvalue htext hhex =>
    simp only [load, find, hvalue, htext, MasterKey.ofHexText, hhex]
    rfl
  | unreadable hread | emptyFile hread =>
    simp only [load, find, hread]
    rfl

/-- Nothing in the surroundings but the source itself is looked at. -/
theorem load_of_sameIn (h : source.SameIn s s') : source.load s' = source.load s := by
  cases source with
  | fixed bytes => rfl
  | environment name =>
    have hvalue : s.value? name = s'.value? name := h
    rw [load, load, find, find, hvalue]
  | file path =>
    have hread : s.read path = s'.read path := h
    rw [load, load, find, find, hread]

end DerivationPool.KeySource

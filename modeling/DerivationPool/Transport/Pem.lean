import DerivationPool.Bytes
import DerivationPool.Text.Display
import DerivationPool.Text.Utf8

/-!
Files of certificates and keys, and the base64 in them. White space may stand anywhere in
base64, and the padding may be left out. The text is read in blocks of eight symbols, two groups
each. A block with another behind it has no padding, and in the last one only the last group
has.
-/
namespace DerivationPool.Base64

inductive Fault where
  | invalidCharacter (byte : UInt8)
  | prematurePadding
  | invalidTrailingPadding
  deriving DecidableEq, Repr

def Fault.text : Fault → String
  | invalidCharacter byte => "InvalidCharacter(" ++ toString byte.toNat ++ ")"
  | prematurePadding => "PrematurePadding"
  | invalidTrailingPadding => "InvalidTrailingPadding"

def digit? (b : UInt8) : Option Nat :=
  if 65 ≤ b ∧ b ≤ 90 then some (b.toNat - 65)
  else if 97 ≤ b ∧ b ≤ 122 then some (b.toNat - 71)
  else if 48 ≤ b ∧ b ≤ 57 then some (b.toNat + 4)
  else if b = 43 then some 62
  else if b = 47 then some 63
  else none

def isSpace (b : UInt8) : Bool := b = 32 || (9 ≤ b && b ≤ 13)

/-- Six bits, or what fills an unfinished group. -/
inductive Symbol where
  | digit (value : Nat)
  | padding
  deriving DecidableEq, Repr

def symbol (b : UInt8) : Except Fault Symbol :=
  if b = 61 then .ok .padding
  else
    match digit? b with
    | some value => .ok (.digit value)
    | none => .error (.invalidCharacter b)

def Symbol.value? : Symbol → Option Nat
  | digit value => some value
  | padding => none

/-- The bytes of whole groups and of an unfinished one. -/
def bytesOf : List Nat → Bytes
  | a :: b :: c :: d :: rest =>
    Bytes.ofNat 3 (((a * 64 + b) * 64 + c) * 64 + d) ++ bytesOf rest
  | [a, b, c] => Bytes.ofNat 2 (((a * 64 + b) * 64 + c) / 4)
  | [a, b] => Bytes.ofNat 1 ((a * 64 + b) / 16)
  | _ => []

def inner (symbols : List Symbol) : Except Fault Bytes :=
  match symbols.mapM Symbol.value? with
  | some values => .ok (bytesOf values)
  | none => .error .prematurePadding

def lastGroup : List Symbol → Except Fault Bytes
  | [] => .ok []
  | [.digit a, .digit b, .digit c, .digit d] => .ok (bytesOf [a, b, c, d])
  | [.digit a, .digit b, .digit c] => .ok (bytesOf [a, b, c])
  | [.digit a, .digit b, .digit c, .padding] => .ok (bytesOf [a, b, c])
  | [.digit a, .digit b] => .ok (bytesOf [a, b])
  | [.digit a, .digit b, .padding, .padding] => .ok (bytesOf [a, b])
  | _ => .error .invalidTrailingPadding

def lastBlock (block : List Symbol) : Except Fault Bytes :=
  if 4 < block.length then do
    return (← inner (block.take 4)) ++ (← lastGroup (block.drop 4))
  else lastGroup block

def blockSize : Nat := 8

/-- Reads on behind finished blocks, the last of them first, and the symbols of one begun. -/
def decodeFrom (finished : List Bytes) (block : List Symbol) : Bytes → Except Fault Bytes
  | [] => (lastBlock block).map fun bytes => (bytes :: finished).reverse.flatten
  | b :: rest =>
    if isSpace b then decodeFrom finished block rest
    else
      match symbol b with
      | .error fault => .error fault
      | .ok next =>
        if block.length < blockSize then decodeFrom finished (block ++ [next]) rest
        else
          match inner block with
          | .error fault => .error fault
          | .ok bytes => decodeFrom (bytes :: finished) [next] rest

def decode (text : Bytes) : Except Fault Bytes := decodeFrom [] [] text

end DerivationPool.Base64

/-!
Files of certificates and keys: sections of base64 between a line that begins them
and a line that ends them. What stands outside a section is passed over, and so is a
section of a kind that is not known.
-/
namespace DerivationPool.Pem

inductive Fault where
  | endMissing (label : Bytes)
  | illegalStart (line : Bytes)
  | content (fault : Base64.Fault)
  deriving DecidableEq, Repr

def Fault.text : Fault → String
  | endMissing label => "section end " ++ Text.quoted (Text.decodeLossy label) ++ " missing"
  | illegalStart line => "illegal section start: " ++ Text.quoted (Text.decodeLossy line)
  | content fault => fault.text

structure Section where
  label : Bytes
  content : Bytes
  deriving DecidableEq, Repr

def certificateLabel : Bytes := Text.encode "CERTIFICATE"

def rsaKeyLabel : Bytes := Text.encode "RSA PRIVATE KEY"

def curveKeyLabel : Bytes := Text.encode "EC PRIVATE KEY"

def wrappedKeyLabel : Bytes := Text.encode "PRIVATE KEY"

def keyLabels : List Bytes := [rsaKeyLabel, wrappedKeyLabel, curveKeyLabel]

def knownLabels : List Bytes :=
  certificateLabel :: keyLabels ++
    ["PUBLIC KEY", "X509 CRL", "CERTIFICATE REQUEST", "ECHCONFIG"].map Text.encode

def isLineEnd (b : UInt8) : Bool := b = 10 || b = 13

/-- The lines of a file, each with the byte that ends it. -/
def lines : Bytes → List Bytes
  | [] => []
  | b :: rest =>
    if isLineEnd b then [b] :: lines rest
    else
      match lines rest with
      | [] => [[b]]
      | line :: more => (b :: line) :: more

def dash : UInt8 := 45

def startMark : Bytes := Text.encode "-----BEGIN "

/-- The part of a line from the first of the dashes at its end; among and behind them only blanks
and line ends may stand. -/
def closing (line : Bytes) : Bytes :=
  ((line.reverse.takeWhile fun b => b = dash || b = 32 || isLineEnd b).reverse).dropWhile (· ≠ dash)

/-- The label of a line that begins a section: it stands between the mark and five dashes. -/
def startLabel (line : Bytes) : Except Fault Bytes :=
  if (closing line).count dash = 5 then
    .ok ((line.take (line.length - (closing line).length)).drop startMark.length)
  else .error (.illegalStart line)

def endMarker (label : Bytes) : Bytes := Text.encode "-----END " ++ label ++ Text.encode "-----"

/-- The sections of some lines, up to the first fault. `label` is that of the section that the
first of the lines lies in, and `body` holds the lines of its content so far, last line first. -/
def scan : List Bytes → Option Bytes → List Bytes → List (Except Fault Section)
  | [], none, _ => []
  | [], some label, _ => [.error (.endMissing label)]
  | line :: rest, current, body =>
    if startMark.isPrefixOf line then
      match startLabel line with
      | .ok label => scan rest (some label) body
      | .error fault => [.error fault]
    else
      match current with
      | none => scan rest none body
      | some label =>
        if (endMarker label).isPrefixOf line then
          if label ∈ knownLabels then
            match Base64.decode body.reverse.flatten with
            | .ok content => .ok ⟨label, content⟩ :: scan rest none []
            | .error fault => [.error (.content fault)]
          else scan rest none []
        else scan rest (some label) (line :: body)

def sections (file : Bytes) : List (Except Fault Section) := scan (lines file) none []

def certificates (file : Bytes) : Except Fault (List Bytes) := do
  let found ← (sections file).mapM id
  return (found.filter fun s => s.label = certificateLabel).map Section.content

/-- The first private key among sections; a fault counts only if it comes before. -/
def firstKey : List (Except Fault Section) → Except Fault (Option Section)
  | [] => .ok none
  | .error fault :: _ => .error fault
  | .ok s :: rest => if s.label ∈ keyLabels then .ok (some s) else firstKey rest

def privateKey (file : Bytes) : Except Fault (Option Section) := firstKey (sections file)

end DerivationPool.Pem

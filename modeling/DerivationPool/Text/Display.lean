import DerivationPool.Bytes
import DerivationPool.Text.Classes

/-!
Text as it is shown: between double quotes, in the outline of a value, and on a terminal. In
quotes, quotes, backslashes and line controls stand by short escapes, and all else that would
not show by its number.
-/
namespace DerivationPool.Text

def shortEscape? (c : Char) : Option (List Char) :=
  if c = '\t' then some ['\\', 't']
  else if c = '\r' then some ['\\', 'r']
  else if c = '\n' then some ['\\', 'n']
  else if c = '"' then some ['\\', '"']
  else if c = '\\' then some ['\\', '\\']
  else if c.toNat = 0 then some ['\\', '0']
  else none

def hexNumber (n : Nat) : List Char := Nat.toDigits 16 n

/-- A character inside quotes: combining and unprintable ones by number. -/
def quotedChar (c : Char) : List Char :=
  match shortEscape? c with
  | some escape => escape
  | none =>
    if c.toNat < 0x7f ∧ 0x20 ≤ c.toNat then [c]
    else if isGraphemeExtend c || isUnprintable c then
      ['\\', 'u', '\x7b'] ++ hexNumber c.toNat ++ ['\x7d']
    else [c]

def quoted (text : String) : String :=
  String.ofList ('"' :: text.toList.flatMap quotedChar ++ ['"'])

/-- A byte inside quotes: ASCII that shows as it is, all else as two digits. -/
def quotedByte (b : UInt8) : List Char :=
  let c := Char.ofNat b.toNat
  match shortEscape? c with
  | some escape => escape
  | none =>
    if 0x20 ≤ b ∧ b ≤ 0x7e then [c]
    else ['\\', 'x', Bytes.hexDigit (b.toNat / 16), Bytes.hexDigit (b.toNat % 16)]

def quotedBytes (bytes : Bytes) : String :=
  String.ofList ('b' :: '"' :: bytes.flatMap quotedByte ++ ['"'])

/-!
The outline of a value for a log: its name and the fields that may be shown, in
braces. A value with fields that may not be shown ends its outline in two dots.
-/

inductive Disclosure where
  | whole | partly
  deriving DecidableEq, Repr

def outlineFields (fields : List (String × String)) : List String :=
  fields.map fun f => f.1 ++ ": " ++ f.2

def outline (name : String) (fields : List (String × String)) (disclosure : Disclosure) : String :=
  let shown := outlineFields fields ++ (if disclosure = .partly then [".."] else [])
  name ++ " \x7b " ++ ", ".intercalate shown ++ " \x7d"

def quotedList (texts : List String) : String :=
  "[" ++ ", ".intercalate (texts.map quoted) ++ "]"

/-!
What a terminal shows of a text: all but control characters and control sequences.
A sequence begins with an escape, and what follows the escape tells how
far it goes. White space that breaks a sequence is shown, and text behind it too,
until the next character that is not shown.
-/

inductive Place where
  | text
  /-- Behind an escape. -/
  | escape
  /-- Behind an escape and marks that wait for a last character. -/
  | marks
  /-- In the parameters of a function. -/
  | function
  /-- In the head of a string for a device: at its start, in its parameters, behind its marks. -/
  | deviceHead | deviceParameters | deviceMarks
  /-- In a string that U+009C, or a byte like it, ends. -/
  | string
  /-- In a string that a bell ends. -/
  | command
  deriving DecidableEq, Repr

/-- A place, and whether the character before it was shown. -/
structure Display where
  place : Place
  shown : Bool
  deriving DecidableEq, Repr

def isControlSpace (c : Char) : Bool := c = '\t' || c = '\n' || c = '\x0c' || c = '\r'

def isAscii (c : Char) : Bool := c.toNat < 128

def isShown (c : Char) : Bool :=
  !isAscii c || (0x20 ≤ c.toNat && c.toNat < 0x7f) || isControlSpace c

def isBetween (first last c : Char) : Bool := first ≤ c && c ≤ last

def isMark : Char → Bool := isBetween ' ' '/'

/-- What ends a sequence with parameters. -/
def isFinal : Char → Bool := isBetween '@' '~'

/-- Whether the character or a byte of it ends a string. -/
def endsString (c : Char) : Bool := (String.ofList [c]).toUTF8.data.any (· = 0x9c)

def placeBehindEscape (c : Char) : Place :=
  if isMark c then .marks
  else if c = '[' then .function
  else if c = ']' then .command
  else if c = 'P' then .deviceHead
  else if c = 'X' || c = '^' || c = '_' then .string
  else if isBetween '0' '~' c then .text
  else .escape

/-- The place behind a character of the head of a string for a device. `parameters` are those that
it may still have. -/
def placeInDeviceHead (parameters : Char → Bool) (current : Place) (c : Char) : Place :=
  if isMark c then .deviceMarks
  else if parameters c then .deviceParameters
  else if isBetween '0' '~' c then .string
  else current

/-- The place behind a character that is neither an escape nor a cancellation. -/
def Place.next (place : Place) (c : Char) : Place :=
  match place with
  | text => text
  | escape => placeBehindEscape c
  | marks => if isBetween '0' '~' c then text else marks
  | function => if isFinal c then text else function
  | deviceHead => placeInDeviceHead (isBetween '0' '?') deviceHead c
  | deviceParameters => placeInDeviceHead (isBetween '0' ';') deviceParameters c
  | deviceMarks => placeInDeviceHead (fun _ => false) deviceMarks c
  | string => if endsString c then text else string
  | command => if c = '\x07' then text else command

def Place.showsSpace : Place → Bool
  | text | escape | marks | function => true
  | _ => false

/-- Reads a character that does not follow a shown one. -/
def displayHidden (place : Place) (c : Char) : Display :=
  if c = '\x1b' then ⟨.escape, false⟩
  else if c = '\x18' || c = '\x1a' then ⟨.text, false⟩
  else if place = .text then ⟨.text, isShown c⟩
  else if isControlSpace c && place.showsSpace then ⟨place, true⟩
  else ⟨place.next c, false⟩

/-- Reads a character. The character is shown if the result says so. -/
def Display.step (d : Display) (c : Char) : Display :=
  if d.shown && isShown c then ⟨if isAscii c then d.place else .text, true⟩
  else displayHidden d.place c

def displayFrom : Display → List Char → List Char
  | _, [] => []
  | d, c :: rest =>
    let d := d.step c
    if d.shown then c :: displayFrom d rest else displayFrom d rest

def displayed (text : String) : String := String.ofList (displayFrom ⟨.text, false⟩ text.toList)

end DerivationPool.Text

import DerivationPool.Bytes
import DerivationPool.Text.Classes

/-!
Patterns for text, of which it is only asked whether they can be read. A pattern is matched
without tables of all characters, and only where the text stays whole: under one flag characters
are matched, but cases are told apart and there are no classes of digits, blanks or words;
without the flag bytes are matched, and none beyond ASCII can be asked for.
-/
namespace DerivationPool.Pattern

inductive Fault where
  | malformed
  /-- The edges of words are asked for where words are made of all characters. -/
  | wordEdge
  deriving DecidableEq, Repr

def Fault.text : Fault → String
  | malformed => "error building NFA"
  | wordEdge =>
    "unsupported regex feature for DFAs: cannot build DFAs for regexes with Unicode word " ++
      "boundaries; switch to ASCII word boundaries, or heuristically enable Unicode word " ++
      "boundaries or use a different regex engine"

structure Flags where
  /-- Whether characters are matched, and not bytes. -/
  characters : Bool
  /-- Whether the cases of a letter are not told apart. -/
  ignoreCase : Bool
  /-- Whether blanks and comments are no part of the pattern. -/
  ignoreBlanks : Bool
  deriving DecidableEq, Repr

/-- What is left behind blanks and comments, each from a number sign to the end of its line.
`comment` tells whether the front is part of one. -/
def behindBlanks (comment : Bool) : List Char → List Char
  | [] => []
  | c :: cs =>
    if comment then behindBlanks (c ≠ '\n') cs
    else if Text.isBlank c then behindBlanks false cs
    else if c = '#' then behindBlanks true cs
    else c :: cs

abbrev Read := StateT (List Char) Option

def next : Read Char
  | [] => none
  | c :: cs => some (c, cs)

def isNext (c : Char) : Read Bool := fun cs => some (cs.head? = some c, cs)

namespace Flags

def standard : Flags := ⟨true, false, false⟩

/-- The letters of all flags, most of which do not matter here, and the sign that takes back the
flags behind it. -/
def signs : List Char := ['i', 'm', 's', 'U', 'u', 'R', 'x', '-']

/-- Whether a text sets flags: no sign is there twice, and a flag is behind the one that takes back.
-/
def isText (text : List Char) : Bool :=
  text.all (· ∈ signs) && text.Nodup && text.getLast? ≠ some '-'

def said (text : List Char) (letter : Char) (before : Bool) : Bool :=
  if letter ∈ text then letter ∈ text.takeWhile (· ≠ '-') else before

def set (f : Flags) (text : List Char) : Flags where
  characters := said text 'u' f.characters
  ignoreCase := said text 'i' f.ignoreCase
  ignoreBlanks := said text 'x' f.ignoreBlanks

def skip (f : Flags) : Read Unit :=
  modify fun cs => if f.ignoreBlanks then behindBlanks false cs else cs

/-- The character that a hyphen is taken to have behind it. A comment counts as its own first
character. -/
def behindHyphen (f : Flags) (cs : List Char) : Option Char :=
  let blankless := cs.dropWhile Text.isBlank
  let found :=
    match blankless with
    | '#' :: comment => comment.dropWhile Text.isBlank
    | _ => blankless
  if f.ignoreBlanks then found.head?.or cs.head? else cs.head?

/-- Whether a character can be asked for, which may be given by the number of a byte. -/
def allowsLiteral (f : Flags) (c : Char) (isByte : Bool) : Bool :=
  if f.characters then !f.ignoreCase else !isByte || c.toNat < 0x80

def allowsMember (f : Flags) (c : Char) : Bool :=
  if f.characters then !f.ignoreCase else c.toNat < 0x80

def allowsNamed (f : Flags) (negated : Bool) : Bool :=
  if f.characters then !f.ignoreCase else !negated

def allowsKind (f : Flags) (negated : Bool) : Bool := !f.characters && !negated

end Flags

/-!
The smallest pieces of a pattern: characters, and what a character behind a backslash
stands for.
-/

inductive Piece where
  /-- A character, perhaps given by the number of a byte. -/
  | literal (c : Char) (isByte : Bool)
  /-- Digits, blanks or word characters, or all but them. -/
  | kind (negated : Bool)
  /-- An end of the text. -/
  | place
  | wordEdge
  deriving DecidableEq, Repr

def standsForItself (c : Char) : Bool :=
  c.toNat < 0x80 && !c.isAlphanum && c ≠ '<' && c ≠ '>'

def letterEscapes : List (Char × Char) :=
  [('a', '\x07'), ('f', '\x0c'), ('t', '\t'), ('n', '\n'), ('r', '\r'), ('v', '\x0b')]

def numberEscapes : List (Char × Nat) := [('x', 2), ('u', 4), ('U', 8)]

def hexNumber (f : Flags) : Nat → Nat → Read Nat
  | 0, value => return value
  | digits + 1, value => do
    f.skip
    match Bytes.hexValue? (← next) with
    | some digit => hexNumber f digits (value * 16 + digit)
    | none => failure

def numbered (f : Flags) (digits : Nat) : Read Char := do
  let n ← hexNumber f digits 0
  if n.isValidChar then return Char.ofNat n else failure

/-- What stands behind a backslash. Properties of characters are not to be had, nor is what a group
has matched. -/
def escaped (f : Flags) : Read Piece := do
  let c ← next
  if standsForItself c then return .literal c false
  else if let some d := letterEscapes.lookup c then return .literal d false
  else if let some digits := numberEscapes.lookup c then
    return .literal (← numbered f digits) (c = 'x')
  else if c ∈ ['d', 's', 'w'] then return .kind false
  else if c ∈ ['D', 'S', 'W'] then return .kind true
  else if c ∈ ['A', 'z'] then return .place
  else if c ∈ ['b', 'B', '<', '>'] then return .wordEdge
  else failure

/-- How deep some parts nest in what they make up. A single part makes up nothing else. -/
def joined : List Nat → Nat
  | [] => 0
  | [depth] => depth
  | depths => 1 + depths.foldr max 0

/-!
Classes of characters in brackets: characters, ranges, classes with a name, and classes
inside them, put together by operators of two signs. Reading one tells how deep it
nests.
-/

structure Level where
  /-- How deep the members behind the last operator nest. -/
  members : List Nat
  /-- How deep what is before the last operator nests. -/
  left : Option Nat

namespace Level

def add (l : Level) (depth : Nat) : Level := { l with members := depth :: l.members }

/-- How deep the members nest. Operators group from the left. -/
def depth (l : Level) : Nat :=
  match l.left with
  | none => joined l.members
  | some left => 1 + max left (joined l.members)

def operate (l : Level) : Level := ⟨[], some l.depth⟩

end Level

def operatorSigns : List Char := ['&', '-', '~']

def classNames : List String :=
  ["alnum", "alpha", "ascii", "blank", "cntrl", "digit", "graph", "lower", "print", "punct",
    "space", "upper", "word", "xdigit"]

/-- A class with a name behind its bracket, what is left behind it, and whether all else is meant.
-/
def named? : List Char → Option (Bool × List Char)
  | ':' :: cs =>
    let negated := cs.head? = some '^'
    let cs := if negated then cs.drop 1 else cs
    let name := cs.takeWhile (· ≠ ':')
    match cs.drop name.length with
    | ':' :: ']' :: rest => if String.ofList name ∈ classNames then some (negated, rest) else none
    | _ => none
  | _ => none

def hyphens (f : Flags) : Nat → Read Nat
  | 0 => return 0
  | most + 1 => do
    if ← isNext '-' then
      let _ ← next
      f.skip
      return (← hyphens f most) + 1
    else return 0

/-- Reads a character that is a member if it is the first one. -/
def firstBracket (f : Flags) : Read Level := do
  if ← isNext ']' then
    let c ← next
    f.skip
    if f.allowsMember c then return ⟨[0], none⟩ else failure
  else return ⟨[], none⟩

def openLevel (f : Flags) : Read Level := do
  f.skip
  if ← isNext '^' then
    let _ ← next
    f.skip
    if !f.characters then failure
  let count ← hyphens f (← get).length
  if count = 0 then firstBracket f
  else if f.allowsMember '-' then return ⟨List.replicate count 0, none⟩
  else failure

/-- A piece that begins with a character. Inside a class only the backslash is special. -/
def memberPiece (f : Flags) (c : Char) : Read Piece :=
  if c = '\\' then escaped f else pure (.literal c false)

def member (f : Flags) (c : Char) : Read Unit := do
  let first ← memberPiece f c
  f.skip
  let rest ← get
  let isRange := rest.head? = some '-' ∧
    f.behindHyphen (rest.drop 1) ∉ [some ']', some '-']
  if isRange then
    let _ ← next
    f.skip
    match first, ← memberPiece f (← next) with
    | .literal a _, .literal b _ =>
      if a ≤ b ∧ f.allowsMember a ∧ f.allowsMember b then return () else failure
    | _, _ => failure
  else
    match first with
    | .literal a _ => if f.allowsMember a then return () else failure
    | .kind negated => if f.allowsKind negated then return () else failure
    | _ => failure

/-- Reads classes up to the end of the outermost one; `fuel` bounds the characters that are looked
at. -/
def readLevels (f : Flags) : Nat → Level → List Level → Read Nat
  | 0, _, _ => failure
  | fuel + 1, level, outer => do
    f.skip
    let c ← next
    if c = '[' then
      match named? (← get) with
      | some (negated, rest) =>
        set rest
        if f.allowsNamed negated then readLevels f fuel (level.add 0) outer else failure
      | none => readLevels f fuel (← openLevel f) (level :: outer)
    else if c = ']' then
      match outer with
      | [] => return 1 + level.depth
      | around :: outer => readLevels f fuel (around.add (1 + level.depth)) outer
    else if c ∈ operatorSigns ∧ (← isNext c) then
      let _ ← next
      readLevels f fuel level.operate outer
    else
      member f c
      readLevels f fuel (level.add 0) outer

def charClass (f : Flags) : Read Nat := do
  let fuel := (← get).length + 1
  readLevels f fuel (← openLevel f) []

/-!
Whole patterns: branches between bars, sequences of parts, repeated parts, and groups,
which may have a name or set flags. A brace that opens is refused: values are written
between braces, so nothing could close it.
-/

structure Part where
  depth : Nat
  /-- Whether it can be repeated: what only sets flags cannot. -/
  repeatable : Bool

/-- A group of which the front has been read, or the whole pattern. -/
structure Group where
  /-- The flags for what comes next. -/
  flags : Flags
  /-- How deep the branches before the last bar nest. -/
  branches : List Nat
  /-- The parts behind the last bar, last first. -/
  parts : List Part

namespace Group

def start (flags : Flags) : Group := ⟨flags, [], []⟩

def add (g : Group) (depth : Nat) : Group := { g with parts := ⟨depth, true⟩ :: g.parts }

def branchDepth (g : Group) : Nat := joined (g.parts.map Part.depth)

def depth (g : Group) : Nat := joined (g.branchDepth :: g.branches)

def branch (g : Group) : Group := { g with branches := g.branchDepth :: g.branches, parts := [] }

def setFlags (g : Group) (text : List Char) : Group :=
  { g with flags := g.flags.set text, parts := ⟨0, false⟩ :: g.parts }

def repeatLast? (g : Group) : Option Group :=
  match g.parts with
  | ⟨depth, true⟩ :: parts => some { g with parts := ⟨1 + depth, true⟩ :: parts }
  | _ => none

end Group

structure Progress where
  group : Group
  /-- The groups around it, innermost first. -/
  outer : List Group
  /-- The names of groups. -/
  names : List (List Char)
  /-- Whether the edges of words of all characters are asked for. -/
  wordEdge : Bool

namespace Progress

def start : Progress := ⟨.start .standard, [], [], false⟩

def flags (p : Progress) : Flags := p.group.flags

def add (p : Progress) (depth : Nat) : Progress := { p with group := p.group.add depth }

def openGroup (p : Progress) (flags : Flags) : Progress :=
  { p with group := .start flags, outer := p.group :: p.outer }

def closeGroup? (p : Progress) : Option Progress :=
  match p.outer with
  | [] => none
  | around :: outer => some { p with group := around.add (1 + p.group.depth), outer }

def addPiece? (p : Progress) (piece : Piece) : Option Progress :=
  let allowed :=
    match piece with
    | .literal c isByte => p.flags.allowsLiteral c isByte
    | .kind negated => p.flags.allowsKind negated
    | .place | .wordEdge => true
  let edge := piece = .wordEdge && p.flags.characters
  if allowed then some { p.add 0 with wordEdge := p.wordEdge || edge } else none

end Progress

def isName : List Char → Bool
  | [] => false
  | c :: cs =>
    (c = '_' || Text.isAlphabetic c) &&
      cs.all fun d => d ∈ ['_', '.', '[', ']'] || Text.isAlphanumeric d

def groupName (p : Progress) : Read Progress := do
  let name := (← get).takeWhile (· ≠ '>')
  modify (·.drop name.length)
  let _ ← next
  if isName name ∧ name ∉ p.names then
    return { p.openGroup p.flags with names := name :: p.names }
  else failure

/-- Reads flags, which are for a group behind a colon or for what is left of the group around them.
-/
def groupFlags (p : Progress) : Read Progress := do
  let text := (← get).takeWhile fun c => c ≠ ':' ∧ c ≠ ')'
  modify (·.drop text.length)
  let sign ← next
  if !Flags.isText text then failure
  else if sign = ':' then return p.openGroup (p.flags.set text)
  else if text.isEmpty then failure
  else return { p with group := p.group.setFlags text }

def groupFront (p : Progress) : Read Progress := do
  p.flags.skip
  match ← get with
  | '?' :: 'P' :: '<' :: rest =>
    set rest
    groupName p
  | '?' :: '<' :: rest =>
    set rest
    groupName p
  | '?' :: rest =>
    set rest
    groupFlags p
  | _ => return p.openGroup p.flags

/-- Reads a repetition behind its sign. A question mark may follow, which asks for as few as
possible. -/
def repetition (p : Progress) : Read Progress := do
  let group ← StateT.lift p.group.repeatLast?
  if ← isNext '?' then let _ ← next
  return { p with group }

def readPart (p : Progress) (c : Char) : Read Progress :=
  match c with
  | '(' => groupFront p
  | ')' => StateT.lift p.closeGroup?
  | '|' => return { p with group := p.group.branch }
  | '[' => return p.add (← charClass p.flags)
  | '?' | '*' | '+' => repetition p
  | '\x7b' => failure
  | '\\' => do StateT.lift (p.addPiece? (← escaped p.flags))
  | '.' => if p.flags.characters then return p.add 0 else failure
  | '^' | '$' => return p.add 0
  | c => StateT.lift (p.addPiece? (.literal c false))

/-- Reads a pattern to its end; `fuel` bounds the characters that are looked at. -/
def readParts : Nat → Progress → Read Progress
  | 0, _ => failure
  | fuel + 1, p => do
    p.flags.skip
    if (← get).isEmpty then
      if p.outer.isEmpty then return p else failure
    else readParts fuel (← readPart p (← next))

def nesting : Nat := 250

def fault? (pattern : List Char) : Option Fault :=
  match (readParts (pattern.length + 1) .start).run pattern with
  | none => some .malformed
  | some (p, _) =>
    if nesting < p.group.depth then some .malformed
    else if p.wordEdge then some .wordEdge
    else none

end DerivationPool.Pattern

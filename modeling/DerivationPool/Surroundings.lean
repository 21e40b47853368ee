import DerivationPool.Bytes

/-!
What a process finds around it: variables by name, and files by path, as in a working directory.
Each way a file cannot be read has the text that the system gives it.
-/
namespace DerivationPool

inductive FileFault where
  | missing | denied | isDirectory | notDirectory | nameTooLong | zeroByte
  /-- Any other, by the text of the system. -/
  | other (text : String)
  deriving DecidableEq, Repr

def FileFault.text : FileFault → String
  | missing => "No such file or directory (os error 2)"
  | denied => "Permission denied (os error 13)"
  | isDirectory => "Is a directory (os error 21)"
  | notDirectory => "Not a directory (os error 20)"
  | nameTooLong => "File name too long (os error 36)"
  | zeroByte => "file name contained an unexpected NUL byte"
  | other text => text

structure Surroundings where
  environment : List (String × Bytes)
  /-- The content of the file at a path. -/
  read : String → Except FileFault Bytes

/-- The value of a variable. An empty name and one with `=` or a zero character name none. -/
def Surroundings.value? (s : Surroundings) (name : String) : Option Bytes :=
  if name = "" ∨ '=' ∈ name.toList ∨ Char.ofNat 0 ∈ name.toList then none
  else s.environment.lookup name

/-!
A working directory with files in it and below it. A path is walked name by name, and
every name but the last has to be that of a directory. Of what lies outside only the
directories at the root are known that every system has, and the null device.
-/

structure Directory where
  files : List (String × Bytes)

namespace Directory

/-- The names along a path, without those that stay where they are. -/
def names (path : String) : List String :=
  (path.splitOn "/").filter fun name => name ≠ "" ∧ name ≠ "."

def rootDirectories : List String :=
  ["bin", "dev", "etc", "lib", "proc", "run", "sys", "tmp", "usr", "var"]

def nullDevice : List String := ["dev", "null"]

/-- Where a walk has come to, by names of which the last is first. -/
inductive Place where
  /-- Below the working directory. -/
  | within (reversed : List String)
  /-- In a directory above it. -/
  | above
  /-- Below the root. -/
  | rooted (reversed : List String)

def filesByNames (d : Directory) : List (List String × Bytes) :=
  d.files.map fun f => (names f.1, f.2)

def isDirectory (d : Directory) (ns : List String) : Bool :=
  ns.isEmpty || d.filesByNames.any fun f => ns.isPrefixOf f.1 && ns.length < f.1.length

def contentAt (d : Directory) : Place → Except FileFault Bytes
  | .within reversed =>
    match d.filesByNames.lookup reversed.reverse with
    | some content => .ok content
    | none => .error (if d.isDirectory reversed.reverse then .isDirectory else .missing)
  | .above => .error .isDirectory
  | .rooted reversed =>
    if reversed.reverse = nullDevice then .ok []
    else if reversed.all (· ∈ rootDirectories) ∧ reversed.length ≤ 1 then .error .isDirectory
    else .error .missing

def enter (name : String) : Place → Except FileFault Place
  | .within reversed =>
    if name = ".." then .ok (if reversed.isEmpty then .above else .within (reversed.drop 1))
    else if 255 < name.utf8ByteSize then .error .nameTooLong
    else .ok (.within (name :: reversed))
  | .above => if name = ".." then .ok .above else .error .missing
  | .rooted reversed =>
    if name = ".." then .ok (.rooted (reversed.drop 1))
    else if 255 < name.utf8ByteSize then .error .nameTooLong
    else .ok (.rooted (name :: reversed))

/-- Walks the names that are left; every place but the last has to be a directory. -/
def walk (d : Directory) : Place → List String → Except FileFault Place
  | place, [] => .ok place
  | place, name :: rest =>
    match d.contentAt place with
    | .ok _ => .error .notDirectory
    | .error .isDirectory =>
      match enter name place with
      | .ok place => walk d place rest
      | .error fault => .error fault
    | .error fault => .error fault

/-- Whether a path ends by staying where it is, which it can do only in a directory. -/
def staysAtEnd (path : String) : Bool :=
  match (path.splitOn "/").getLast? with
  | some last => last = "" || last = "."
  | none => false

def read (d : Directory) (path : String) : Except FileFault Bytes := do
  if Char.ofNat 0 ∈ path.toList then throw .zeroByte
  if path = "" then throw .missing
  if 4095 < path.utf8ByteSize then throw .nameTooLong
  let absolute := path.toList.head? = some '/'
  let content ← d.contentAt (← d.walk (if absolute then .rooted [] else .within []) (names path))
  if staysAtEnd path then throw .notDirectory else return content

def surroundings (d : Directory) (environment : List (String × Bytes)) : Surroundings :=
  ⟨environment, d.read⟩

end Directory

end DerivationPool

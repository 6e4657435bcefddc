import TypeExport.File.Path
import TypeExport.Keyed
import TypeExport.Text.Quoted
import TypeExport.Text.Utf8

/-!
# File trees

A file tree holds directories and files by location.  Following a path takes one name after the
other and fails as soon as a name cannot be followed.  A path that is too long is not followed at
all.  There are no links, and everything may be read and written.
-/

namespace TypeExport

inductive Entry (κ : Type) where
  | directory
  | file (content : κ)
  deriving Repr

inductive FileError where
  | notFound
  | alreadyExists
  | notDirectory
  | isDirectory
  | nameTooLong
  | nullCharacter
  deriving DecidableEq, Repr

/-- The words for a refusal, seen at a path. -/
def FileError.message (path : Path) (e : FileError) : String :=
  let seen (words : String) := words ++ ": " ++ Quoted.readableString path.text
  match e with
  | .notFound => seen "[Errno 2] No such file or directory"
  | .alreadyExists => seen "[Errno 17] File exists"
  | .notDirectory => seen "[Errno 20] Not a directory"
  | .isDirectory => seen "[Errno 21] Is a directory"
  | .nameTooLong => seen "[Errno 36] File name too long"
  | .nullCharacter => "embedded null byte"

/-- Directories and files by location, the top apart, which is a directory. -/
structure FileTree (κ : Type) where
  entries : List (Location × Entry κ)
  deriving Repr

namespace FileTree

variable {κ : Type}

def empty : FileTree κ :=
  { entries := [] }

def find? (t : FileTree κ) (l : Location) : Option (Entry κ) :=
  if l.isEmpty then some .directory else t.entries.lookup l

def isDirectory (t : FileTree κ) (l : Location) : Bool :=
  match t.find? l with
  | some .directory => true
  | _ => false

def fileAt? (t : FileTree κ) (l : Location) : Option κ :=
  match t.find? l with
  | some (.file c) => some c
  | _ => none

def insert (t : FileTree κ) (l : Location) (e : Entry κ) : FileTree κ :=
  { entries := Keyed.put l e t.entries }

/-- The names in a directory, in no particular order. -/
def names (t : FileTree κ) (l : Location) : List String :=
  t.entries.filterMap fun (k, _) =>
    match k.getLast? with
    | some name => if k.dropLast = l then some name else none
    | none => none

/-- The most bytes a name may have. -/
def nameLimit : Nat := 255

/-- The location of `parts` as the file system follows them; the last one need not exist. -/
def follow (t : FileTree κ) (l : Location) : List String → Except FileError Location
  | [] => .ok l
  | part :: rest =>
    match t.find? l with
    | none => .error .notFound
    | some (.file _) => .error .notDirectory
    | some .directory =>
      if nameLimit < part.utf8ByteSize then .error .nameTooLong
      else follow t (Path.step l part) rest

/-- Whether a path holds a character that no file name can hold. -/
def hasNull (p : Path) : Bool :=
  p.parts.any fun part => part.toList.contains '\x00'

/-- The location of a path, and what stands there. -/
def lookup (t : FileTree κ) (cwd : Location) (p : Path) :
    Except FileError (Location × Option (Entry κ)) := do
  if hasNull p then throw .nullCharacter
  if !p.fits then throw .nameTooLong
  let l ← t.follow (if p.isAbsolute then [] else cwd) p.parts
  return (l, t.find? l)

/-- Whether something stands at a path.  Only a path or a name that is too long is an error. -/
def pathExists (t : FileTree κ) (cwd : Location) (p : Path) : Except FileError Bool :=
  match t.lookup cwd p with
  | .ok (_, e) => .ok e.isSome
  | .error .nameTooLong => .error .nameTooLong
  | .error _ => .ok false

def pathIsDirectory (t : FileTree κ) (cwd : Location) (p : Path) : Except FileError Bool :=
  match t.lookup cwd p with
  | .ok (_, some .directory) => .ok true
  | .ok _ => .ok false
  | .error .nameTooLong => .error .nameTooLong
  | .error _ => .ok false

def pathIsFile (t : FileTree κ) (cwd : Location) (p : Path) : Except FileError Bool :=
  match t.lookup cwd p with
  | .ok (_, some (.file _)) => .ok true
  | .ok _ => .ok false
  | .error .nameTooLong => .error .nameTooLong
  | .error _ => .ok false

def read (t : FileTree κ) (cwd : Location) (p : Path) : Except FileError κ :=
  match t.lookup cwd p with
  | .ok (_, some (.file c)) => .ok c
  | .ok (_, some .directory) => .error .isDirectory
  | .ok (_, none) => .error .notFound
  | .error e => .error e

def makeDirectory (t : FileTree κ) (cwd : Location) (p : Path) : Except FileError (FileTree κ) :=
  match t.lookup cwd p with
  | .error e => .error e
  | .ok (_, some _) => .error .alreadyExists
  | .ok (l, none) => .ok (t.insert l .directory)

/-- An existing directory will do. -/
def settle (t : FileTree κ) (cwd : Location) (p : Path) (e : FileError) :
    FileTree κ × Option FileError :=
  if e = .nullCharacter then (t, some e)
  else
    match t.pathIsDirectory cwd p with
    | .ok true => (t, none)
    | .ok false => (t, some e)
    | .error e => (t, some e)

/-- Makes the directory whose parts, last first, are `reversed`, and the ones above it that are
missing. -/
def makeDirectories (t : FileTree κ) (cwd : Location) (slashes : Nat) :
    (reversed : List String) → FileTree κ × Option FileError
  | [] =>
    match t.makeDirectory cwd { slashes, parts := [] } with
    | .ok t => (t, none)
    | .error e => t.settle cwd { slashes, parts := [] } e
  | part :: above =>
    let p : Path := { slashes, parts := (part :: above).reverse }
    match t.makeDirectory cwd p with
    | .ok t => (t, none)
    | .error .notFound =>
      match makeDirectories t cwd slashes above with
      | (t, some e) => (t, some e)
      | (t, none) =>
        match t.makeDirectory cwd p with
        | .ok t => (t, none)
        | .error .notFound => (t, some .notFound)
        | .error e => t.settle cwd p e
    | .error e => t.settle cwd p e

/-- Makes a directory with all that are missing above it. -/
def ensureDirectory (t : FileTree κ) (cwd : Location) (p : Path) : FileTree κ × Option FileError :=
  t.makeDirectories cwd p.slashes p.parts.reverse

def writeFile (t : FileTree κ) (cwd : Location) (p : Path) (content : κ) :
    FileTree κ × Option FileError :=
  match t.lookup cwd p with
  | .error e => (t, some e)
  | .ok (_, some .directory) => (t, some .isDirectory)
  | .ok (l, _) => (t.insert l (.file content), none)

end FileTree

end TypeExport

/-!
## Contents with bytes

What stands in a file has bytes, and every text can stand in one.
-/

namespace TypeExport

/-- Contents of files that texts can be written to. -/
class TextContent (κ : Type) where
  bytes : κ → List UInt8
  ofText : String → κ
  bytes_ofText : ∀ s, bytes (ofText s) = Utf8.encode s

end TypeExport

import TypeExport.File.Tree

/-!
# Writing artifacts

An artifact is written after the directories above it are made.  What was made before a failure
stays.
-/

namespace TypeExport

inductive WriteError where
  | artifact (path : Path) (cause : FileError)
  | directory (path : Path) (cause : FileError)
  | nullCharacter
  deriving DecidableEq, Repr

namespace WriteError

def message : WriteError → String
  | .artifact path _ => "Failed to write artifact: " ++ path.text
  | .directory path _ => "Failed to create output directory: " ++ path.text
  | .nullCharacter => "embedded null byte"

def inner? : WriteError → Option String
  | .artifact path cause | .directory path cause => some (cause.message path)
  | .nullCharacter => none

/-- A null character is reported as it is and not as a failure to write. -/
def ofCause (wrap : FileError → WriteError) : FileError → WriteError
  | .nullCharacter => .nullCharacter
  | cause => wrap cause

end WriteError

namespace FileTree

variable {κ : Type}

def makeOutput (t : FileTree κ) (cwd : Location) (p : Path) : FileTree κ × Option WriteError :=
  let (t, e) := t.ensureDirectory cwd p
  (t, e.map (WriteError.ofCause (.directory p)))

/-- Writes an artifact and makes the directories above it. -/
def writeOutput (t : FileTree κ) (cwd : Location) (p : Path) (content : κ) :
    FileTree κ × Option WriteError :=
  match t.ensureDirectory cwd p.parent with
  | (t, some e) => (t, some (WriteError.ofCause (.artifact p) e))
  | (t, none) =>
    let (t, e) := t.writeFile cwd p content
    (t, e.map (WriteError.ofCause (.artifact p)))

end FileTree

end TypeExport

import TypeExport.Text.Split

/-!
# Paths

A path is its parts, with the empty ones and single points left out, and the number of slashes that
mark it as absolute.  Two points are kept until the path is located.
-/

namespace TypeExport

/-- Where something stands: the names from the top of the file system. -/
abbrev Location := List String

/-- A path as it is written; `slashes` is zero for a relative one. -/
structure Path where
  slashes : Nat
  parts : List String
  deriving DecidableEq, Repr, Inhabited

namespace Path

def isTrivial (part : String) : Bool :=
  part.isEmpty || part == "."

/-- Two leading slashes are kept apart from one; three or more count as one. -/
def leadingSlashes (s : List Char) : Nat :=
  match (s.takeWhile (· = '/')).length with
  | 0 => 0
  | 2 => 2
  | _ => 1

def ofString (s : String) : Path :=
  { slashes := leadingSlashes s.toList
    parts := ((Text.splitOn '/' s.toList).map String.ofList).filter (!isTrivial ·) }

def isAbsolute (p : Path) : Bool :=
  p.slashes != 0

/-- The text of a path; the empty path is a single point. -/
def text (p : Path) : String :=
  let body := "/".intercalate p.parts
  match p.slashes with
  | 0 => if p.parts.isEmpty then "." else body
  | n => String.ofList (List.replicate n '/') ++ body

/-- The most bytes the text of a path may have. -/
def limit : Nat := 4095

/-- Whether the file system takes a path of this length. -/
def fits (p : Path) : Bool :=
  p.text.utf8ByteSize ≤ limit

def ofLocation (l : Location) : Path :=
  { slashes := 1, parts := l }

/-- A path taken from the directory `p`; an absolute one stays itself. -/
def join (p q : Path) : Path :=
  if q.isAbsolute then q else { p with parts := p.parts ++ q.parts }

def parent (p : Path) : Path :=
  { p with parts := p.parts.dropLast }

def name (p : Path) : String :=
  p.parts.getLast?.getD ""

/-- A file name without its last extension; a point at either end starts none. -/
def stem (fileName : String) : String :=
  let chars := fileName.toList
  match chars.reverse.dropWhile (· != '.') with
  | _ :: before =>
    if before.isEmpty || before.length + 1 == chars.length then fileName
    else String.ofList before.reverse
  | [] => fileName

/-- The order of paths: part by part. -/
def sortKey (p : Path) : List String :=
  if p.isAbsolute then String.ofList (List.replicate p.slashes '/') :: p.parts else p.parts

def le (a b : Path) : Bool :=
  !b.sortKey.lex a.sortKey fun x y => decide (x < y)

/-- One step from a location: two points lead up. -/
def step (l : Location) (part : String) : Location :=
  if part = ".." then l.dropLast else l ++ [part]

/-- The location that the path denotes when every part of it leads on. -/
def locate (cwd : Location) (p : Path) : Location :=
  p.parts.foldl step (if p.isAbsolute then [] else cwd)

end Path

end TypeExport

import TypeExport.Text.Classes
import TypeExport.Text.Split

/-!
# Comments in configuration files

A configuration file may hold `//` comments.  A line that starts with one goes, and a comment
behind other text is cut off.  A `//` with an odd number of double quotes before it stands inside a
string and is skipped.
-/

namespace TypeExport.Config

/-- Where the first `//` of a text stands. -/
def firstMark? : List Char → Option Nat
  | '/' :: '/' :: _ => some 0
  | _ :: rest => (firstMark? rest).map (· + 1)
  | [] => none

/-- Where the first `//` of a line from the place `start` on stands. -/
def markFrom? (line : List Char) (start : Nat) : Option Nat :=
  (firstMark? (line.drop start)).map (· + start)

/-- Whether an odd number of double quotes stands before a place of a line. -/
def insideText (line : List Char) (place : Nat) : Bool :=
  (line.take place).count '"' % 2 == 1

/-- Both slashes of a mark stand inside the text. -/
theorem firstMark?_bounds {s : List Char} {i : Nat} (h : firstMark? s = some i) :
    i + 2 ≤ s.length := by
  fun_induction firstMark? s generalizing i with
  | case1 rest =>
    cases h
    simp
  | case2 c rest hshort ih =>
    obtain ⟨k, hk, rfl⟩ := Option.map_eq_some_iff.1 h
    have := ih hk
    simp only [List.length_cons]
    omega
  | case3 => cases h

theorem markFrom?_bounds {line : List Char} {start i : Nat} (h : markFrom? line start = some i) :
    start ≤ i ∧ i + 2 ≤ line.length := by
  obtain ⟨k, hk, rfl⟩ := Option.map_eq_some_iff.1 h
  have := firstMark?_bounds hk
  rw [List.length_drop] at this
  omega

/-- Where the comment of a line from the place `start` on starts, if there is one. -/
def commentFrom? (line : List Char) (start : Nat) : Option Nat :=
  match h : markFrom? line start with
  | none => none
  | some i => if insideText line i then commentFrom? line (i + 2) else some i
termination_by line.length - start
decreasing_by
  have := markFrom?_bounds h
  omega

def startsWithComment (line : List Char) : Bool :=
  ['/', '/'].isPrefixOf (Text.trimChars line)

/-- A line without its comment; `none` for a line that is one. -/
def stripLine (line : List Char) : Option (List Char) :=
  if startsWithComment line then none
  else
    match commentFrom? line 0 with
    | some i => some (Text.trimRight (line.take i))
    | none => some line

def stripChars (document : List Char) : List Char :=
  Text.joinWith '\n' ((Text.splitOn '\n' document).filterMap stripLine)

def stripComments (document : String) : String :=
  String.ofList (stripChars document.toList)

end TypeExport.Config

import TypeExport.Name.Keyword
import TypeExport.Text.Case
import TypeExport.Text.Classes
import TypeExport.Value.Basic

/-!
# Names of enum members

A label becomes a member name: words are joined with a capital each, marks that are neither letters
nor numbers go.  Labels that give the same name are told apart by the least number from two on.
-/

namespace TypeExport.Name

/-- The name of a member whose label holds no letter or number. -/
def placeholder : String := "Unknown"

/-- What stands before a name that would start with a digit. -/
def digitLead : String := "Item"

/-- Letters and numbers of a label; the next one is a capital if `start` holds. -/
def joinWords (start : Bool) : List Char → List Char
  | [] => []
  | c :: rest =>
    if Text.isAlphanumeric c.toNat then
      (if start then Text.upperChar c else [c]) ++ joinWords false rest
    else joinWords (start || Text.blankChar c || c = '-' || c = '_') rest

/-- A name that does not start with a digit. -/
def leadWithLetter (name : String) : String :=
  match name.toList with
  | c :: _ => if Text.isDigit c.toNat then digitLead ++ name else name
  | [] => name

/-- A keyword gets a low line behind it. -/
def avoidKeyword (name : String) : String :=
  if isKeyword name then name ++ "_" else name

def memberOfLabel (label : String) : String :=
  let joined := joinWords true label.toList
  if joined.isEmpty then placeholder else avoidKeyword (leadWithLetter (String.ofList joined))

/-- The member name for a value: of the label that displays it. -/
def memberOf : Value → String
  | .null => placeholder
  | v => memberOfLabel v.display

/-- The names tried for `base`: itself, then numbered from two on. -/
def candidates (base : String) (count : Nat) : List String :=
  base :: (List.range count).map fun i => base ++ toString (i + 2)

/-- The first candidate that is not in use. -/
def fresh (used : List String) (base : String) : String :=
  ((candidates base used.length).find? fun name => !used.contains name).getD base

/-- Adds the names for the values to those in use, which are kept in reverse. -/
def nameFrom (used : List String) : List Value → List String
  | [] => []
  | v :: rest =>
    let name := fresh used (memberOf v)
    name :: nameFrom (name :: used) rest

/-- One name for each value, no two of them alike. -/
def uniqueMembers (values : List Value) : List String :=
  nameFrom [] values

end TypeExport.Name

import TypeExport.Number.Double
import TypeExport.Text.CodeText

/-!
# JSON values

Objects keep the order of their keys.  A key that is written again keeps its first place and takes
the last value.
-/

namespace TypeExport

/-- A JSON value; the three numbers that are not finite are admitted. -/
inductive Json where
  | null
  | bool (b : Bool)
  | int (n : Int)
  | double (x : Double)
  | text (t : CodeText)
  | array (items : List Json)
  | object (entries : List (CodeText × Json))
  deriving Repr, Inhabited

namespace Json

/-- Puts a value under a key, at the end if the key is new. -/
def insert (key : CodeText) (value : Json) : List (CodeText × Json) → List (CodeText × Json)
  | [] => [(key, value)]
  | (k, v) :: rest => if k = key then (k, value) :: rest else (k, v) :: insert key value rest

/-- The entries of an object whose members are written in this order. -/
def ofMembers (members : List (CodeText × Json)) : List (CodeText × Json) :=
  members.foldl (fun entries (k, v) => insert k v entries) []

def get? (key : String) : Json → Option Json
  | .object entries => entries.lookup (CodeText.ofString key)
  | _ => none

end Json

end TypeExport

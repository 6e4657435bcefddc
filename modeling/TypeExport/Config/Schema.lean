import TypeExport.Json.Writer

/-!
# Schemas of documents

A schema says what kind of value stands where.  Checking reports the first violation: the kind of a
value, then its members in the order of the schema and depth first, then the members that are
missing, then those that are not allowed.
-/

namespace TypeExport

inductive DocumentStep where
  | key (k : CodeText)
  | index (i : Nat)
  deriving DecidableEq, Repr

/-- What kind of value is expected. -/
inductive Schema where
  | text
  | textOrNull
  | boolean
  | list (items : Schema)
  | table (values : Schema)
  | record (members : List (String × Schema)) (required : List String)
  deriving Repr

namespace Schema

open CodeText (ofString)

/-- What a document breaks. -/
inductive Cause where
  | kind (value : Json) (expected : List String)
  | missing (key : String)
  | unexpected (keys : List CodeText)
  deriving Repr

/-- A violation and the steps to it. -/
structure Violation where
  path : List DocumentStep
  cause : Cause
  deriving Repr

def kindNames : Schema → List String
  | .text => ["string"]
  | .textOrNull => ["string", "null"]
  | .boolean => ["boolean"]
  | .list _ => ["array"]
  | .table _ => ["object"]
  | .record _ _ => ["object"]

/-- The violation, seen from one step further out. -/
def Violation.under (step : DocumentStep) (v : Violation) : Violation :=
  { v with path := step :: v.path }

def wrongKind (s : Schema) (value : Json) : Option Violation :=
  some { path := [], cause := .kind value s.kindNames }

def firstItem (check : Json → Option Violation) (i : Nat) : List Json → Option Violation
  | [] => none
  | item :: rest =>
    match check item with
    | some v => some (v.under (.index i))
    | none => firstItem check (i + 1) rest

def firstValue (check : Json → Option Violation) : List (CodeText × Json) → Option Violation
  | [] => none
  | (key, value) :: rest =>
    match check value with
    | some v => some (v.under (.key key))
    | none => firstValue check rest

def firstMissing (entries : List (CodeText × Json)) (required : List String) : Option Violation :=
  (required.find? fun key => (entries.lookup (ofString key)).isNone).map fun key =>
    { path := [], cause := .missing key }

def unexpectedKeys (entries : List (CodeText × Json)) (known : List String) : Option Violation :=
  match (entries.map (·.1)).filter fun key => !(known.map ofString).contains key with
  | [] => none
  | keys => some { path := [], cause := .unexpected (keys.mergeSort CodeText.le) }

mutual

def check : Schema → Json → Option Violation
  | .text, .text _ => none
  | .textOrNull, .text _ => none
  | .textOrNull, .null => none
  | .boolean, .bool _ => none
  | .list items, .array values => firstItem items.check 0 values
  | .table values, .object entries => firstValue values.check entries
  | .record members required, .object entries =>
    (checkMembers members entries).or ((firstMissing entries required).or
      (unexpectedKeys entries (members.map (·.1))))
  | s, value => s.wrongKind value

/-- The first violation among the members that are present. -/
def checkMembers : List (String × Schema) → List (CodeText × Json) → Option Violation
  | [], _ => none
  | (key, s) :: rest, entries =>
    let found : Option Violation :=
      match entries.lookup (ofString key) with
      | none => none
      | some value => (s.check value).map (·.under (.key (ofString key)))
    found.or (checkMembers rest entries)

end

def DocumentStep.text : DocumentStep → CodeText
  | .key k => k
  | .index i => ofString (toString i)

namespace Violation

/-- Keys and indices with slashes between them. -/
def place (v : Violation) : CodeText :=
  match v.path with
  | [] => ofString "<root>"
  | first :: rest =>
    DocumentStep.text first ++
      rest.flatMap fun s => ofString "/" ++ DocumentStep.text s

def reason (v : Violation) : String :=
  match v.cause with
  | .kind value expected =>
    value.readable ++ " is not of type " ++
      ", ".intercalate (expected.map Quoted.readableString)
  | .missing key => Quoted.readableString key ++ " is a required property"
  | .unexpected keys =>
    "Additional properties are not allowed (" ++ ", ".intercalate (keys.map Quoted.readable) ++
      (if keys.length = 1 then " was" else " were") ++ " unexpected)"

end Violation

end Schema

end TypeExport

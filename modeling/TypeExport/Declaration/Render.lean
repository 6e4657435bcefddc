import TypeExport.Declaration.Basic
import TypeExport.Name.Case
import TypeExport.Policy

/-!
# The text of declarations

One line for the head, one for each field or member, and one for the closing brace.  A field name
that is no identifier is quoted.
-/

namespace TypeExport

def headerLines : List String :=
  ["// <auto-generated />", "// Changes to this file may be overwritten."]

def startsKey (c : Char) : Bool :=
  c.isAlpha || c = '_' || c = '$'

def continuesKey (c : Char) : Bool :=
  c.isAlphanum || c = '_' || c = '$'

/-- Identifiers of the target language; a line break behind one is let through. -/
def isBareKey (key : List Char) : Bool :=
  let body := if key.getLast? = some '\n' then key.dropLast else key
  match body with
  | [] => false
  | c :: rest => startsKey c && rest.all continuesKey

/-- A key is written bare if it is an identifier and quoted otherwise. -/
def writtenKey (key : String) : String :=
  if isBareKey key.toList then key else Quoted.asciiString key

namespace Policy

/-- The field name after the policy's change of case. -/
def keyName (policy : Policy) (name : String) : String :=
  if policy.camelCaseKeys then Name.camel name else name

def fieldKey (policy : Policy) (name : String) : String :=
  writtenKey (policy.keyName name)

def headerText (policy : Policy) : String :=
  if policy.header then "\n".intercalate headerLines ++ "\n\n" else ""

end Policy

/-- An integer stands for itself; everything else is quoted. -/
def Member.valueText (m : Member) : String :=
  match m.value with
  | .int n => toString n
  | v => Quoted.asciiString v.display

def Field.line (policy : Policy) (f : Field) : String :=
  "  " ++ policy.fieldKey f.name ++ (if f.optional then "?" else "") ++ ": " ++ f.typeText ++ ";"

/-- The lines of the members; all but the last end in a comma. -/
def memberLines : List Member → List String
  | [] => []
  | [m] => ["  " ++ m.name ++ " = " ++ m.valueText]
  | m :: rest => ("  " ++ m.name ++ " = " ++ m.valueText ++ ",") :: memberLines rest

namespace Declaration

def headLine (d : Declaration) : String :=
  let word := match d.kind with
    | .interface => "interface "
    | .enumeration => "enum "
  (if d.exported then "export " else "") ++ word ++ d.target ++ " \x7b"

def lines (policy : Policy) (d : Declaration) : List String :=
  d.headLine ::
    (match d.kind with
      | .interface => d.fields.map (Field.line policy)
      | .enumeration => memberLines d.members) ++ ["\x7d"]

/-- The text made from the fields or members. -/
def render (policy : Policy) (d : Declaration) : String :=
  "\n".intercalate (d.lines policy) ++ "\n"

/-- The prepared text, or the one made from the fields or members. -/
def text (policy : Policy) (d : Declaration) : String :=
  if d.body.isEmpty then d.render policy else d.body

end Declaration

/-- The text of a file: the header, each needed declaration with an empty line behind it, and the
exported one. -/
def Artifact.text (policy : Policy) (a : Artifact) : String :=
  policy.headerText ++ String.join (a.nested.map fun d => d.text policy ++ "\n") ++
    a.root.text policy

end TypeExport

/-!
## Index manifests

A manifest exports every name of a directory from the file that declares it, in the order of the
names and each once.
-/

namespace TypeExport.Manifest

/-- The names in ascending order, each once. -/
def sortedNames (names : List String) : List String :=
  names.eraseDups.mergeSort fun a b => decide (a ≤ b)

def line (name : String) : String :=
  "export \x7b " ++ name ++ " \x7d from './" ++ Name.fileBase name ++ "';"

/-- The text of the manifest for the names. -/
def text (names : List String) : String :=
  "\n".intercalate ("// <auto-generated />" :: "" :: (sortedNames names).map line) ++ "\n"

end TypeExport.Manifest

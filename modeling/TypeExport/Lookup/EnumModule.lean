import TypeExport.Name.Member
import TypeExport.Sql.Identifier

/-!
# Modules of lookup enums

The rows of a lookup table become the text of a module that defines one enum and marks it for
export.  Keys that are all integers give an integer enum; otherwise every key is written as text.
-/

/-!
## Lookup tables

A lookup table pairs keys with labels.  An enum source names the table, its two columns and the enum
that is made of it.
-/

namespace TypeExport

/-- Where an enum comes from; `τ` is the type of the texts. -/
structure EnumSource (τ : Type) where
  table : τ
  keyColumn : τ
  labelColumn : τ
  name : τ
  outputDirectory : Option τ
  deriving Repr, DecidableEq

namespace EnumSource

def map? {σ τ : Type} (f : σ → Option τ) (source : EnumSource σ) : Option (EnumSource τ) := do
  let outputDirectory ← match source.outputDirectory with
    | none => some none
    | some directory => (f directory).map some
  return { table := ← f source.table, keyColumn := ← f source.keyColumn,
           labelColumn := ← f source.labelColumn, name := ← f source.name, outputDirectory }

/-- The query for the rows of a source, in the order of their keys. -/
def query (source : EnumSource String) : String :=
  let key := Sql.quoteName source.keyColumn
  "SELECT " ++ key ++ ", " ++ Sql.quoteName source.labelColumn ++ " FROM " ++
    Sql.quoteName source.table ++ " ORDER BY " ++ key

end EnumSource

end TypeExport

/-!
## Texts of modules
-/

namespace TypeExport.EnumSource

/-- A key and its label. -/
abbrev Row := Value × Value

def isIntegral (rows : List Row) : Bool :=
  rows.all fun (key, _) => match key with
    | .int _ => true
    | _ => false

/-- The right-hand side of a member. -/
def keyLiteral (integral : Bool) (key : Value) : String :=
  if integral then key.display else Quoted.readableString key.display

def memberLine (integral : Bool) (name : String) (key : Value) : String :=
  "    " ++ name ++ " = " ++ keyLiteral integral key

/-- The lines before the first member. -/
def moduleHead (source : EnumSource String) (base : String) : List String :=
  ["# <auto-generated />",
   "# Changes to this file may be overwritten.",
   "",
   "from enum import " ++ base,
   "",
   "from typegen.markers import export_to_ts",
   "",
   "",
   "@export_to_ts",
   "class " ++ source.name ++ "(" ++ base ++ "):",
   "    \"\"\"Auto-generated enum from database table: " ++ source.table ++ "\"\"\"",
   ""]

def moduleLines (source : EnumSource String) (rows : List Row) : List String :=
  let integral := isIntegral rows
  let base := if integral then "IntEnum" else "Enum"
  let names := Name.uniqueMembers (rows.map (·.2))
  moduleHead source base ++
    (names.zip rows).map fun (name, key, _) => memberLine integral name key

def moduleText (source : EnumSource String) (rows : List Row) : String :=
  "\n".intercalate (moduleLines source rows) ++ "\n"

end TypeExport.EnumSource

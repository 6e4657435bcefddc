import TypeExport.Config.Basic
import TypeExport.Config.Schema

/-!
# Configurations as documents

The schema of configuration documents, and reading a configuration from a document.  Reading
ignores unknown members, takes the standard for missing ones, and reports every member that has no
reading.
-/

namespace TypeExport.Config

def sourceSchema : Schema :=
  .record
    [("tableName", .text), ("keyColumn", .text), ("valueColumn", .text), ("enumName", .text),
     ("customOutputPath", .textOrNull)]
    ["tableName", "keyColumn", "valueColumn", "enumName"]

def schema : Schema :=
  .record
    [("$schema", .text),
     ("connectionString", .text),
     ("modulesToScan", .list .text),
     ("typeScriptInterfacesOutputPath", .text),
     ("typeScriptEnumsOutputPath", .text),
     ("pythonEnumsOutputPath", .text),
     ("databaseEnums", .list sourceSchema),
     ("generateIndexFiles", .boolean),
     ("useCamelCase", .boolean),
     ("addGeneratedHeaders", .boolean),
     ("ignoreNavigationProperties", .boolean),
     ("generateNestedInterfaces", .boolean),
     ("includeJsonIgnoreProperties", .boolean),
     ("typeMappings", .table .text)]
    []

/-- Why a member has no reading. -/
inductive MismatchKind where
  | missing
  | text
  | list
  | table
  | boolean
  | booleanSpelling
  | record
  deriving DecidableEq, Repr

structure Mismatch where
  path : List DocumentStep
  kind : MismatchKind
  deriving DecidableEq, Repr

/-- A reading, or all that stands against one. -/
abbrev Reading (α : Type) := Except (List Mismatch) α

namespace Reading

def mismatch {α : Type} (kind : MismatchKind) : Reading α :=
  .error [{ path := [], kind }]

def under {α : Type} (step : DocumentStep) : Reading α → Reading α
  | .ok a => .ok a
  | .error ms => .error (ms.map fun m => { m with path := step :: m.path })

/-- Both readings; mismatches of both are kept. -/
def both {α β : Type} : Reading α → Reading β → Reading (α × β)
  | .ok a, .ok b => .ok (a, b)
  | .ok _, .error n => .error n
  | .error m, .ok _ => .error m
  | .error m, .error n => .error (m ++ n)

def all {α : Type} : List (Reading α) → Reading (List α)
  | [] => .ok []
  | r :: rest => (both r (all rest)).map fun (a, as) => a :: as

end Reading

def asText : Json → Reading CodeText
  | .text t => .ok t
  | _ => .mismatch .text

def asOptionalText : Json → Reading (Option CodeText)
  | .null => .ok none
  | .text t => .ok (some t)
  | _ => .mismatch .text

/-- The words for yes and no, in any letter case. -/
def booleanWord? (word : String) : Option Bool :=
  let small := String.ofList (word.toList.map Char.toLower)
  if ["1", "t", "y", "on", "yes", "true"].contains small then some true
  else if ["0", "f", "n", "no", "off", "false"].contains small then some false
  else none

def booleanNumber (n : Int) : Reading Bool :=
  if n = 0 then .ok false else if n = 1 then .ok true else .mismatch .booleanSpelling

/-- A boolean, the numbers one and zero, or a word for yes or no. -/
def asBoolean : Json → Reading Bool
  | .bool b => .ok b
  | .int n => booleanNumber n
  | .double x =>
    match x.truncate? with
    | some n => if x.equalsInt n then booleanNumber n else .mismatch .boolean
    | none => .mismatch .boolean
  | .text t =>
    match t.toString?.bind booleanWord? with
    | some b => .ok b
    | none => .mismatch .booleanSpelling
  | _ => .mismatch .boolean

def asList {α : Type} (item : Json → Reading α) : Json → Reading (List α)
  | .array items =>
    .all ((items.zipIdx).map fun (v, i) => (item v).under (.index i))
  | _ => .mismatch .list

def asTable {α : Type} (value : Json → Reading α) : Json → Reading (List (CodeText × α))
  | .object entries =>
    .all (entries.map fun (k, v) => ((value v).under (.key k)).map fun a => (k, a))
  | _ => .mismatch .table

def member {α : Type} (record : Json) (key : String) (read : Json → Reading α) (absent : Reading α) :
    Reading α :=
  let reading := match record.get? key with
    | some v => read v
    | none => absent
  reading.under (.key (.ofString key))

def asSource : Json → Reading (EnumSource CodeText)
  | record@(.object _) =>
    let required (key : String) := member record key asText (.mismatch .missing)
    let columns := Reading.both (required "tableName")
      (Reading.both (required "keyColumn") (required "valueColumn"))
    let rest := Reading.both (required "enumName")
      (member record "customOutputPath" asOptionalText (.ok none))
    (Reading.both columns rest).map fun ((table, keyColumn, labelColumn), name, outputDirectory) =>
      { table, keyColumn, labelColumn, name, outputDirectory }
  | _ => .mismatch .record

def ofJson (document : Json) : Reading (Config CodeText) :=
  let text (key : String) (standard : CodeText) := member document key asText (.ok standard)
  let flag (key : String) (standard : Bool) := member document key asBoolean (.ok standard)
  let first := Reading.both (text "connectionString" standard.connection)
    (member document "modulesToScan" (asList asText) (.ok []))
  let directories := Reading.both
    (text "typeScriptInterfacesOutputPath" standard.interfaceDirectory)
    (Reading.both (text "typeScriptEnumsOutputPath" standard.enumDirectory)
      (text "pythonEnumsOutputPath" standard.moduleDirectory))
  let sources := member document "databaseEnums" (asList asSource) (.ok [])
  let shape := Reading.both (flag "generateIndexFiles" standard.manifests)
    (Reading.both (flag "useCamelCase" standard.camelCaseKeys)
      (flag "addGeneratedHeaders" standard.header))
  let choice := Reading.both (flag "ignoreNavigationProperties" standard.dropNavigation)
    (Reading.both (flag "generateNestedInterfaces" standard.inlineNested)
      (flag "includeJsonIgnoreProperties" standard.keepIgnored))
  let mappings := member document "typeMappings" (asTable asText) (.ok [])
  let all := Reading.both first (Reading.both directories (Reading.both sources
    (Reading.both shape (Reading.both choice mappings))))
  all.map fun ((connection, targets), (interfaceDirectory, enumDirectory, moduleDirectory), sources,
      (manifests, camelCaseKeys, header), (dropNavigation, inlineNested, keepIgnored),
      typeMappings) =>
    { connection, targets, interfaceDirectory, enumDirectory, moduleDirectory, sources, manifests,
      camelCaseKeys, header, dropNavigation, inlineNested, keepIgnored, typeMappings }

end TypeExport.Config

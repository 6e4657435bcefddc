import TypeExport.Lookup.Connection
import TypeExport.File.Write
import TypeExport.Log.Basic
import TypeExport.Name.Case

/-!
# Files of lookup enums

Each source gives one file, unless its table has no rows.  The sources are taken one after the
other, and the first failure ends the run; what was written before stays.
-/

namespace TypeExport

inductive LookupError where
  | connection (cause : ConnectionError)
  | query (source : EnumSource String) (cause : Sql.Fault)
  | write (cause : WriteError)
  deriving Repr

def LookupError.message : LookupError → String
  | .connection cause => cause.message
  | .query source cause =>
    if cause.isForeign then cause.message
    else "Failed to read enum " ++ source.name ++ " from table " ++ source.table
  | .write cause => cause.message

def LookupError.inner? : LookupError → Option String
  | .connection cause => cause.inner?
  | .query _ cause => if cause.isForeign then none else some cause.message
  | .write cause => cause.inner?

/-- The outcome of a run over sources: the files as they are left, the log, and the result. -/
structure LookupOutcome (κ α : Type) where
  files : FileTree κ
  log : List LogLine
  result : Except LookupError α

namespace EnumSource

variable {κ : Type} [TextContent κ]

def filePath (standard : String) (source : EnumSource String) : Path :=
  let directory := match source.outputDirectory with
    | none | some "" => standard
    | some directory => directory
  (Path.ofString directory).join (.ofString (Name.moduleFile source.name))

def writeModule (cwd : Location) (standard : String) (source : EnumSource String) (rows : List Row)
    (files : FileTree κ) : LookupOutcome κ (List Path) :=
  let opening : LogLine :=
    .info ("Generating enum " ++ source.name ++ " from table " ++ source.table)
  if rows.isEmpty then
    let warning : LogLine :=
      .warning ("No data found in table " ++ source.table ++ " for enum " ++ source.name)
    { files, log := [opening, warning], result := .ok [] }
  else
    let path := source.filePath standard
    match files.writeOutput cwd path (TextContent.ofText (source.moduleText rows)) with
    | (files, some e) => { files, log := [opening], result := .error (.write e) }
    | (files, none) =>
      let closing : LogLine := .info ("Generated enum " ++ source.name ++ " -> " ++ path.text)
      { files, log := [opening, closing], result := .ok [path] }

/-- Reads the rows of one source and writes its file. -/
def generateOne (fetch : Fetch) (cwd : Location)
    (standard : String) (source : EnumSource String) (files : FileTree κ) :
    LookupOutcome κ (List Path) :=
  match fetch source with
  | .error e =>
    { files
      log := [.info ("Generating enum " ++ source.name ++ " from table " ++ source.table)]
      result := .error (.query source e) }
  | .ok rows => source.writeModule cwd standard rows files

def generateAll (fetch : Fetch) (cwd : Location)
    (standard : String) : List (EnumSource String) → FileTree κ → LookupOutcome κ (List Path)
  | [], files => { files, log := [], result := .ok [] }
  | source :: rest, files =>
    let first := generateOne fetch cwd standard source files
    match first.result with
    | .error e => { first with result := .error e }
    | .ok written =>
      let others := generateAll fetch cwd standard rest first.files
      { files := others.files, log := first.log ++ others.log,
        result := others.result.map (written ++ ·) }

end EnumSource

/-- The files of all sources with any kind of database: `opened` says what opening the connection
leaves and gives, and is told what may be shown of the address. -/
def generateOpened (opened : String → FileTree Content × Except ConnectionError Fetch)
    (cwd : Location) (connection standard : String) (sources : List (EnumSource String))
    (files : FileTree Content) : LookupOutcome Content (List Path) :=
  if sources.isEmpty then
    { files, log := [.info "No database enums configured to generate"], result := .ok [] }
  else
    match Url.mask connection with
    | .error e => { files, log := [], result := .error (.connection (.port e)) }
    | .ok masked =>
      let opening : LogLine := .info ("Connecting to database: " ++ masked)
      match opened masked with
      | (files, .error e) => { files, log := [opening], result := .error (.connection e) }
      | (files, .ok fetch) =>
        let outcome := EnumSource.generateAll fetch cwd standard sources files
        { outcome with log := opening :: outcome.log }

/-- Connects to the database and writes the files of all sources. -/
def generateEnums (databases : Databases) (cwd : Location) (connection standard : String)
    (sources : List (EnumSource String)) (files : FileTree Content) :
    LookupOutcome Content (List Path) :=
  generateOpened (fun masked => databases.connect cwd files masked connection) cwd connection
    standard sources files

end TypeExport

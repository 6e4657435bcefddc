import TypeExport.File.Tree
import TypeExport.Lookup.EnumModule
import TypeExport.Source.Content
import TypeExport.Sql.Selection
import TypeExport.Url.Masked

/-!
# Connections to databases

What an address leads to is a matter of the library and of the servers behind it, and is given as a
whole: whether there is a connection, what opening it leaves of the files, and what it answers about
every source.  Databases that stand in files of the tree are one such kind.
-/

namespace TypeExport

inductive ConnectionError where
  | port (cause : Url.AddressError)
  | invalid (masked : String) (cause : Sql.Fault)
  | unreachable (masked : String) (cause : Sql.Fault)
  | foreign (cause : Sql.Fault)
  deriving Repr

def ConnectionError.message : ConnectionError → String
  | .port cause => cause.message
  | .invalid masked _ => "Invalid database connection string: " ++ masked
  | .unreachable masked _ => "Failed to connect to database: " ++ masked
  | .foreign cause => cause.message

def ConnectionError.inner? : ConnectionError → Option String
  | .invalid _ cause | .unreachable _ cause => some cause.message
  | .port _ | .foreign _ => none

/-- What a database answers about each source. -/
abbrev Fetch := EnumSource String → Except Sql.Fault (List EnumSource.Row)

/-- What addresses lead to.  `connect` opens the connection of an address in a working directory; it
is told what may be shown of the address. -/
structure Databases where
  connect : (cwd : Location) → FileTree Content → (masked address : String) →
    FileTree Content × Except ConnectionError Fetch

end TypeExport

/-!
## Databases in files

The scheme of an address names the kind of database.  Only files can be reached, and a file that is
missing is created empty.
-/

namespace TypeExport

/-- An address that cannot be read. -/
def Sql.Fault.unreadable : Sql.Fault :=
  { kind := "ArgumentError", message := "Could not parse the address" }

def Sql.Fault.unknownScheme : Sql.Fault :=
  { kind := "NoSuchModuleError", message := "Nothing is known about databases of this scheme" }

def Sql.Fault.noDriver (name : String) : Sql.Fault :=
  { kind := "ModuleNotFoundError", message := "No module named " ++ Quoted.readableString name,
    isForeign := true }

def Sql.Fault.noFile : Sql.Fault :=
  { kind := "OperationalError", message := "unable to open database file" }

/-- An open connection: a database, or a file that holds none. -/
inductive Connection where
  | database (db : Sql.Database)
  | noDatabase
  deriving Repr

/-- The rows of a source, keys and labels, in the order of the keys. -/
def Connection.fetch (c : Connection) : Fetch := fun source =>
  match c with
  | .noDatabase => .error .notDatabase
  | .database db =>
    (db.query source.query).map fun rows => rows.map fun row => (row.getD 0 .null, row.getD 1 .null)

namespace Connection

def missingDrivers : List (String × String) :=
  [("postgresql", "psycopg2"), ("postgresql+psycopg2", "psycopg2"), ("mysql", "MySQLdb"),
   ("mysql+mysqldb", "MySQLdb"), ("mysql+pymysql", "pymysql"), ("mariadb", "MySQLdb"),
   ("mssql", "pyodbc"), ("mssql+pyodbc", "pyodbc"), ("oracle", "cx_Oracle"),
   ("oracle+cx_oracle", "cx_Oracle"), ("postgresql+asyncpg", "asyncpg"),
   ("postgresql+psycopg", "psycopg"), ("postgresql+pg8000", "pg8000"),
   ("oracle+oracledb", "oracledb"), ("sqlite+aiosqlite", "aiosqlite"),
   ("sqlite+pysqlcipher", "sqlcipher3")]

/-- The schemes of databases in files. -/
def fileSchemes : List String := ["sqlite", "sqlite+pysqlite"]

/-- A database file has no user, host or port. -/
def isLocal (a : Url.Address) : Bool :=
  a.user.isNone && a.password.isNone && a.host.isNone && a.port.isNone

/-- The path of the database file; `none` for a database in memory. -/
def databasePath (a : Url.Address) : Option Path :=
  match a.database.map String.ofList with
  | none | some "" | some ":memory:" => none
  | some name => some (Path.ofString name)

/-- The address of a file database. -/
def accept (masked : String) (text : String) : Except ConnectionError Url.Address :=
  match Url.Address.read text with
  | .error _ => .error (.invalid masked .unreadable)
  | .ok a =>
    if fileSchemes.contains a.scheme then
      if isLocal a then .ok a else .error (.invalid masked .unreadable)
    else
      match missingDrivers.lookup a.scheme with
      | some driver => .error (.foreign (.noDriver driver))
      | none => .error (.invalid masked .unknownScheme)

/-- The connection that a content of a file gives; an empty file is an empty database. -/
def ofContent : Content → Connection
  | .database db _ => .database db
  | c => if (TextContent.bytes c).isEmpty then .database { tables := [] } else .noDatabase

def openFile (cwd : Location) (files : FileTree Content) (masked : String) (p : Path) :
    FileTree Content × Except ConnectionError Connection :=
  match files.lookup cwd p with
  | .ok (_, some (.file c)) => (files, .ok (ofContent c))
  | .ok (l, none) => (files.insert l (.file (.bytes [])), .ok (.database { tables := [] }))
  | _ => (files, .error (.unreachable masked .noFile))

def connect (cwd : Location) (files : FileTree Content) (masked : String) (text : String) :
    FileTree Content × Except ConnectionError Connection :=
  match accept masked text with
  | .error e => (files, .error e)
  | .ok a =>
    match databasePath a with
    | none => (files, .ok (.database { tables := [] }))
    | some p => openFile cwd files masked p

end Connection

def Databases.inFiles : Databases where
  connect cwd files masked address :=
    let (files, result) := Connection.connect cwd files masked address
    (files, result.map Connection.fetch)

end TypeExport

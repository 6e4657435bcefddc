import TypeExport.Class.Definition
import TypeExport.File.Environment
import TypeExport.Lookup.Connection
import TypeExport.Scan.Library

/-!
# Finding modules

A module is looked for in directories, one after the other.  In a directory a package goes before a
file; directories that hold no package are only used if no directory offers more.
-/

namespace TypeExport

/-- What a run can see: the files, the directories that imports search in order, the modules that are
installed beside the standard ones, and the databases.  The `digest` tells files of one name apart. -/
structure Importer where
  environment : Environment
  files : FileTree Content
  searchPath : List Location
  installed : List String
  digest : Location → String
  databases : Databases := .inFiles

/-- What a module comes from, if it is not known by its name alone. -/
inductive ModuleOrigin where
  | builtIn
  | frozen
  | library (name : String)
  | place (l : Location)
  deriving DecidableEq, Repr

/-- An imported module: one outside of the scanned files, or one of the world by its number. -/
inductive ModuleHandle where
  | outside (name : String)
  | inside (index : Nat)
  deriving DecidableEq, Repr

/-- Where a module is found, and the directories of its submodules if it has any. -/
structure FoundModule where
  source : ModuleSource
  directories : Option (List Location)
  deriving Repr

namespace Importer

variable (imp : Importer)

/-- The modules that are there outside of the scanned files and below other modules. -/
def libraryModules : List String :=
  Library.submodules ++ Library.frozen ++ imp.installed

/-- Whether a module is there outside of the scanned files. -/
def isLibrary (name : String) : Bool :=
  Library.isStandard name || imp.installed.contains name

/-- Whether a module outside of the scanned files is loaded from the start. -/
def isLoaded (name : String) : Bool :=
  Library.isLoaded name || imp.installed.contains name

/-- Whether a module outside of the scanned files has modules below it. -/
def isLibraryPackage (name : String) : Bool :=
  imp.libraryModules.any (Library.isBelow name)

def libraryOrigin (name : String) : ModuleOrigin :=
  if Library.builtIn.contains name then .builtIn
  else if Library.frozen.contains name then .frozen
  else .library name

/-- Whether the file system takes the absolute path of a location. -/
def isReachable (l : Location) : Bool :=
  (Path.ofLocation l).fits

def isFile (l : Location) : Bool :=
  isReachable l && (imp.files.fileAt? l).isSome

def isDirectory (l : Location) : Bool :=
  isReachable l && imp.files.isDirectory l

/-- The file that is run when a package is imported. -/
def packageFile : String := "__init__.py"

/-- How the files of modules end. -/
def moduleExtension : String := ".py"

/-- What a directory offers under a word. -/
def offer (word : String) (directory : Location) : Option FoundModule :=
  let inner := directory ++ [word]
  let package := inner ++ [packageFile]
  let file := directory ++ [word ++ moduleExtension]
  if imp.isFile package then some { source := .file package, directories := some [inner] }
  else if imp.isFile file then some { source := .file file, directories := none }
  else none

/-- The directories of a word that hold no package. -/
def portions (word : String) (directories : List Location) : List Location :=
  (directories.map (· ++ [word])).filter imp.isDirectory

/-- The module that some directories offer under a word; `fallback` goes before directories that
hold no package. -/
def findIn (directories : List Location) (word : String) (fallback : Option FoundModule) :
    Option FoundModule :=
  (directories.findSome? (imp.offer word)).or
    (fallback.or
      (match imp.portions word directories with
        | [] => none
        | found => some { source := .directories, directories := some found }))

/-- A library module as it is found. -/
def libraryModule? (name : String) : Option FoundModule :=
  if imp.isLibrary name then some { source := .library, directories := none } else none

def registered? (w : World) (name : String) : Option ModuleHandle :=
  match w.registry.lookup name with
  | some index =>
    match w.modules[index]? with
    | some m => some (if m.source = .library then .outside name else .inside index)
    | none => none
  | none => if imp.isLoaded name then some (.outside name) else none

/-- The directories of the submodules of a registered module.  A library package has none, but its
modules are known. -/
def directoriesOf? (w : World) : ModuleHandle → Option (List Location)
  | .outside name => if imp.isLibraryPackage name then some [] else none
  | .inside index => (w.modules[index]?).bind (·.directories)

/-- Where the module of a name is found, when the one above it is registered already. -/
def find (w : World) (name : String) : Except Failure (Option FoundModule) :=
  let owner := World.frontPart name
  if owner.isEmpty then .ok (imp.findIn imp.searchPath name (imp.libraryModule? name))
  else
    match (imp.registered? w owner).bind (imp.directoriesOf? w) with
    | none => .error (.missingModule name (some owner))
    | some directories =>
      .ok (imp.findIn directories (World.lastPart name) (imp.libraryModule? name))

/-- What a module comes from that is found. -/
def originOf (name : String) (found : FoundModule) : ModuleOrigin :=
  match found.source, found.directories with
  | .file l, _ => .place l
  | .directories, some (first :: _) => .place first
  | _, _ => libraryOrigin name

def handleOrigin (w : World) : ModuleHandle → ModuleOrigin
  | .outside name => libraryOrigin name
  | .inside index =>
    match w.modules[index]? with
    | some m => originOf m.name { source := m.source, directories := m.directories }
    | none => .library ""

end Importer

end TypeExport

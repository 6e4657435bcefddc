import TypeExport.Config.Basic
import TypeExport.File.Environment
import TypeExport.Name.Keyword

/-!
# Reviewing configurations

Rules that tie settings together.  Breaking one is a fault; a missing directory or a blank entry is
only a remark.
-/

namespace TypeExport.Config

open CodeText (ofString)

inductive Fault where
  | noConnection
  | noTable
  | noKeyColumn (enumName : CodeText)
  | noLabelColumn (enumName : CodeText)
  | noEnumName (table : CodeText)
  | illegalEnumName (name : CodeText)
  | noInterfaceDirectory
  | noEnumDirectory
  deriving DecidableEq, Repr

inductive Remark where
  | noModuleDirectory
  | missingDirectory (setting : String) (location : Location)
  | blankTarget
  deriving DecidableEq, Repr

/-- Why an output path leads nowhere. -/
inductive PathFault where
  | noHome
  | notEncodable
  | nullCharacter
  | nameTooLong
  deriving DecidableEq, Repr

structure Review where
  faults : List Fault
  remarks : List Remark
  deriving Repr

def isBlank (t : CodeText) : Bool :=
  t.all fun c => Text.isBlank c.val

def isLegalName (t : CodeText) : Bool :=
  Text.isIdentifier t.codes && !(t.toString?.any Name.isKeyword)

def sourceFaults (s : EnumSource CodeText) : List Fault :=
  (if isBlank s.table then [.noTable] else []) ++
  (if isBlank s.keyColumn then [.noKeyColumn s.name] else []) ++
  (if isBlank s.labelColumn then [.noLabelColumn s.name] else []) ++
  (if isBlank s.name then [.noEnumName s.table]
   else if isLegalName s.name then [] else [.illegalEnumName s.name])

variable {κ : Type}

/-- The directory that an output path denotes. -/
def outputLocation (env : Environment) (path : CodeText) : Except PathFault Location := do
  let some text := path.toString? | throw .notEncodable
  let some p := env.expandHome (Path.ofString text) | throw .noHome
  if FileTree.hasNull p then throw .nullCharacter
  return p.locate env.workingDirectory

/-- A remark if nothing stands where the output goes. -/
def directoryRemarks (env : Environment) (files : FileTree κ) (setting : String)
    (path : CodeText) : Except PathFault (List Remark) := do
  let location ← outputLocation env path
  match files.pathExists env.workingDirectory (Path.ofLocation location) with
  | .error _ => throw .nameTooLong
  | .ok true => return []
  | .ok false => return [.missingDirectory setting location]

def reviewSources (env : Environment) (files : FileTree κ) (c : Config CodeText) :
    Except PathFault Review := do
  if c.sources.isEmpty then return { faults := [], remarks := [] }
  let faults := (if isBlank c.connection then [.noConnection] else []) ++
    c.sources.flatMap sourceFaults
  if isBlank c.moduleDirectory then return { faults, remarks := [.noModuleDirectory] }
  let remarks ← directoryRemarks env files "pythonEnumsOutputPath" c.moduleDirectory
  return { faults, remarks }

/-- An output directory of the scan: it has to be given. -/
def reviewOutput (env : Environment) (files : FileTree κ) (setting : String) (path : CodeText)
    (fault : Fault) : Except PathFault Review := do
  if isBlank path then return { faults := [fault], remarks := [] }
  let remarks ← directoryRemarks env files setting path
  return { faults := [], remarks }

def reviewTargets (env : Environment) (files : FileTree κ) (c : Config CodeText) :
    Except PathFault Review := do
  if c.targets.isEmpty then return { faults := [], remarks := [] }
  let interfaces ← reviewOutput env files "typeScriptInterfacesOutputPath" c.interfaceDirectory
    .noInterfaceDirectory
  let enums ← reviewOutput env files "typeScriptEnumsOutputPath" c.enumDirectory .noEnumDirectory
  let blank := if c.targets.any isBlank then [.blankTarget] else []
  return { faults := interfaces.faults ++ enums.faults,
           remarks := interfaces.remarks ++ enums.remarks ++ blank }

/-- The faults and remarks of a configuration, in the order of the rules. -/
def review (env : Environment) (files : FileTree κ) (c : Config CodeText) :
    Except PathFault Review := do
  let sources ← reviewSources env files c
  let targets ← reviewTargets env files c
  return { faults := sources.faults ++ targets.faults, remarks := sources.remarks ++ targets.remarks }

def quoted (t : CodeText) : CodeText :=
  ofString "'" ++ t ++ ofString "'"

def Fault.message : Fault → CodeText
  | .noConnection => ofString "connectionString is required when databaseEnums are configured."
  | .noTable => ofString "tableName is required for all database enum configurations."
  | .noKeyColumn name =>
    ofString "keyColumn is required for database enum " ++ quoted name ++ ofString "."
  | .noLabelColumn name =>
    ofString "valueColumn is required for database enum " ++ quoted name ++ ofString "."
  | .noEnumName table =>
    ofString "enumName is required for database enum with table " ++ quoted table ++ ofString "."
  | .illegalEnumName name =>
    ofString "enumName " ++ quoted name ++ ofString " is not a valid Python identifier."
  | .noInterfaceDirectory =>
    ofString "typeScriptInterfacesOutputPath is required when modulesToScan are configured."
  | .noEnumDirectory =>
    ofString "typeScriptEnumsOutputPath is required when modulesToScan are configured."

def Remark.message : Remark → String
  | .noModuleDirectory =>
    "pythonEnumsOutputPath not specified - database enums will not be generated."
  | .missingDirectory setting location =>
    setting ++ " directory does not exist: " ++ (Path.ofLocation location).text ++
      ". It will be created during generation."
  | .blankTarget => "Empty module entry found in modulesToScan."

def PathFault.message : PathFault → String
  | .noHome => "Could not determine home directory."
  | .notEncodable => "surrogates not allowed"
  | .nullCharacter => "embedded null byte"
  | .nameTooLong => "File name too long"

def faultList (faults : List Fault) : CodeText :=
  Text.joinWith ⟨10, by decide⟩ (faults.map fun f => ofString "  - " ++ f.message)

end TypeExport.Config

import TypeExport.Log.Basic
import TypeExport.Scan.Import
import TypeExport.Text.Classes

/-!
# Scan targets

A target names a file, a directory or a module.  A text that looks like a path is one; every other
text is the name of a module.
-/

namespace TypeExport

inductive TargetKind where
  | file
  | directory
  | module
  deriving DecidableEq, Repr

/-- A target that has been found.  Targets that come from one place are one. -/
structure Target where
  text : String
  kind : TargetKind
  origin : ModuleOrigin
  deriving Repr

inductive TargetProblem where
  | noPath
  | noModule
  | badFile
  | badModule
  deriving DecidableEq, Repr

inductive ScanError where
  | target (problem : TargetProblem) (text : String) (cause : Option Failure)
  | source (cause : Failure)
  | file (path : Path) (cause : FileError)
  | noHome
  deriving Repr

def TargetProblem.message : TargetProblem → String
  | .noPath => "Module path not found"
  | .noModule => "Module not found"
  | .badFile => "Failed to load module from file"
  | .badModule => "Failed to import module"

def ScanError.message : ScanError → String
  | .target problem text _ => problem.message ++ ": " ++ text
  | .source cause => cause.message
  | .file path cause => cause.message path
  | .noHome => "Could not determine home directory."

def ScanError.inner? : ScanError → Option String
  | .target _ _ cause => cause.map Failure.message
  | _ => none

/-- Whether the failure is of a module and does not end the whole run. -/
def ScanError.isOrdinary : ScanError → Bool
  | .source cause => cause.isOrdinary
  | _ => true

/-- The world of a scan, and what it reports. -/
structure Progress where
  world : World
  log : List LogLine
  deriving Repr

/-- Finding and loading targets. -/
abbrev Loads := ExceptT ScanError (StateM Progress)

namespace Loads

variable {α : Type}

def report (line : LogLine) : Loads Unit :=
  modify fun p => { p with log := p.log ++ [line] }

/-- Defines classes and modules in the world; a failure is a result. -/
def attempt (d : Defines α) : Loads (Except Failure α) :=
  ExceptT.mk fun p =>
    let (result, world) := d.run.run p.world
    (.ok result, { p with world })

/-- Defines classes and modules for a part of a target; only an ordinary failure is a result. -/
def part (d : Defines α) : Loads (Except Failure α) := do
  match ← attempt d with
  | .ok a => return .ok a
  | .error f => if f.isOrdinary then return .error f else throw (.source f)

/-- Fails because of what stands at a path. -/
def ofFile (path : Path) (e : Except FileError α) : Loads α :=
  match e with
  | .ok a => return a
  | .error cause => throw (.file path cause)

end Loads

namespace Importer

variable (imp : Importer)

def looksLikePath (text : String) : Except FileError Bool :=
  let chars := text.toList
  if moduleExtension.toList.reverse.isPrefixOf chars.reverse || chars.contains '/' ||
      chars.contains '\\' then .ok true
  else imp.files.pathIsDirectory imp.environment.workingDirectory (.ofString text)

/-- The target that a path names. -/
def findPath (text : String) : Except ScanError Target := do
  let some path := imp.environment.expandHome (.ofString text) | throw .noHome
  if FileTree.hasNull path then throw (.file path .nullCharacter)
  let l := path.locate imp.environment.workingDirectory
  let absolute := Path.ofLocation l
  let check (e : Except FileError Bool) : Except ScanError Bool := e.mapError (.file absolute)
  if ← check (imp.files.pathIsFile [] absolute) then
    return { text, kind := .file, origin := .place l }
  else if ← check (imp.files.pathIsDirectory [] absolute) then
    return { text, kind := .directory, origin := .place l }
  else throw (.target .noPath text none)

/-- The target that the name of a module names. -/
def findModule (text : String) : Loads Target := do
  match ← Loads.attempt (imp.locateModule text) with
  | .ok (some origin) => return { text, kind := .module, origin }
  | .ok none => throw (.target .noModule text none)
  | .error f => if f.hidesModule then throw (.target .noModule text (some f)) else throw (.source f)

/-- Finds the target that a text names; blanks around it do not count. -/
def findTarget (written : String) : Loads Target := do
  let text := Text.trim written
  if ← Loads.ofFile (.ofString text) (imp.looksLikePath text) then
    ExceptT.mk (pure (imp.findPath text))
  else imp.findModule text

end Importer

end TypeExport

import TypeExport.Scan.Target

/-!
# Loading targets

Loading a directory loads its public files, and loading a package all modules below it.  A module
that fails there is reported and left out; a file or a module that is a target itself has to load.
-/

namespace TypeExport

/-- The modules of a target, and what could not be loaded. -/
structure LoadedTarget where
  target : Target
  modules : List ModuleHandle := []
  failures : List String := []
  deriving Repr

namespace LoadedTarget

def addModule (t : LoadedTarget) (h : ModuleHandle) : LoadedTarget :=
  { t with modules := t.modules ++ [h] }

def addFailure (t : LoadedTarget) (name : String) : LoadedTarget :=
  { t with failures := t.failures ++ [name] }

end LoadedTarget

def skipLine (target part : String) (f : Failure) : LogLine :=
  .warning ("Partial load of " ++ target ++ ": skipping " ++ part ++ " (" ++ f.kind ++ ": " ++
    f.message ++ ")")

/-- The line about a package whose modules are left out. -/
def skipPackageLine (target part : String) : LogLine :=
  .warning ("Partial load of " ++ target ++ ": skipping package " ++ part)

def noModulesLine (path : String) : LogLine :=
  .warning ("No Python modules found in directory " ++ path)

namespace Importer

variable (imp : Importer)

def endsWith (suffix name : String) : Bool :=
  suffix.toList.reverse.isPrefixOf name.toList.reverse

def sortNames (names : List String) : List String :=
  names.mergeSort fun a b => decide (a ≤ b)

/-- The names of the public module files in a directory, in order. -/
def publicFiles (directory : Location) : List String :=
  sortNames ((imp.files.names directory).filter fun name =>
    endsWith moduleExtension name && name.toList.head? != some '_')

def loadFiles (directory : Location) (t : LoadedTarget) : List String → Loads LoadedTarget
  | [] => return t
  | name :: rest => do
    let l := directory ++ [name]
    match ← Loads.part (imp.loadFile l) with
    | .ok h => loadFiles directory (t.addModule h) rest
    | .error f =>
      Loads.report (skipLine t.target.text name f)
      loadFiles directory (t.addFailure (Path.ofLocation l).text) rest

def loadDirectory (target : Target) (directory : Location) : Loads LoadedTarget := do
  let files := imp.publicFiles directory
  if files.isEmpty then Loads.report (noModulesLine (Path.ofLocation directory).text)
  imp.loadFiles directory { target } files

/-- The word under which an entry of a directory is a module, and whether it is a package. -/
def moduleWord? (directory : Location) (name : String) : Option (String × Bool) :=
  if endsWith moduleExtension name then
    let word := Path.stem name
    if word.toList.contains '.' || name = moduleExtension then none else some (word, false)
  else if name.toList.contains '.' then none
  else if isReachable (directory ++ [name]) &&
      (imp.files.find? (directory ++ [name, packageFile])).isSome then some (name, true)
  else none

/-- The words of the modules in a directory, in order and each once, apart from the package's own
file. -/
def moduleWords (directory : Location) : List (String × Bool) :=
  (sortNames (imp.files.names directory)).foldl (fun words name =>
    match imp.moduleWord? directory name with
    | none => words
    | some (word, isPackage) =>
      if word = Path.stem packageFile || words.any (·.1 == word) then words
      else words ++ [(word, isPackage)]) []

/-- The modules below a library module. -/
def libraryWords (owner : String) : List (String × Bool) :=
  (sortNames (imp.libraryModules.filter (Library.isBelow owner))).map fun name =>
    (World.lastPart name, imp.isLibraryPackage name)

def wordsBelow (w : World) (h : ModuleHandle) : List (String × Bool) :=
  match h with
  | .outside name => imp.libraryWords name
  | .inside _ =>
    ((imp.directoriesOf? w h).getD []).foldl (fun words directory =>
      words ++ (imp.moduleWords directory).filter fun (word, _) => !words.any (·.1 == word)) []

mutual

/-- Loads the modules below a module; `depth` bounds how deep packages lie in one another. -/
def loadBelow (depth : Nat) (owner : String) (h : ModuleHandle) (t : LoadedTarget) :
    Loads LoadedTarget := do
  match depth with
  | 0 => return t
  | depth + 1 => loadWords depth owner t (imp.wordsBelow (← get).world h)
termination_by (depth, 0)

/-- Loads modules of a package.  A package is imported once more before those below it. -/
def loadWords (depth : Nat) (owner : String) (t : LoadedTarget) :
    List (String × Bool) → Loads LoadedTarget
  | [] => return t
  | (word, isPackage) :: rest => do
    let name := owner ++ "." ++ word
    let t ← match ← Loads.part (imp.importModule name) with
      | .ok h => pure (t.addModule h)
      | .error f => do
        Loads.report (skipLine t.target.text name f)
        pure (t.addFailure name)
    if isPackage then
      match ← Loads.part (imp.importModule name) with
      | .ok h =>
        let t ← loadBelow depth name h t
        loadWords depth owner t rest
      | .error _ => do
        Loads.report (skipPackageLine t.target.text name)
        loadWords depth owner (t.addFailure name) rest
    else loadWords depth owner t rest
termination_by words => (depth, words.length + 1)

end

/-- Loads a module, and all below it if it is a package. -/
def loadPackage (target : Target) : Loads LoadedTarget := do
  match ← Loads.part (imp.importModule target.text) with
  | .error f => throw (.target .badModule target.text (some f))
  | .ok h =>
    let t : LoadedTarget := { target, modules := [h] }
    let w := (← get).world
    if (imp.directoriesOf? w h).isNone then return t
    else imp.loadBelow (imp.files.entries.length + imp.libraryModules.length + 1) (h.name w) h t

def loadTarget (target : Target) : Loads LoadedTarget := do
  match target.kind, target.origin with
  | .directory, .place l => imp.loadDirectory target l
  | .file, .place l =>
    match ← Loads.part (imp.loadFile l) with
    | .ok h => return { target, modules := [h] }
    | .error f => throw (.target .badFile target.text (some f))
  | _, _ => imp.loadPackage target

end Importer

end TypeExport

import TypeExport.Scan.ModuleBody

/-!
# Importing modules

Importing a module imports those above it first.  A module is registered before its body runs, so
that modules may import one another, and taken off the register if its body fails.  Compiled forms of
modules, which an interpreter may keep beside their files, are neither read nor written.
-/

namespace TypeExport.Importer

variable (imp : Importer)

def sourceAt (l : Location) : Except Failure SourceModule :=
  if !isReachable l then .error (.tooLong (Path.ofLocation l).text)
  else
    match imp.files.fileAt? l with
    | none => .error (.isDirectory (Path.ofLocation l).text)
    | some content => content.sourceModule

/-- Runs the file of a registered module.  If that fails the module is taken off the register. -/
def runFile (load : String → Defines ModuleHandle) (index : Nat) (name : String) (l : Location) :
    Defines Unit := do
  try
    match imp.sourceAt l with
    | .error f => throw f
    | .ok m => m.run load imp index name
  catch f =>
    modify (·.unregister name)
    throw f

/-- Gives a new submodule its name in the module above it. -/
def bindInOwner (w : World) (name : String) : World :=
  match imp.registered? w (World.frontPart name) with
  | some (.inside index) => w.bind index (World.lastPart name) (.module name)
  | _ => w

/-- Imports a module when the one above it is imported already. -/
def importOne (load : String → Defines ModuleHandle) (name : String) : Defines Unit := do
  let w ← get
  if (imp.registered? w name).isNone then
    let some found ← Defines.ofWorld fun w => imp.find w name | throw (.missingModule name none)
    let index := w.modules.length
    let { source, directories } := found
    modify (·.addModule { name, source, directories, names := [], ready := false })
    match source with
    | .file l => imp.runFile load index name l
    | _ => pure ()
    modify (·.changeModule index fun m => { m with ready := true })
    modify (imp.bindInOwner · name)

/-- The dotted names that a name begins with, the shortest first, and the name itself. -/
def namesAbove (name : String) : List String :=
  let chars := name.toList
  ((List.range chars.length).filter fun i => chars[i]? == some '.').map
    (fun i => String.ofList (chars.take i)) ++ [name]

/-- The names that have to be imported for a name: those behind the last registered one. -/
def pending (w : World) (name : String) : List String :=
  ((namesAbove name).reverse.takeWhile fun n => (imp.registered? w n).isNone).reverse

/-- Imports a module; `depth` is how many modules may be running at once. -/
def importWithin : (depth : Nat) → (name : String) → Defines ModuleHandle
  | 0, _ => throw .tooDeep
  | depth + 1, name => do
    for n in imp.pending (← get) name do
      imp.importOne (importWithin depth) n
    match imp.registered? (← get) name with
    | some h => return h
    | none => throw (.missingModule name none)

/-- More modules than this cannot be running at once, as every one is registered under a name that
leads to its file, or to that of its package, from a directory of the search path. -/
def depth : Nat :=
  2 * imp.searchPath.length * imp.files.entries.length + 8

def importModule (name : String) : Defines ModuleHandle :=
  imp.importWithin imp.depth name

/-- The name under which a file is loaded: its own without the extension, unless another module has
that name already. -/
def fileModuleName (w : World) (l : Location) : String :=
  let stem := Path.stem (l.getLast?.getD "")
  match imp.registered? w stem with
  | none => stem
  | some h =>
    let same : Bool := match h with
      | .inside index => (w.modules[index]?).any fun m => m.source == .file l
      | .outside _ => false
    if same then stem else stem ++ "_" ++ imp.digest l

/-- Loads a file as a module, again if it is loaded already. -/
def loadFile (l : Location) : Defines ModuleHandle := do
  let w ← get
  let name := imp.fileModuleName w l
  let path := (Path.ofLocation l).text
  if !moduleExtension.toList.reverse.isPrefixOf path.toList.reverse then throw (.noSource path)
  let index := w.modules.length
  modify (·.addModule
    { name, source := .file l, directories := none, names := [], ready := true })
  imp.runFile (imp.importWithin imp.depth) index name l
  return .inside index

/-- What the module of a name comes from, if there is one.  The modules above it are imported. -/
def locateModule (name : String) : Defines (Option ModuleOrigin) := do
  if name.toList.head? = some '.' then throw .relativeName
  if name = "__main__" then throw (.invalidValue "__main__.__spec__ is None")
  let w ← get
  match imp.registered? w name with
  | some h => return some (handleOrigin w h)
  | none =>
    let owner := World.frontPart name
    if !owner.isEmpty then
      let _ ← imp.importModule owner
    let found ← Defines.ofWorld fun w => imp.find w name
    return found.map (originOf name)

end TypeExport.Importer

import TypeExport.Scan.Importer
import TypeExport.Source.ModuleText

/-!
# Running modules

The statements of a module run one after the other and give its names their values.  Imports are
left to `load`, which imports a module by its full name.
-/

namespace TypeExport

namespace ModuleHandle

def name (w : World) : ModuleHandle → String
  | .outside name => name
  | .inside index => ((w.modules[index]?).map (·.name)).getD ""

/-- The value of a name of a module outside of the scanned files.  Where not all names are known,
the others have a value of which nothing is known. -/
def libraryValue? (moduleName name : String) : Option Hint :=
  match StandardName.find? moduleName name with
  | some n => some (Expr.hintOfName name n)
  | none =>
    if (StandardName.knownModules.lookup moduleName).isSome then none else some .other

def value? (w : World) (h : ModuleHandle) (name : String) : Option Hint :=
  match h with
  | .outside m => libraryValue? m name
  | .inside index => (w.modules[index]?).bind (·.names.lookup name)

/-- The names of a module that do not begin with a low line, with their values. -/
def publicNames (w : World) : ModuleHandle → List (String × Hint)
  | .outside m =>
    ((StandardName.modules.lookup m).getD []).map fun (name, n) => (name, Expr.hintOfName name n)
  | .inside index =>
    (((w.modules[index]?).map (·.names)).getD []).filter fun (name, _) =>
      name.toList.head? != some '_'

/-- Where a module stands, for the report of a name that it does not have. -/
def place (w : World) : ModuleHandle → ImportPlace
  | .outside _ => .unknown
  | .inside index =>
    match w.modules[index]? with
    | some { source := .file l, ready, .. } =>
      let text := (Path.ofLocation l).text
      if ready then .path text else .unfinished text
    | _ => .unknown

end ModuleHandle

namespace SourceModule

variable (load : String → Defines ModuleHandle)

/-- Imports a module of a package if it is there. -/
def loadInside (package name : String) : Defines Unit := do
  let full := package ++ "." ++ name
  try
    let _ ← load full
  catch f =>
    if f ≠ .missingModule full none then throw f

/-- The value of an imported name: one of the module, or a module below it. -/
def importedValue (imp : Importer) (h : ModuleHandle) (name : String) : Defines Hint := do
  let w ← get
  match h.value? w name with
  | some v => return v
  | none =>
    let full := h.name w ++ "." ++ name
    if (imp.registered? w full).isSome then return .module full
    else throw (.missingName name (h.name w) (h.place w))

/-- Imports a module.  The module above all others in its name gets a name. -/
def importWhole (index : Nat) (source : String) : Defines Unit := do
  let _ ← load source
  let top := Primitive.topLevel source
  modify (·.bind index top (.module top))

def importNames (imp : Importer) (index : Nat) (source : String) (names : List (String × String)) :
    Defines Unit := do
  let h ← load source
  let w ← get
  if (imp.directoriesOf? w h).isSome then
    for (name, _) in names do
      if name ≠ "*" && (h.value? (← get) name).isNone then
        loadInside load (h.name w) name
  for (name, id) in names do
    if name = "*" then
      let w ← get
      set ((h.publicNames w).foldl (fun w (n, v) => w.bind index n v) w)
    else
      let v ← importedValue imp h name
      modify (·.bind index id v)

/-- The exceptions that cannot be made from a message alone. -/
def composedExceptions : List String :=
  ["builtins.UnicodeDecodeError", "builtins.UnicodeEncodeError", "builtins.UnicodeTranslateError",
   "builtins.ExceptionGroup", "builtins.BaseExceptionGroup"]

/-- The failure that a module raises itself. -/
def raised (w : World) (scope : Scope) (kind message : String) : Failure :=
  match scope.evaluate w (.name kind) with
  | .error f => f
  | .ok (.type c) =>
    if w.derivesStandard c "builtins.BaseException" &&
        !composedExceptions.contains (w.fullName c) then
      .raised (w.shortName c) message
    else .illTyped
  | .ok _ => .illTyped

def runStatement (imp : Importer) (index : Nat) (scope : Scope) : Statement → Defines Unit
  | .importModule source => importWhole load index source
  | .importNames source first others => importNames load imp index source (first :: others)
  | .bind name value => do
    let v ← Defines.ofWorld fun w => scope.evaluate w value
    modify (·.bind index name v)
  | .compute value => do
    let _ ← Defines.ofWorld fun w => scope.evaluate w value
  | .newType name base => do
    let v ← Defines.ofWorld fun w => scope.evaluate w base
    modify (·.bind index name (.newType name v))
  | .raise kind message => do
    throw (raised (← get) scope kind message)
  | .define definition => do
    let c ← definition.define scope
    modify (·.bind index definition.name (.type c))

def run (imp : Importer) (index : Nat) (name : String) (m : SourceModule) : Defines Unit := do
  for (id, source) in m.prelude do
    modify (·.bind index id (.module source))
  for id in m.typeVariables do
    modify (·.bind index id (.typeVariable id))
  for s in m.body do
    runStatement load imp index { moduleName := name, deferred := m.deferred } s

end SourceModule

namespace Content

def sourceModule : Content → Except Failure SourceModule
  | .module m _ => .ok m
  | .text s =>
    if s.toList.contains '\x00' then .error nullFailure
    else
      match SourceModule.ofText? s with
      | some m => .ok m
      | none => .error .unreadable
  | .bytes b => .error (if b.contains 0 then nullFailure else .unreadable)
  | .database _ _ => .error nullFailure
where
  nullFailure : Failure := .invalidValue "source code string cannot contain null bytes"

end Content

end TypeExport

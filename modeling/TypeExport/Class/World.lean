import TypeExport.Annotation.Hint
import TypeExport.Class.StandardNames
import TypeExport.Class.StandardTable
import TypeExport.File.Path
import TypeExport.Keyed
import TypeExport.Primitive.StandardModule
import TypeExport.Source.Module
import TypeExport.Descriptor.Basic

/-!
# Classes and modules

The world of a scan is the list of the classes that were defined and the list of the modules that
are imported.
-/

namespace TypeExport

/-- What a field of a data record is for: only a plain one is a property of the record. -/
inductive FieldRole where
  | plain
  | classVariable
  | argument
  deriving DecidableEq, Repr

/-- A field of a data record.  One with a standard value may be left out. -/
structure RecordField where
  name : String
  role : FieldRole
  hasStandard : Bool
  ignored : Bool
  deriving Repr

structure ValidatedField where
  name : String
  hint : Hint
  notes : List Hint
  excluded : Bool
  deriving Repr

/-- A relation of a mapped class: the annotation that names its other end, and the relation there
that it belongs to. -/
structure Relation where
  name : String
  typeHint : Hint
  counterpart : Option String
  deriving Repr

/-- A column of a table, and the column of a table that it refers to. -/
structure Column where
  name : String
  isKey : Bool
  target : Option String
  deriving Repr

/-- How a mapped class is stored.  Classes of one base may refer to one another. -/
structure Mapping where
  base : ClassRef
  table : String
  columns : List Column
  relations : List Relation
  deriving Repr

/-- A class that a scanned module defines.  The `order` is its linearisation, from the class itself
to `object`; annotations and attributes are its own, in the order in which they came first. -/
structure ClassInfo where
  moduleName : String
  qualifiedName : String
  shortName : String
  order : List ClassRef
  storage : ClassRef
  metaclass : String
  marker : Option (Option String)
  parameters : List String
  isProtocol : Bool
  abstractMethods : List String
  annotations : List (String × Hint)
  attributes : List (String × Hint)
  members : List Member
  recordFields : Option (List RecordField)
  validatedFields : Option (List ValidatedField)
  mapping : Option Mapping
  deriving Repr

/-- Where an imported module comes from.  A module without a file has only directories, and one of
the libraries stands outside of the scanned files. -/
inductive ModuleSource where
  | file (l : Location)
  | directories
  | library
  deriving DecidableEq, Repr

/-- An imported module: where it comes from, the directories of its submodules if it has any, and
its names.  A module that is imported by name is not `ready` while its body runs. -/
structure ImportedModule where
  name : String
  source : ModuleSource
  directories : Option (List Location)
  names : List (String × Hint)
  ready : Bool
  deriving Repr

/-- The classes and the modules, by number, and the numbers of the registered modules.  A class or a
module keeps its number also when its name is given to another one. -/
structure World where
  classes : List ClassInfo
  modules : List ImportedModule
  registry : List (String × Nat)
  deriving Repr

namespace World

def empty : World :=
  { classes := [], modules := [], registry := [] }

def info? (w : World) : ClassRef → Option ClassInfo
  | .defined i => w.classes[i]?
  | .standard _ => none

def lastPart (name : String) : String :=
  String.ofList (name.toList.reverse.takeWhile (· != '.')).reverse

def frontPart (name : String) : String :=
  String.ofList ((name.toList.reverse.dropWhile (· != '.')).drop 1).reverse

def fullName (w : World) (c : ClassRef) : String :=
  match c, w.info? c with
  | .standard name, _ => name
  | _, some info => info.moduleName ++ "." ++ info.qualifiedName
  | _, none => ""

def shortName (w : World) (c : ClassRef) : String :=
  match c, w.info? c with
  | .standard name, _ => lastPart name
  | _, some info => info.shortName
  | _, none => ""

def moduleName (w : World) (c : ClassRef) : String :=
  match c, w.info? c with
  | .standard name, _ => frontPart name
  | _, some info => info.moduleName
  | _, none => ""

/-- The class that every class derives from. -/
def objectClass : ClassRef := .standard "builtins.object"

/-- The linearisation of a class: the class, its ancestors nearest first, and `object`. -/
def order (w : World) (c : ClassRef) : List ClassRef :=
  match c, w.info? c with
  | .standard name, _ =>
    if c = objectClass then [c]
    else
      let ancestors := ((StandardClass.find? name).map (·.ancestors)).getD []
      c :: ancestors.map .standard ++ [objectClass]
  | _, some info => info.order
  | _, none => [c]

def derives (w : World) (c ancestor : ClassRef) : Bool :=
  (w.order c).contains ancestor

def derivesStandard (w : World) (c : ClassRef) (name : String) : Bool :=
  w.derives c (.standard name)

def isEnumeration (w : World) (c : ClassRef) : Bool :=
  w.derivesStandard c "enum.Enum"

def isValidated (w : World) (c : ClassRef) : Bool :=
  w.derivesStandard c "pydantic.main.BaseModel"

def parameters (w : World) (c : ClassRef) : List String :=
  ((w.info? c).map (·.parameters)).getD []

def metaclass (w : World) (c : ClassRef) : String :=
  match c, w.info? c with
  | .standard name, _ => ((StandardClass.find? name).map (·.metaclass)).getD "builtins.type"
  | _, some info => info.metaclass
  | _, none => "builtins.type"

def storage (w : World) (c : ClassRef) : ClassRef :=
  match c, w.info? c with
  | .standard name, _ =>
    .standard (((StandardClass.find? name).map (·.storage)).getD "builtins.object")
  | _, some info => info.storage
  | _, none => objectClass

def isProtocol (w : World) (c : ClassRef) : Bool :=
  match c, w.info? c with
  | .standard name, _ => ((StandardClass.find? name).map (·.isProtocol)).getD false
  | _, some info => info.isProtocol
  | _, none => false

/-- The methods that a class leaves without an implementation. -/
def abstractMethods (w : World) (c : ClassRef) : List String :=
  match c, w.info? c with
  | .standard name, _ => ((StandardClass.find? name).map (·.abstractMethods)).getD []
  | _, some info => info.abstractMethods
  | _, none => []

def attributes (w : World) (c : ClassRef) : List (String × Hint) :=
  ((w.info? c).map (·.attributes)).getD []

def annotations (w : World) (c : ClassRef) : List (String × Hint) :=
  ((w.info? c).map (·.annotations)).getD []

/-- The value of an attribute: that of the nearest class which has it. -/
def attribute? (w : World) (c : ClassRef) (name : String) : Option Hint :=
  (w.order c).findSome? fun k => (w.attributes k).lookup name

/-- The fields of a data record; a class that derives from one has the same fields. -/
def recordFields? (w : World) (c : ClassRef) : Option (List RecordField) :=
  (w.order c).findSome? fun k => (w.info? k).bind (·.recordFields)

/-- The fields of a validated record, those of the ancestors included. -/
def validatedFields (w : World) (c : ClassRef) : List ValidatedField :=
  ((w.info? c).bind (·.validatedFields)).getD []

def mapping? (w : World) (c : ClassRef) : Option Mapping :=
  (w.info? c).bind (·.mapping)

def module? (w : World) (name : String) : Option ImportedModule :=
  (w.registry.lookup name).bind (w.modules[·]?)

/-- The names of a module; a module that is not registered has none. -/
def names (w : World) (moduleName : String) : List (String × Hint) :=
  ((w.module? moduleName).map (·.names)).getD []

def addModule (w : World) (m : ImportedModule) : World :=
  { w with modules := w.modules ++ [m], registry := Keyed.put m.name w.modules.length w.registry }

def unregister (w : World) (name : String) : World :=
  { w with registry := Keyed.erase name w.registry }

def changeModule (w : World) (index : Nat) (f : ImportedModule → ImportedModule) : World :=
  match w.modules[index]? with
  | none => w
  | some m => { w with modules := w.modules.set index (f m) }

def bind (w : World) (index : Nat) (name : String) (value : Hint) : World :=
  w.changeModule index fun m => { m with names := Keyed.put name value m.names }

def putClass (w : World) (index : Nat) (info : ClassInfo) : World :=
  { w with classes := w.classes.set index info }

def addClass (w : World) (info : ClassInfo) : World :=
  { w with classes := w.classes ++ [info] }

end World

end TypeExport

import TypeExport.Descriptor.Unseen
import TypeExport.Log.Basic
import TypeExport.Scan.Description

/-!
# Classes as a type graph

The classes of a world are a type graph: a node is a class whose full name is known, or the
unresolved type.  Properties that were read once stay as they were read.
-/

namespace TypeExport

/-- The names of the scanned classes, and the properties that were read so far. -/
structure ClassIndex where
  names : List String
  read : List (ClassRef × List ClassProperty) := []
  deriving Repr

namespace World

/-- The index of classes: a class is found by its full and by its short name. -/
def indexOf (w : World) (classes : List ClassRef) : ClassIndex :=
  { names := classes.flatMap fun c => [w.fullName c, w.shortName c] }

end World

/-- The classes of a world as they are described with an index. -/
structure Universe where
  world : World
  index : ClassIndex
  broken : List ClassRef
  deriving Repr

namespace Universe

/-- The full names of the classes that standard names stand for. -/
def standardNames : List String :=
  StandardClass.table.map (·.name) ++
    StandardName.modules.flatMap fun (_, names) => names.filterMap fun (_, n) =>
      match n with
      | .type fullName => some fullName
      | .alias origin _ => some origin
      | _ => none

variable (u : Universe)

def fullNames : List String :=
  unresolvedName :: ((List.range u.world.classes.length).map fun i =>
    u.world.fullName (.defined i)) ++ standardNames

def describe (t : Option ClassRef) : Descriptor :=
  u.world.describeType u.index.names t

def properties (t : Option ClassRef) : Except Failure (List ClassProperty) :=
  match t.bind fun c => u.index.read.lookup c with
  | some properties => .ok properties
  | none => u.world.typeProperties u.broken t

/-- A type with a full name that is known. -/
def Node : Type :=
  { t : Option ClassRef // (u.describe t).fullName ∈ u.fullNames }

def unresolved : u.Node :=
  ⟨none, List.mem_cons_self⟩

/-- The node of a type; a type of an unknown name is unresolved. -/
def node (t : Option ClassRef) : u.Node :=
  if h : (u.describe t).fullName ∈ u.fullNames then ⟨t, h⟩ else u.unresolved

def nodeProperty (p : ClassProperty) : Property u.Node :=
  { name := p.name, shape := p.shape.map u.node, navigation := p.navigation, ignored := p.ignored }

/-- The types as a graph. -/
def graph : TypeGraph Failure where
  Node := u.Node
  descriptor t := u.describe t.val
  properties t := (u.properties t.val).map fun properties => properties.map u.nodeProperty
  fullNames := u.fullNames
  fullName_mem t := t.property

/-- The line about the relations of a class that are not known. -/
def relationsLine (fullName : String) : LogLine :=
  .warning ("Could not inspect ORM relationships of " ++ fullName ++
    ": a relationship cannot be followed")

/-- The base of a class whose relations are not known. -/
def unknownBase? (c : ClassRef) : Option ClassRef :=
  match u.world.declared u.broken c with
  | .ok d => d.unknownBase
  | .error _ => none

/-- What is left after the properties of a type were read, and what is reported: what was read for
the first time is kept. -/
def afterRead (t : Option ClassRef) : Universe × List LogLine :=
  match t with
  | none => (u, [])
  | some c =>
    if (u.index.read.lookup c).isSome then (u, [])
    else
      match (u.describe t).kind, u.world.typeProperties u.broken t with
      | .record, .ok properties | .interface, .ok properties =>
        let index := { u.index with read := u.index.read ++ [(c, properties)] }
        match u.unknownBase? c with
        | none => ({ u with index }, [])
        | some base =>
          ({ u with index, broken := base :: u.broken }, [relationsLine (u.world.fullName c)])
      | _, _ => (u, [])

/-- What is left after the properties of some types were read one after the other. -/
def afterReads (u : Universe) : List (Option ClassRef) → Universe × List LogLine
  | [] => (u, [])
  | t :: rest =>
    let (u, first) := u.afterRead t
    let (u, more) := u.afterReads rest
    (u, first ++ more)

end Universe

end TypeExport

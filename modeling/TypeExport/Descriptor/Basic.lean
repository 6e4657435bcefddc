import TypeExport.Primitive.Table
import TypeExport.Value.Basic

/-!
# Type descriptors

A descriptor says what is known of one source type without looking at its properties.  Its identity
is its full name.  A shape says how a property is made of types, which are named by the nodes of a
type graph.
-/

namespace TypeExport

/-- What a source type is. -/
inductive TypeKind where
  | record
  | interface
  | enumeration
  | primitive
  deriving DecidableEq, Repr

/-- Whether a type belongs to the scanned modules. -/
inductive Origin where
  | scanned
  | external
  deriving DecidableEq, Repr

/-- A member of an enumeration. -/
structure Member where
  name : String
  value : Value
  deriving Repr

/-- A source type.  A property of a `required` type is present unless it is nullable; `base` is the
mapped primitive that the type derives from, and `marked` types are to be exported. -/
structure Descriptor where
  fullName : String
  shortName : String
  kind : TypeKind
  origin : Origin := .external
  exportName : Option String := none
  required : Bool := false
  base : Option String := none
  marked : Bool := false
  members : List Member := []
  deriving Repr

namespace Descriptor

/-- Two descriptors describe one type when their full names agree. -/
def sameType (a b : Descriptor) : Bool :=
  a.fullName == b.fullName

/-- The name of the declaration: the export name unless that is absent or empty. -/
def targetName (d : Descriptor) : String :=
  match d.exportName with
  | none => d.shortName
  | some name => if name.isEmpty then d.shortName else name

/-- The name that is looked up among the primitive types. -/
def primitiveName (d : Descriptor) : String :=
  match d.base with
  | none => d.fullName
  | some name => if name.isEmpty then d.fullName else name

/-- Whether references to the type need a declaration of it. -/
def isInlined (d : Descriptor) : Bool :=
  d.kind == .record && d.origin == .scanned

end Descriptor

/-- How a property is made of types. -/
inductive Shape (ι : Type) where
  | direct (type : ι)
  | nullable (inner : Shape ι)
  | array (element : Shape ι)
  | dictionary (key value : Shape ι)
  deriving Repr, DecidableEq

namespace Shape

variable {ι : Type}

def map {κ : Type} (f : ι → κ) : Shape ι → Shape κ
  | .direct t => .direct (f t)
  | .nullable s => .nullable (s.map f)
  | .array s => .array (s.map f)
  | .dictionary k v => .dictionary (k.map f) (v.map f)

end Shape

/-- A property of a source type. -/
structure Property (ι : Type) where
  name : String
  shape : Shape ι
  navigation : Bool := false
  ignored : Bool := false
  deriving Repr

/-- Types that refer to one another.  Reading the properties of a type may fail, and there are only
finitely many full names. -/
structure TypeGraph (ε : Type) where
  Node : Type
  descriptor : Node → Descriptor
  properties : Node → Except ε (List (Property Node))
  fullNames : List String
  fullName_mem : ∀ t, (descriptor t).fullName ∈ fullNames

end TypeExport

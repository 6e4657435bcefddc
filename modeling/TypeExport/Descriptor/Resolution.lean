import TypeExport.Descriptor.Basic
import TypeExport.Policy

/-!
# What a policy says of types and properties

A policy may map a type to a text, and it keeps some of the properties of a type.  Whether a field
is optional and whether a shape is the type of text keys is read off the shape alone.
-/

namespace TypeExport

/-- The target type of a dictionary whose keys are no texts. -/
def openDictionary : String := "\x7b [key: string]: any \x7d"

namespace Policy

/-- A mapping of the policy for a type, by full name and then by short name. -/
def mapping? (policy : Policy) (d : Descriptor) : Option String :=
  match policy.typeMappings.lookup d.fullName with
  | some text => some text
  | none => policy.typeMappings.lookup d.shortName

/-- Whether the property is part of the declaration. -/
def keeps {ι : Type} (policy : Policy) (p : Property ι) : Bool :=
  !(policy.dropNavigation && p.navigation) && (!p.ignored || policy.keepIgnored)

end Policy

namespace TypeGraph

variable {ε : Type} (g : TypeGraph ε)

/-- Whether a shape is the type of text keys. -/
def isTextKey : Shape g.Node → Bool
  | .direct t => (g.descriptor t).primitiveName == Primitive.textKey
  | _ => false

/-- A property is required when it is directly of a required type and not ignored. -/
def isOptional (p : Property g.Node) : Bool :=
  match p.shape with
  | .direct t => !(g.descriptor t).required || p.ignored
  | _ => true

end TypeGraph

end TypeExport

import TypeExport.Descriptor.Basic

/-!
# Declarations

A declaration is an interface with fields or an enumeration with members.  An artifact is the
declaration of one exported type together with the declarations it needs.
-/

namespace TypeExport

inductive DeclarationKind where
  | interface
  | enumeration
  deriving DecidableEq, Repr

/-- A field of an interface, its type already in the target language. -/
structure Field where
  name : String
  typeText : String
  optional : Bool
  deriving Repr, DecidableEq

/-- One declaration.  `source` is the full name of the type it declares; a `body` that is not empty
is its text. -/
structure Declaration where
  target : String
  kind : DeclarationKind
  source : String := ""
  exported : Bool
  fields : List Field := []
  members : List Member := []
  body : String := ""
  deriving Repr

/-- The declaration of an exported type and those it needs, in the order they are written. -/
structure Artifact where
  root : Declaration
  nested : List Declaration := []
  deriving Repr

def Artifact.declarations (a : Artifact) : List Declaration :=
  a.nested ++ [a.root]

end TypeExport

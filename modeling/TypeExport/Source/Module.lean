import TypeExport.Source.Expr

/-!
# Source modules

A module is a list of statements.  Its class definitions say in which of the known ways a class
declares its properties.
-/

namespace TypeExport

inductive ClassForm where
  | plain
  | dataRecord
  | validated
  | mappedBase
  | mapped
  | protocol
  | abstract
  | namedTuple
  | typedTable
  | enumeration
  deriving DecidableEq, Repr

structure ColumnMark where
  isKey : Bool
  target : Option String
  deriving Repr, DecidableEq

/-- A field of a class definition.  A relation names the property at its other end, if any. -/
structure FieldDefinition where
  name : String
  typeHint : Option Expr := none
  standard : Option Expr := none
  factory : Option String := none
  serializerIgnored : Option Bool := none
  excluded : Option Bool := none
  column : Option ColumnMark := none
  relation : Option (Option String) := none
  deriving Repr

/-- A class definition.  The marker of an exported class may give it a name. -/
inductive ClassDefinition where
  | mk (name : String) (form : ClassForm) (bases : List Expr) (parameters : List String)
      (marker : Option (Option String)) (fields : List FieldDefinition)
      (members : List (String × Value)) (nested : List ClassDefinition)
      (abstractMethods methods : List String) (table : Option String) (admitsUnmapped : Bool)
  deriving Repr

instance : Inhabited ClassDefinition :=
  ⟨.mk "" .plain [] [] none [] [] [] [] [] none false⟩

namespace ClassDefinition

def name : ClassDefinition → String
  | mk name .. => name

def form : ClassDefinition → ClassForm
  | mk _ form .. => form

def bases : ClassDefinition → List Expr
  | mk _ _ bases .. => bases

def parameters : ClassDefinition → List String
  | mk _ _ _ parameters .. => parameters

def marker : ClassDefinition → Option (Option String)
  | mk _ _ _ _ marker .. => marker

def fields : ClassDefinition → List FieldDefinition
  | mk _ _ _ _ _ fields .. => fields

def members : ClassDefinition → List (String × Value)
  | mk _ _ _ _ _ _ members .. => members

def abstractMethods : ClassDefinition → List String
  | mk _ _ _ _ _ _ _ _ abstractMethods .. => abstractMethods

def methods : ClassDefinition → List String
  | mk _ _ _ _ _ _ _ _ _ methods .. => methods

def table : ClassDefinition → Option String
  | mk _ _ _ _ _ _ _ _ _ _ table _ => table

def admitsUnmapped : ClassDefinition → Bool
  | mk _ _ _ _ _ _ _ _ _ _ _ admitsUnmapped => admitsUnmapped

end ClassDefinition

/-- A statement of a module.  An import takes at least one name, each with the name that it gets, or
the module itself.  The value of what is only computed is not used. -/
inductive Statement where
  | importModule (source : String)
  | importNames (source : String) (first : String × String) (others : List (String × String))
  | bind (name : String) (value : Expr)
  | compute (value : Expr)
  | newType (name : String) (base : Expr)
  | raise (kind message : String)
  | define (definition : ClassDefinition)
  deriving Repr

/-- A module.  With `deferred` annotations every annotation is kept as text.  The `prelude` holds
names that stand for other modules from the start. -/
structure SourceModule where
  prelude : List (String × String)
  deferred : Bool
  typeVariables : List String
  body : List Statement
  deriving Repr, Inhabited

end TypeExport

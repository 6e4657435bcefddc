/-!
# Classes of the standard modules

What is known of a class that no scanned module defines, and what a name of a standard module may
stand for.
-/

namespace TypeExport

/-- How a class takes arguments in brackets: not at all, any number of them, or exactly so many. -/
inductive Subscription where
  | none
  | free
  | checked (count : Nat)
  deriving DecidableEq, Repr

/-- A class that is not defined by a scanned module.  The `ancestors` come nearest first, without
the class and without `object`; `storage` is the class that fixes how instances are stored. -/
structure StandardClass where
  name : String
  ancestors : List String := []
  subscription : Subscription := .none
  storage : String := "builtins.object"
  metaclass : String := "builtins.type"
  abstractMethods : List String := []
  isClosed : Bool := false
  isSized : Bool := false
  isProtocol : Bool := false
  deriving Repr

inductive StandardName where
  | type (fullName : String)
  | alias (origin : String) (count : Nat)
  | tuple
  | callable
  | form
  | typeVariable
  | module (name : String)
  | value
  deriving DecidableEq, Repr

end TypeExport

import TypeExport.Value.Basic

/-!
# Hints

A hint is what an annotation evaluates to: a class, a form that is made of hints, or a value that is
no type.  Text that is left for later is a hint as well.
-/

namespace TypeExport

/-- A class: one of the standard modules by full name, or one of the scanned modules by number. -/
inductive ClassRef where
  | standard (fullName : String)
  | defined (index : Nat)
  deriving DecidableEq, Repr

/-- What an annotation notes beside a type. -/
inductive Note where
  | reference (column : Option String)
  | ignore
  deriving DecidableEq, Repr

/-- A container form of the typing module before it has arguments. -/
inductive AliasForm where
  | generic (origin : String) (count : Nat)
  | tuple
  | callable
  deriving DecidableEq, Repr

/-- What an annotation evaluates to.  The `native` forms of applied classes and unions keep texts as
they are.  Of the value of a class only the class is known, and of `other` values nothing. -/
inductive Hint where
  | type (c : ClassRef)
  | alias (form : AliasForm)
  | form (name : String)
  | union (members : List Hint) (native : Bool)
  | applied (origin : ClassRef) (arguments : List Hint) (native : Bool)
  | formed (name : String) (arguments : List Hint)
  | annotated (inner : Hint) (notes : List Hint)
  | classVariable (inner : Hint)
  | final (inner : Hint)
  | newType (name : String) (base : Hint)
  | typeVariable (name : String)
  | text (s : String)
  | forward (s : String) (special : Bool)
  | constant (value : Value)
  | ellipsis
  | module (name : String)
  | list (items : List Hint)
  | tuple (items : List Hint)
  | note (n : Note)
  | valueOf (c : ClassRef)
  | other
  deriving Repr, Inhabited

namespace Hint

def standard (fullName : String) : Hint :=
  .type (.standard fullName)

def nullType : Hint :=
  standard "builtins.NoneType"

def any : Hint :=
  standard "typing.Any"

def isNullType : Hint → Bool
  | .type (.standard name) => name == "builtins.NoneType"
  | _ => false

mutual

/-- Whether two hints are the same form with the same parts. -/
def same : Hint → Hint → Bool
  | .type a, .type b => a == b
  | .alias a, .alias b => a == b
  | .form a, .form b => a == b
  | .union as _, .union bs _ => sameAll as bs
  | .applied a as m, .applied b bs n => a == b && m == n && sameAll as bs
  | .formed a as, .formed b bs => a == b && sameAll as bs
  | .annotated a as, .annotated b bs => same a b && sameAll as bs
  | .classVariable a, .classVariable b => same a b
  | .final a, .final b => same a b
  | .newType a x, .newType b y => a == b && same x y
  | .typeVariable a, .typeVariable b => a == b
  | .text a, .text b => a == b
  | .forward a _, .forward b _ => a == b
  | .constant a, .constant b => a.same b
  | .ellipsis, .ellipsis => true
  | .module a, .module b => a == b
  | .list as, .list bs => sameAll as bs
  | .tuple as, .tuple bs => sameAll as bs
  | .note a, .note b => a == b
  | _, _ => false

def sameAll : List Hint → List Hint → Bool
  | [], [] => true
  | a :: as, b :: bs => same a b && sameAll as bs
  | _, _ => false

end

/-- The hints with later repetitions left out. -/
def distinct : List Hint → List Hint
  | [] => []
  | h :: rest => h :: (distinct rest).filter (!same h ·)

end Hint

end TypeExport

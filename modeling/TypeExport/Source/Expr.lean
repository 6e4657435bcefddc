import TypeExport.Name.Private
import TypeExport.Value.Basic

/-!
# Expressions of source modules

Annotations, base classes and defaults are expressions.  The value of a text constant is the text
itself, also where it stands for an annotation that is evaluated later.
-/

namespace TypeExport

inductive Operator where
  | alternative
  | add
  | subtract
  | multiply
  | divide
  | floorDivide
  | modulo
  deriving DecidableEq, Repr

/-- An expression.  Of a function only the fact is kept, and of a display in braces whether it has
keys. -/
inductive Expr where
  | name (id : String)
  | attribute (owner : Expr) (id : String)
  | subscript (owner index : Expr)
  | call (function : Expr) (arguments : List Expr)
  | binary (operator : Operator) (left right : Expr)
  | negative (operand : Expr)
  | constant (value : Value)
  | ellipsis
  | list (items : List Expr)
  | tuple (items : List Expr)
  | function
  | display (keyed : Bool)
  deriving Repr, Inhabited

namespace Expr

/-- The names of a dotted path, as a chain of attributes. -/
def ofPath : List String → Expr
  | [] => .tuple []
  | first :: rest => rest.foldl .attribute (.name first)

/-- An index of several expressions is a tuple. -/
def index : List Expr → Expr
  | [one] => one
  | items => .tuple items

end Expr

end TypeExport

/-!
## Expressions in class bodies

Inside the body of a class, the private names in an expression stand for those of the class.
-/

namespace TypeExport.Expr

mutual

/-- The expression as it is meant in the body of a class. -/
def inClass (className : String) : Expr → Expr
  | .name id => .name (Name.inClass className id)
  | .attribute owner id => .attribute (inClass className owner) (Name.inClass className id)
  | .subscript owner index => .subscript (inClass className owner) (inClass className index)
  | .call f arguments => .call (inClass className f) (allInClass className arguments)
  | .binary op left right => .binary op (inClass className left) (inClass className right)
  | .negative operand => .negative (inClass className operand)
  | .list items => .list (allInClass className items)
  | .tuple items => .tuple (allInClass className items)
  | e => e

def allInClass (className : String) : List Expr → List Expr
  | [] => []
  | e :: rest => inClass className e :: allInClass className rest

end

end TypeExport.Expr

import TypeExport.Source.Expr

/-!
# Writing expressions

The text of an expression, with parentheses only where an operand binds less tightly than its
place asks for.
-/

namespace TypeExport.Expr

def symbol : Operator → String
  | .alternative => "|"
  | .add => "+"
  | .subtract => "-"
  | .multiply => "*"
  | .divide => "/"
  | .floorDivide => "//"
  | .modulo => "%"

/-- How tightly an operator binds. -/
def strength : Operator → Nat
  | .alternative => 1
  | .add | .subtract => 2
  | .multiply | .divide | .floorDivide | .modulo => 3

/-- Parentheses around what binds less tightly than its place. -/
def enclose (place own : Nat) (s : String) : String :=
  if own < place then "(" ++ s ++ ")" else s

mutual

/-- The text of an expression at a place that asks for a strength. -/
def print (place : Nat) : Expr → String
  | .name id => id
  | .attribute owner id => owner.print 5 ++ "." ++ id
  | .subscript owner (.tuple items) =>
    owner.print 5 ++ "[" ++ (if items.isEmpty then "()" else printItems items) ++
      (if items.length = 1 then ",]" else "]")
  | .subscript owner index => owner.print 5 ++ "[" ++ index.print 0 ++ "]"
  | .call f arguments => f.print 5 ++ "(" ++ printItems arguments ++ ")"
  | .binary op left right =>
    enclose place (strength op)
      (left.print (strength op) ++ " " ++ symbol op ++ " " ++ right.print (strength op + 1))
  | .negative operand => enclose place 4 ("-" ++ operand.print 4)
  | .constant value => value.literal
  | .ellipsis => "..."
  | .list items => "[" ++ printItems items ++ "]"
  | .tuple items => "(" ++ printItems items ++ (if items.length = 1 then ",)" else ")")
  | .function => enclose place 1 "lambda: 0"
  | .display keyed => if keyed then "\x7b\x7d" else "set()"

def printItems : List Expr → String
  | [] => ""
  | [one] => one.print 0
  | one :: rest => one.print 0 ++ ", " ++ printItems rest

end

def text (e : Expr) : String :=
  e.print 0

end TypeExport.Expr

import TypeExport.Number.Shortest
import TypeExport.Text.Quoted

/-!
# Constant values

The values of enum members and of table cells, how they are written, and when two of them are equal.
A value is displayed as a reader would say it, and its literal form is the one inside a tuple.
-/

namespace TypeExport

inductive Value where
  | null
  | bool (b : Bool)
  | int (n : Int)
  | double (x : Double)
  | text (s : String)
  | bytes (b : List UInt8)
  | tuple (items : List Value)
  deriving Repr, Inhabited

namespace Value

/-- The members of a tuple between parentheses; a single one keeps a comma. -/
def parenthesised : List String → String
  | [] => "()"
  | [one] => "(" ++ one ++ ",)"
  | items => "(" ++ ", ".intercalate items ++ ")"

def literal : Value → String
  | .null => "None"
  | .bool b => if b then "True" else "False"
  | .int n => toString n
  | .double x => x.text
  | .text s => Quoted.readableString s
  | .bytes b => Quoted.readableBytes b
  | .tuple items => parenthesised (items.attach.map fun ⟨v, _⟩ => v.literal)

/-- The displayed form: a text is itself, and everything else its literal. -/
def display : Value → String
  | .text s => s
  | v => v.literal

/-- A value as a number, if it is one. -/
def asInt? : Value → Option Int
  | .bool b => some (if b then 1 else 0)
  | .int n => some n
  | _ => none

mutual

/-- Equality of values: numbers compare by what they denote, also across kinds. -/
def same : Value → Value → Bool
  | .null, .null => true
  | .bool a, .bool b => a == b
  | .bool a, .int n => n == if a then 1 else 0
  | .int n, .bool b => n == if b then 1 else 0
  | .bool a, .double x => x.equalsInt (if a then 1 else 0)
  | .double x, .bool b => x.equalsInt (if b then 1 else 0)
  | .int m, .int n => m == n
  | .int n, .double x => x.equalsInt n
  | .double x, .int n => x.equalsInt n
  | .double x, .double y => x.sameValue y
  | .text a, .text b => a == b
  | .bytes a, .bytes b => a == b
  | .tuple a, .tuple b => sameItems a b
  | _, _ => false

def sameItems : List Value → List Value → Bool
  | [], [] => true
  | a :: as, b :: bs => same a b && sameItems as bs
  | _, _ => false

end

end Value

end TypeExport

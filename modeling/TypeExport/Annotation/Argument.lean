import TypeExport.Annotation.Failure
import TypeExport.Annotation.Hint
import TypeExport.Source.Reader

/-!
# Arguments of forms

What may stand as an argument of a form.  The null value stands for its class, and a text for the
annotation that it spells; the text has to be an expression from the start.
-/

namespace TypeExport.Hint

/-- The annotation that a text spells, to be evaluated later.  A `special` one may be a class
variable or final. -/
def forwardOf (s : String) (special : Bool) : Except Failure Hint :=
  if s.isEmpty then .error .emptyText
  else if (Expr.read? s).isSome then .ok (.forward s special)
  else .error .unreadable

/-- The type that a value stands for as an argument. -/
def asType (special : Bool) : Hint → Except Failure Hint
  | .constant .null => .ok nullType
  | .text s => forwardOf s special
  | h => .ok h

def plainForms : List String :=
  ["NoReturn", "Never", "Self", "LiteralString", "TypeAlias"]

/-- The forms that only the annotation of a class variable itself may be. -/
def specialForms : List String := ["ClassVar", "Final"]

/-- The classes that only name type parameters. -/
def parameterClasses : List String := ["typing.Generic", "typing.Protocol"]

def isArgument (special : Bool) : Hint → Bool
  | .classVariable _ | .final _ => special
  | .annotated (.form name) _ => special || !specialForms.contains name
  | .form name => plainForms.contains name || (special && specialForms.contains name)
  | .type (.standard name) => !parameterClasses.contains name
  | .applied (.standard name) _ _ => !parameterClasses.contains name
  | .tuple _ => false
  | _ => true

/-- The argument that a value stands for, if it is admitted. -/
def asArgument (special : Bool) (h : Hint) : Except Failure Hint := do
  let h ← asType special h
  if isArgument special h then return h else throw .illTyped

/-- The members of a union, and of all else the hint itself. -/
def unionMembers : Hint → List Hint
  | .union members _ => members
  | h => [h]

def isList : Hint → Bool
  | .list _ => true
  | _ => false

/-- The union of types that are admitted already: nested unions are opened, repetitions left out,
and a single type is itself. -/
def joinTypes (native : Bool) (types : List Hint) : Except Failure Hint :=
  let members := types.flatMap unionMembers
  if members.any isList then .error .illTyped
  else
    match distinct members with
    | [] => .error .illTyped
    | [one] => .ok one
    | many => .ok (.union many native)

def unionOf (types : List Hint) : Except Failure Hint := do
  joinTypes false (← types.mapM (asArgument false))

/-- Whether `|` joins the operand without the help of a form. -/
def isNativeOperand : Hint → Bool
  | .type _ | .constant .null => true
  | .applied _ _ native => native
  | .union _ native => native
  | _ => false

/-- Whether the operand is a form, which `|` joins with all that are arguments. -/
def isFormOperand : Hint → Bool
  | .alias _ | .form _ | .formed _ _ | .annotated _ _ | .classVariable _ | .final _ => true
  | .newType _ _ | .typeVariable _ | .forward _ _ => true
  | .applied _ _ native => !native
  | .union _ native => !native
  | _ => false

def isNull : Hint → Bool
  | .constant .null => true
  | _ => false

/-- The value of `a | b`. -/
def alternative (a b : Hint) : Except Failure Hint :=
  if isNativeOperand a && isNativeOperand b then
    if isNull a && isNull b then .error .illTyped
    else
      let plain (h : Hint) := if isNull h then nullType else h
      joinTypes true [plain a, plain b]
  else if isFormOperand a || isFormOperand b then unionOf [a, b]
  else .error .illTyped

end TypeExport.Hint

import TypeExport.Annotation.Subscript

/-!
# Evaluating expressions

The hint that an expression denotes where names have meanings.
-/

namespace TypeExport.Expr

def hintOfName (name : String) : StandardName → Hint
  | .type fullName => .standard fullName
  | .alias origin count => .alias (.generic origin count)
  | .tuple => .alias .tuple
  | .callable => .alias .callable
  | .form => .form name
  | .typeVariable => .typeVariable name
  | .module module => .module module
  | .value => .other

def builtIn? (name : String) : Option Hint :=
  if name = "Ellipsis" then some .ellipsis
  else (StandardName.find? "builtins" name).map (hintOfName name)

/-- The value of `owner.id`. -/
def attributeOf (w : World) (owner : Hint) (id : String) : Except Failure Hint :=
  match owner with
  | .module m =>
    match ((w.names m).lookup id).or ((StandardName.find? m id).map (hintOfName id)) with
    | some h => .ok h
    | none => .error (.missingAttribute ("module " ++ Quoted.readableString m) id)
  | .type c =>
    match w.attribute? c id with
    | some h => .ok h
    | none =>
      .error (.missingAttribute ("type object " ++ Quoted.readableString (w.shortName c)) id)
  | .valueOf _ | .other => .ok .other
  | _ => .error (.missingAttribute "object" id)

def isNumber : Hint → Bool
  | .constant (.int _) | .constant (.bool _) | .constant (.double _) => true
  | _ => false

def isZero : Hint → Bool
  | .constant (.int n) => n == 0
  | .constant (.bool b) => !b
  | .constant (.double x) => x.equalsInt 0
  | _ => false

def divides : Operator → Bool
  | .divide | .floorDivide | .modulo => true
  | _ => false

def combine : Operator → Hint → Hint → Except Failure Hint
  | .alternative, a, b => Hint.alternative a b
  | .add, .text a, .text b => .ok (.text (a ++ b))
  | op, a, b =>
    if isNumber a && isNumber b then
      if divides op && isZero b then .error .zeroDivision else .ok .other
    else
      match a, b with
      | .other, _ | _, .other | .valueOf _, _ | _, .valueOf _ => .ok .other
      | _, _ => .error .illTyped

/-- The value of a call: the marks have values of their own. -/
def callOf (f : Hint) (arguments : List Hint) : Except Failure Hint :=
  match f, arguments with
  | .type (.standard "typegen.markers.ForeignKey"), [] => .ok (.note (.reference none))
  | .type (.standard "typegen.markers.ForeignKey"), [.text column] =>
    .ok (.note (.reference (some column)))
  | .type (.standard "typegen.markers.ForeignKey"), [.constant .null] =>
    .ok (.note (.reference none))
  | .type (.standard "typegen.markers.JsonIgnore"), [] => .ok (.note .ignore)
  | .type c, _ => .ok (.valueOf c)
  | .other, _ | .newType _ _, _ => .ok .other
  | _, _ => .error .illTyped

/-- The arguments in brackets, and whether they are a tuple. -/
def indexItems : Hint → List Hint × Bool
  | .tuple items => (items, true)
  | h => ([h], false)

mutual

/-- The value of an expression where `lookup` gives the meanings of names. -/
def evaluate (w : World) (lookup : String → Option Hint) : Expr → Except Failure Hint
  | .name id =>
    match lookup id with
    | some h => .ok h
    | none => .error (.undefinedName id)
  | .attribute owner id => do attributeOf w (← owner.evaluate w lookup) id
  | .subscript owner index => do
    let owner ← owner.evaluate w lookup
    let (items, several) := indexItems (← index.evaluate w lookup)
    Hint.subscript w owner items several
  | .call f arguments => do
    let f ← f.evaluate w lookup
    callOf f (← evaluateAll w lookup arguments)
  | .binary op left right => do
    let left ← left.evaluate w lookup
    combine op left (← right.evaluate w lookup)
  | .negative operand => do
    let h ← operand.evaluate w lookup
    if isNumber h then return .other else throw .illTyped
  | .constant (.text s) => .ok (.text s)
  | .constant v => .ok (.constant v)
  | .ellipsis => .ok .ellipsis
  | .list items => do return .list (← evaluateAll w lookup items)
  | .tuple items => do return .tuple (← evaluateAll w lookup items)
  | .function => .ok .other
  | .display keyed => .ok (.valueOf (.standard (if keyed then "builtins.dict" else "builtins.set")))

def evaluateAll (w : World) (lookup : String → Option Hint) :
    List Expr → Except Failure (List Hint)
  | [] => .ok []
  | e :: rest => do
    let h ← e.evaluate w lookup
    return h :: (← evaluateAll w lookup rest)

end

end TypeExport.Expr

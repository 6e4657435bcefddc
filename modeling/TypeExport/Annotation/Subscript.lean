import TypeExport.Annotation.Argument
import TypeExport.Class.World

/-!
# Forms with arguments

The value of `head[…]`.  Forms of the typing module check their arguments and how many there are;
native containers take whatever is given.
-/

namespace TypeExport.Hint

mutual

/-- The type variables in a hint, in the order of their first occurrence. -/
def typeVariables : Hint → List String
  | .typeVariable name => [name]
  | .union members _ => variablesOf members
  | .applied _ arguments _ => variablesOf arguments
  | .annotated inner _ => typeVariables inner
  | .classVariable inner => typeVariables inner
  | .final inner => typeVariables inner
  | _ => []

def variablesOf : List Hint → List String
  | [] => []
  | h :: rest => typeVariables h ++ (variablesOf rest).filter (!(typeVariables h).contains ·)

end

mutual

/-- The hint with types in place of its type variables. -/
def substitute (types : List (String × Hint)) : Hint → Hint
  | .typeVariable name => (types.lookup name).getD (.typeVariable name)
  | .union members native => .union (substituteAll types members) native
  | .applied origin arguments native => .applied origin (substituteAll types arguments) native
  | .annotated inner notes => .annotated (substitute types inner) notes
  | .classVariable inner => .classVariable (substitute types inner)
  | .final inner => .final (substitute types inner)
  | h => h

def substituteAll (types : List (String × Hint)) : List Hint → List Hint
  | [] => []
  | h :: rest => substitute types h :: substituteAll types rest

end

/-- A type with notes; notes on a type that has some already come after those. -/
def annotate (inner : Hint) (notes : List Hint) : Hint :=
  match inner with
  | .annotated core first => .annotated core (first ++ notes)
  | _ => .annotated inner notes

def callableClass : ClassRef := .standard "collections.abc.Callable"

def callableOf (native : Bool) : List Hint → Except Failure Hint
  | [.list parameters, result] => do
    let result ← if native then pure result else asArgument false result
    let parameters ← if native then pure parameters else parameters.mapM (asType false)
    return .applied callableClass (parameters ++ [result]) native
  | [parameters, result] => do
    let result ← if native then pure result else asArgument false result
    return .applied callableClass [parameters, result] native
  | _ => .error .illTyped

def tupleOf (arguments : List Hint) : Except Failure Hint := do
  match arguments.reverse with
  | .ellipsis :: first :: rest =>
    let arguments ← (first :: rest).reverse.mapM (asArgument false)
    return .applied (.standard "builtins.tuple") (arguments ++ [.ellipsis]) false
  | _ => return .applied (.standard "builtins.tuple") (← arguments.mapM (asArgument false)) false

/-- The form `name` with arguments. -/
def applyForm (name : String) (arguments : List Hint) (several : Bool) : Except Failure Hint := do
  match name, arguments, several with
  | "Optional", [h], false => unionOf [h, nullType]
  | "Union", hs, _ => unionOf hs
  | "ClassVar", [h], false => return .classVariable (← asArgument false h)
  | "Final", [h], false => return .final (← asArgument false h)
  | "Literal", hs, _ => return .formed name hs
  | "Required", [h], false => return .formed name [← asArgument false h]
  | "NotRequired", [h], false => return .formed name [← asArgument false h]
  | "Unpack", [h], false => return .formed name [← asArgument false h]
  | "TypeGuard", [h], false => return .formed name [← asArgument false h]
  | "Concatenate", hs, _ => return .formed name hs
  | _, _, _ => throw .illTyped

def applyAlias (arguments : List Hint) : AliasForm → Except Failure Hint
  | .generic origin count => do
    let arguments ← arguments.mapM (asArgument false)
    if arguments.length = count then return .applied (.standard origin) arguments false
    else throw .illTyped
  | .tuple => tupleOf arguments
  | .callable => callableOf false arguments

/-- Whether a class is a native container. -/
def isFree : ClassRef → Bool
  | .standard name => (StandardClass.find? name).any fun c => c.subscription == .free
  | .defined _ => false

def subscription (w : World) (c : ClassRef) : Subscription :=
  if w.derivesStandard c "typing.Generic" then
    match c with
    | .standard name => ((StandardClass.find? name).map (·.subscription)).getD .none
    | .defined _ => .checked (w.parameters c).length
  else
    if (w.order c).any isFree then .free else .none

def isVariable : Hint → Bool
  | .typeVariable _ => true
  | _ => false

def applyClass (w : World) (c : ClassRef) (arguments : List Hint) (several : Bool) :
    Except Failure Hint := do
  if c = .standard "typing.Annotated" then
    match arguments with
    | inner :: first :: rest => return annotate (← asArgument true inner) (first :: rest)
    | _ => throw .illTyped
  else if c = callableClass then callableOf true arguments
  else if c = .standard "typing.Generic" || c = .standard "typing.Protocol" then
    if arguments.isEmpty || !arguments.all isVariable ||
        (distinct arguments).length != arguments.length then throw .illTyped
    else return .applied c arguments false
  else if w.isEnumeration c then
    match arguments, several with
    | [.text name], false =>
      if (w.attribute? c name).isSome then return .other else throw (.raised "KeyError" name)
    | _, _ => throw .illTyped
  else
    match subscription w c with
    | .none => throw .illTyped
    | .free => return .applied c arguments true
    | .checked count =>
      let arguments ← arguments.mapM (asType false)
      if arguments.length = count && count != 0 then return .applied c arguments false
      else throw .illTyped

/-- A hint with type variables, and types in their place. -/
def applyTypes (h : Hint) (arguments : List Hint) : Except Failure Hint := do
  let names := h.typeVariables
  let arguments ← arguments.mapM (asArgument false)
  if names.isEmpty || names.length != arguments.length then throw .illTyped
  else return h.substitute (names.zip arguments)

/-- The value of `head[…]`; of `several` arguments even one is a tuple. -/
def subscript (w : World) (head : Hint) (arguments : List Hint) (several : Bool) :
    Except Failure Hint :=
  match head with
  | .form name => applyForm name arguments several
  | .alias a => applyAlias arguments a
  | .type c => applyClass w c arguments several
  | .applied _ _ _ | .union _ _ | .annotated _ _ | .classVariable _ | .final _ =>
    applyTypes head arguments
  | _ => .error .illTyped

end TypeExport.Hint

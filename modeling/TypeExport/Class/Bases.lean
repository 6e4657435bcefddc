import TypeExport.Annotation.Subscript
import TypeExport.Class.Linearization

/-!
# Bases of classes

What the bases of a class definition stand for, and what they fix: the linearisation, the storage,
the metaclass and the type parameters.
-/

namespace TypeExport

/-- What the bases of a class fix.  The order is the linearisation without the class itself; without
a `storage` the class is stored in a way of its own. -/
structure ClassFrame where
  order : List ClassRef
  storage : Option ClassRef
  parameters : List String
  isProtocol : Bool
  deriving Repr

namespace World

variable (w : World)

def genericClass : ClassRef := .standard "typing.Generic"

def protocolClass : ClassRef := .standard "typing.Protocol"

def isTypeOf (c : ClassRef) : Hint → Bool
  | .type k => k == c
  | _ => false

/-- Whether a base is written with a form of the typing module. -/
def isAliasBase : Hint → Bool
  | .alias _ => true
  | .applied _ _ native => !native
  | _ => false

def isGenericBase (h : Hint) : Bool :=
  isAliasBase h || match h with
    | .type c => w.derives c genericClass
    | _ => false

/-- The classes that a container form adds among `all` bases, with `later` ones behind it. -/
def containerBases (all later : List Hint) (origin : ClassRef) : List ClassRef :=
  (if all.any (isTypeOf origin) then [] else [origin]) ++
    (if later.any w.isGenericBase then [] else [genericClass])

/-- The classes that one of `all` bases stands for, with `later` ones behind it. -/
def basesOf (all later : List Hint) : Hint → Except Failure (List ClassRef)
  | .type c => .ok [c]
  | .alias (.generic origin _) => .ok (w.containerBases all later (.standard origin))
  | .alias .tuple => .ok (w.containerBases all later (.standard "builtins.tuple"))
  | .alias .callable => .ok (w.containerBases all later Hint.callableClass)
  | .applied origin _ native =>
    if native then .ok [origin]
    else if origin = genericClass then
      .ok (if all.any (isTypeOf protocolClass) || later.any isAliasBase then [] else [genericClass])
    else
      match origin with
      | .standard _ =>
        .ok (if w.derives origin genericClass then [origin]
          else w.containerBases all later origin)
      | .defined _ => .ok [origin]
  | _ => .error .illTyped

def basesFrom (all : List Hint) : List Hint → Except Failure (List ClassRef)
  | [] => .ok []
  | h :: later => do
    let first ← w.basesOf all later h
    return first ++ (← basesFrom all later)

/-- The classes that the bases of a definition stand for. -/
def resolveBases (hints : List Hint) : Except Failure (List ClassRef) :=
  w.basesFrom hints hints

/-- The metaclasses that a metaclass derives from, itself first. -/
def metaclassOrder (name : String) : List String :=
  if ["typing._ProtocolMeta",
      "pydantic._internal._model_construction.ModelMetaclass"].contains name then
    [name, "abc.ABCMeta", "builtins.type"]
  else if name = "builtins.type" then [name]
  else [name, "builtins.type"]

/-- Whether a metaclass keeps track of abstract methods. -/
def tracksAbstract (metaclass : String) : Bool :=
  (metaclassOrder metaclass).contains "abc.ABCMeta"

/-- The metaclass that derives from those of all bases. -/
def commonMetaclass (bases : List ClassRef) : Except Failure String :=
  bases.foldlM (fun winner c =>
    let m := w.metaclass c
    if (metaclassOrder winner).contains m then .ok winner
    else if (metaclassOrder m).contains winner then .ok m
    else .error .illTyped) "builtins.type"

/-- The storage that holds those of all bases, and the base it comes from. -/
def commonStorage (bases : List ClassRef) : Except Failure (ClassRef × ClassRef) :=
  bases.foldlM (fun (storage, origin) c =>
    let s := w.storage c
    if w.derives storage s then .ok (storage, origin)
    else if w.derives s storage then .ok (s, c)
    else .error .illTyped) (objectClass, objectClass)

/-- Whether instances of a class differ in size, so that a new class right below it is stored in a
way of its own. -/
def isSized : ClassRef → Bool
  | .standard name => (StandardClass.find? name).any (·.isSized)
  | .defined _ => false

def isClosed : ClassRef → Bool
  | .standard name => (StandardClass.find? name).any (·.isClosed)
  | .defined _ => false

def parametersOf (hints : List Hint) : Except Failure (List String) := do
  if hints.any (isTypeOf genericClass) then throw .illTyped
  let isClass : Hint → Bool
    | .type _ => true
    | _ => false
  let used := Hint.variablesOf (hints.filter (!isClass ·))
  let declared := hints.filterMap fun
    | .applied origin arguments false =>
      if origin = genericClass then some (Hint.variablesOf arguments) else none
    | _ => none
  match declared with
  | [] => return used
  | [names] => if used.all names.contains then return names else throw .illTyped
  | _ => throw .illTyped

/-- The containers that protocols may derive from. -/
def protocolContainers : List String :=
  ["Callable", "Awaitable", "Iterable", "Iterator", "AsyncIterable", "Hashable", "Sized",
   "Container", "Collection", "Reversible"]

def admitsProtocol (c : ClassRef) : Bool :=
  c == objectClass || c == genericClass ||
    (w.moduleName c == "collections.abc" && protocolContainers.contains (w.shortName c)) ||
    (w.derives c genericClass && w.isProtocol c)

def frame (hints : List Hint) (bases : List ClassRef) : Except Failure ClassFrame := do
  if bases.any isClosed then throw .illTyped
  let some order := w.orderAbove bases | throw .illTyped
  let order := if order.isEmpty then [objectClass] else order
  let (storage, origin) ← w.commonStorage bases
  let parameters ← if order.contains genericClass then parametersOf hints else pure []
  let isProtocol := bases.contains protocolClass
  if isProtocol && !bases.all w.admitsProtocol then throw .illTyped
  return { order, storage := if isSized origin then none else some storage, parameters, isProtocol }

end World

end TypeExport

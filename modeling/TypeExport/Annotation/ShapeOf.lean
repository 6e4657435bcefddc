import TypeExport.Annotation.Layers
import TypeExport.Class.World
import TypeExport.Descriptor.Basic

/-!
# Shapes of annotations

The shape of an annotation is that of its type without the layers around it.  Where no class can be
told, the shape is unresolved, which is the type `none`.
-/

namespace TypeExport.Hint

/-- A shape of classes; `none` is the unresolved type. -/
abbrev ClassShape := Shape (Option ClassRef)

def unresolved : ClassShape := .direct none

def ofClass (c : ClassRef) : ClassShape := .direct (some c)

def anyShape : ClassShape := ofClass (.standard "typing.Any")

/-- The classes whose arguments are the elements of an array. -/
def arrayClasses : List String :=
  ["builtins.list", "builtins.set", "builtins.frozenset", "collections.abc.Sequence",
   "collections.abc.MutableSequence", "collections.abc.Set", "collections.abc.MutableSet",
   "collections.abc.Collection", "collections.abc.Iterable"]

/-- The classes whose arguments are the keys and values of a dictionary. -/
def dictionaryClasses : List String :=
  ["builtins.dict", "collections.abc.Mapping", "collections.abc.MutableMapping"]

/-- How a class with arguments is read. -/
inductive ContainerKind where
  | array
  | dictionary
  | fixed
  | plain
  deriving DecidableEq, Repr

/-- The kind of a class; a class that derives from a container is a plain one. -/
def containerKind : ClassRef → ContainerKind
  | .standard name =>
    if arrayClasses.contains name then .array
    else if dictionaryClasses.contains name then .dictionary
    else if name = "builtins.tuple" then .fixed
    else .plain
  | .defined _ => .plain

def isEllipsis : Hint → Bool
  | .ellipsis => true
  | _ => false

/-- The shape of a class with arguments, whose shapes are given with them. -/
def shapeOfApplied (origin : ClassRef) (arguments : List (Hint × ClassShape)) : ClassShape :=
  match containerKind origin, arguments with
  | .array, [] => .array anyShape
  | .array, (_, first) :: _ => .array first
  | .dictionary, [(_, key), (_, value)] => .dictionary key value
  | .dictionary, _ => .dictionary anyShape anyShape
  | .fixed, [(_, first), (h, _)] => if isEllipsis h then .array first else unresolved
  | .fixed, _ => unresolved
  | .plain, _ => ofClass origin

/-- The shape of a union, whose members are given with their shapes.  Without the null type it is
unresolved. -/
def shapeOfUnion (members : List (Hint × ClassShape)) : ClassShape :=
  let rest := members.filter fun (h, _) => !h.isNullType
  if rest.length = members.length then unresolved
  else
    match rest with
    | [(_, one)] => .nullable one
    | _ => .nullable unresolved

def shapeOfClass (c : ClassRef) : ClassShape :=
  match containerKind c with
  | .fixed => ofClass c
  | _ => shapeOfApplied c []

def shapeOfAlias : AliasForm → ClassShape
  | .generic origin _ => shapeOfApplied (.standard origin) []
  | .tuple => unresolved
  | .callable => ofClass (.standard "collections.abc.Callable")

mutual

def shape : Hint → ClassShape
  | .type c => shapeOfClass c
  | .alias a => shapeOfAlias a
  | .union members _ => shapeOfUnion (members.zip (shapes members))
  | .applied origin arguments _ =>
    if origin = mappedClass then shapeOfFirst arguments
    else shapeOfApplied origin (arguments.zip (shapes arguments))
  | .annotated inner _ => shape inner
  | .final inner => shape inner
  | .classVariable inner => shape inner
  | .newType _ base => shape base
  | .form "Final" => anyShape
  | .form "ClassVar" => anyShape
  | _ => unresolved

def shapes : List Hint → List ClassShape
  | [] => []
  | h :: rest => shape h :: shapes rest

/-- The shape of the first argument of a mapped annotation. -/
def shapeOfFirst : List Hint → ClassShape
  | [] => anyShape
  | h :: _ => shape h

end

end TypeExport.Hint

import TypeExport.Annotation.Forward
import TypeExport.Annotation.ShapeOf
import TypeExport.Class.Body

/-!
# Mapped classes

A mapped class stores its columns in a table and may be related to other mapped classes of its base.
Its own annotations have to be mapped, unless they have a value or the class admits others.  The
mapped annotations of ancestors that are not mapped themselves give columns as well.
-/

namespace TypeExport.Mapped

variable (w : World)

def declarativeBase : ClassRef := .standard "sqlalchemy.orm.decl_api.DeclarativeBase"

/-- The base whose tables a class with these ancestors belongs to. -/
def baseOf (above : List ClassRef) : Option ClassRef :=
  above.find? fun k =>
    k != declarativeBase && w.derives k declarativeBase && (w.mapping? k).isNone

/-- The nearest ancestor that is mapped. -/
def parentOf (above : List ClassRef) : Option Mapping :=
  above.findSome? w.mapping?

/-- What an annotation says about a mapped attribute. -/
inductive Reading where
  | mapped (inner : Hint)
  | classVariable
  | unmapped
  | unreadable
  deriving Repr

/-- The hint of the text of a type argument; what cannot be evaluated yet stays a text. -/
def innerOf (lookup : String → Option Hint) (e : Expr) : Hint :=
  match e.evaluate w lookup with
  | .ok (.text s) => .forward s false
  | .ok h => h
  | .error _ => .forward e.text false

/-- What an evaluated annotation says. -/
def readHint : Hint → Reading
  | .applied origin arguments _ =>
    if origin = Hint.mappedClass then
      match arguments with
      | [inner] => .mapped inner
      | _ => .unreadable
    else .unmapped
  | .classVariable _ => .classVariable
  | .form name => if name = "ClassVar" then .classVariable else .unmapped
  | _ => .unmapped

/-- What an annotation says.  Of a text that cannot be evaluated as a whole, the form in front may
still be known. -/
def read (lookup : String → Option Hint) : Hint → Reading
  | .text s =>
    match Expr.read? s with
    | some (.subscript owner index) =>
      match owner.evaluate w lookup with
      | .ok (.type c) => if c = Hint.mappedClass then .mapped (innerOf w lookup index) else .unmapped
      | .ok (.form name) => if name = "ClassVar" then .classVariable else .unmapped
      | .ok _ => .unmapped
      | .error _ => if Text.occurs "Mapped[".toList s.toList then .unreadable else .unmapped
    | some e =>
      match e.evaluate w lookup with
      | .ok h => readHint h
      | .error _ => .unmapped
    | none => .unmapped
  | h => readHint h

def meaning (c : ClassRef) (name : String) : Option Hint :=
  ((w.attributes c).lookup name).or
    (((w.names (w.moduleName c)).lookup name).or (Expr.builtIn? name))

def columnClasses : List String :=
  ["builtins.bool", "builtins.bytes", "builtins.float", "builtins.int", "builtins.str",
   "datetime.date", "datetime.time", "datetime.timedelta", "decimal.Decimal", "uuid.UUID",
   "builtins.NoneType"]

mutual

def hasColumnType : Hint → Bool
  | .type c => columnClasses.any (w.derivesStandard c) || w.isEnumeration c
  | .union members _ => haveColumnType members
  | .annotated inner _ => hasColumnType inner
  | .newType _ base => hasColumnType base
  | .formed name _ => name == "Literal"
  | .final inner => hasColumnType inner
  | _ => false

def haveColumnType : List Hint → Bool
  | [] => true
  | h :: rest => hasColumnType h && haveColumnType rest

end

/-- Whether a value leaves the annotation to define the attribute. -/
def isOpen : Option BodyValue → Bool
  | none | some (.hint (.constant .null)) => true
  | _ => false

/-- What an attribute of a mapped class is. -/
inductive Attribute where
  | column (c : Column)
  | relation (r : Relation)
  | none

/-- The other end of a relation may not be an abstract container. -/
def checkContainer : Hint → Except Failure Unit
  | .applied origin _ _ =>
    if (w.abstractMethods origin).isEmpty then .ok () else .error (.library "ArgumentError")
  | _ => .ok ()

/-- A column whose annotation has to have a column type. -/
def columnOf (c : ClassRef) (name : String) (inner : Hint) : Except Failure Attribute := do
  let h ← Hint.resolve w (meaning w c) inner
  if hasColumnType w h then return .column { name, isKey := false, target := none }
  else throw (.library "ArgumentError")

def attributeOf (c : ClassRef) (name : String) (inner : Hint) (value : Option BodyValue) :
    Except Failure Attribute := do
  match value with
  | some (.relation counterpart) =>
    checkContainer w inner
    return .relation { name, typeHint := inner, counterpart }
  | some (.column mark) =>
    if mark.target.isNone then
      let _ ← columnOf w c name inner
    return .column { name, isKey := mark.isKey, target := mark.target }
  | value => if isOpen value then columnOf w c name inner else return .none

/-- Names that are no attributes of a table. -/
def isSkipped (name : String) : Bool :=
  Name.startsWithTwo name.toList || "_sa_".toList.isPrefixOf name.toList

/-- The attribute of an annotation of the class itself. -/
def ownAttribute (c : ClassRef) (admitsUnmapped : Bool) (body : ClassBody) (name : String)
    (typeHint : Hint) : Except Failure Attribute := do
  if isSkipped name then return .none
  let value := body.names.lookup name
  match read w (meaning w c) typeHint with
  | .mapped inner => attributeOf w c name inner value
  | .unreadable => throw (.library "MappedAnnotationError")
  | .classVariable => return .none
  | .unmapped =>
    match value with
    | some (.column mark) => return .column { name, isKey := mark.isKey, target := mark.target }
    | _ =>
      if isOpen value && !admitsUnmapped then throw (.library "MappedAnnotationError")
      else return .none

/-- The attributes that the ancestors give which are not mapped. -/
def mixedIn (above : List ClassRef) (body : ClassBody) : Except Failure (List Attribute) := do
  let ancestors := above.reverse.filter fun k => !w.derives k declarativeBase
  let all := Keyed.putAll (ancestors.flatMap fun k =>
    (w.annotations k).map fun (name, typeHint) => (name, k, typeHint)) []
  all.mapM fun (name, k, typeHint) =>
    if (body.annotations.lookup name).isSome || (body.names.lookup name).isSome || isSkipped name
    then .ok .none
    else
      match read w (meaning w k) typeHint with
      | .mapped inner =>
        if ((w.attributes k).lookup name).isNone then columnOf w k name inner else .ok .none
      | _ => .ok .none

def columnsIn (attributes : List Attribute) : List Column :=
  attributes.filterMap fun
    | .column c => some c
    | _ => none

def relationsIn (attributes : List Attribute) : List Relation :=
  attributes.filterMap fun
    | .relation r => some r
    | _ => none

def hasTable (base : ClassRef) (table : String) : Bool :=
  w.classes.any fun info => info.mapping.any fun m => m.base == base && m.table == table

def targetTable (target : String) : String :=
  World.frontPart target

/-- The mapping of a class whose ancestors are `above`; the base itself has none. -/
def mappingOf (c : ClassRef) (above : List ClassRef) (body : ClassBody) (table : Option String)
    (admitsUnmapped : Bool) : Except Failure (Option Mapping) := do
  let some base := baseOf w above | return none
  let mixed ← mixedIn w above body
  let own ← body.annotations.mapM fun (name, typeHint) =>
    ownAttribute w c admitsUnmapped body name typeHint
  let bare := body.names.filterMap fun (name, v) =>
    match v, body.annotations.lookup name with
    | .column mark, none => some (.column { name, isKey := mark.isKey, target := mark.target })
    | _, _ => none
  let attributes := mixed ++ own ++ bare
  let columns := columnsIn attributes
  let relations := relationsIn attributes
  if (columns.map (·.name) ++ relations.map (·.name)).any fun name =>
      name == "metadata" || name == "registry" then
    throw (.library "InvalidRequestError")
  match parentOf w above, table with
  | none, none => throw (.library "InvalidRequestError")
  | some parent, none =>
    return some { parent with
      columns := parent.columns ++ columns, relations := parent.relations ++ relations }
  | parent, some table =>
    if hasTable w base table then throw (.library "InvalidRequestError")
    if !columns.any (·.isKey) then throw (.library "ArgumentError")
    match parent with
    | none => return some { base, table, columns, relations }
    | some parent =>
      if columns.any fun c => c.target.any fun t => targetTable t == parent.table then
        return some { base, table, columns, relations := parent.relations ++ relations }
      else throw (.library "NoForeignKeysError")

/-- The attributes that are left: those of the table have values of their own. -/
def attributesOf (m : Option Mapping) (names : List (String × BodyValue)) :
    List (String × Hint) :=
  let mapped := m.elim [] fun m =>
    (m.columns.map (·.name) ++ m.relations.map (·.name)).map fun name => (name, Hint.other)
  Keyed.putAll mapped (names.map fun (name, v) => (name, v.meaning))

end TypeExport.Mapped

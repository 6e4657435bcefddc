import TypeExport.Annotation.ShapeOf
import TypeExport.Class.Hints
import TypeExport.Class.Relations

/-!
# Describing classes

The descriptor of a class, and the properties that the class declares in its way: as a validated
record, as a data record, as a mapped class, or by its annotations alone.
-/

namespace TypeExport

def unresolvedName : String := "<unresolved>"

def unresolvedType : Descriptor :=
  { fullName := unresolvedName, shortName := "any", kind := .primitive }

abbrev ClassProperty := Property (Option ClassRef)

namespace World

variable (w : World)

/-- The marker of a class itself. -/
def marker? (c : ClassRef) : Option (Option String) :=
  (w.info? c).bind (·.marker)

def members (c : ClassRef) : List Member :=
  ((w.info? c).map (·.members)).getD []

/-- Whether a class leaves methods without an implementation. -/
def isAbstract (c : ClassRef) : Bool :=
  !(w.abstractMethods c).isEmpty

/-- Whether a class is found among the scanned ones by its full or its short name. -/
def isScanned (names : List String) (c : ClassRef) : Bool :=
  !Primitive.isStandardModule (w.moduleName c) && !w.isAbstract c &&
    (names.contains (w.fullName c) || names.contains (w.shortName c))

/-- The mapped primitive that a class is or that it derives from first; `object` does not count. -/
def primitiveBase? (c : ClassRef) : Option String :=
  ((w.order c).filter (· != objectClass)).map w.fullName |>.find? Primitive.isPrimitive

/-- The descriptor of a class, given the names of the scanned ones. -/
def describe (names : List String) (c : ClassRef) : Descriptor :=
  let fullName := w.fullName c
  let marker := w.marker? c
  let common : Descriptor :=
    { fullName
      shortName := w.shortName c
      kind := .record
      origin := if w.isScanned names c then .scanned else .external
      exportName := marker.join
      marked := marker.isSome }
  if w.isEnumeration c then
    { common with kind := .enumeration, required := true, members := w.members c }
  else if Primitive.isPrimitive fullName then
    { common with kind := .primitive, required := Primitive.isRequired fullName }
  else
    match w.primitiveBase? c with
    | some base =>
      { common with kind := .primitive, required := Primitive.isRequired base, base := some base }
    | none => { common with kind := if w.isProtocol c then .interface else .record }

/-- The descriptor of a type; `none` is the unresolved one. -/
def describeType (names : List String) : Option ClassRef → Descriptor
  | some c => w.describe names c
  | none => unresolvedType

/-- What a class declares: the hints of its properties, and what they do not say themselves.  If the
relations of a mapped class cannot be known, `unknownBase` is its base. -/
structure Declared where
  hints : List (String × Hint)
  ignored : List String := []
  navigations : List String := []
  unknownBase : Option ClassRef := none

/-- Whether the relations of a mapped class are known.  Those of a `broken` base stay unknown. -/
def knowsRelations (broken : List ClassRef) (m : Mapping) : Bool :=
  !broken.contains m.base && Relations.areSound w m.base

def declared (broken : List ClassRef) (c : ClassRef) : Except Failure Declared := do
  if w.isValidated c then
    let fields := w.validatedFields c
    return {
      hints := fields.map fun f =>
        (f.name, if f.notes.isEmpty then f.hint else .annotated f.hint f.notes)
      ignored := (fields.filter (·.excluded)).map (·.name) }
  let hints ← w.hints c
  match w.recordFields? c, w.mapping? c with
  | some fields, _ =>
    let fields := fields.filter (·.role == .plain)
    return {
      hints := fields.map fun f => (f.name, (hints.lookup f.name).getD .any)
      ignored := (fields.filter (·.ignored)).map (·.name) }
  | none, some m =>
    let hints := hints.filter fun (_, h) => h.isMapped
    if w.knowsRelations broken m then
      return { hints, navigations := m.relations.map (·.name) }
    else return { hints, unknownBase := some m.base }
  | none, none => return { hints }

end World

/-- Whether a note says that a property refers to another type. -/
def Hint.isReference : Hint → Bool
  | .note (.reference _) => true
  | _ => false

/-- Whether a note says that a property is ignored. -/
def Hint.isIgnore : Hint → Bool
  | .note .ignore => true
  | _ => false

namespace World

/-- The property of a hint; names that begin with a low line and class variables give none. -/
def Declared.property? (d : Declared) (name : String) (h : Hint) : Option ClassProperty :=
  let l := h.layers
  if name.toList.head? = some '_' || l.isClassVariable then none
  else
    some {
      name
      shape := h.shape
      navigation := (d.navigations.contains name || l.notes.any Hint.isReference) && !l.isFinal
      ignored := d.ignored.contains name || l.notes.any Hint.isIgnore }

def propertiesOf (w : World) (broken : List ClassRef) (c : ClassRef) :
    Except Failure (List ClassProperty) := do
  let d ← w.declared broken c
  return d.hints.filterMap fun (name, h) => d.property? name h

/-- The properties of a type; only records and interfaces have any. -/
def typeProperties (w : World) (broken : List ClassRef) :
    Option ClassRef → Except Failure (List ClassProperty)
  | none => .ok []
  | some c =>
    match (w.describe [] c).kind with
    | .record | .interface => w.propertiesOf broken c
    | .enumeration | .primitive => .ok []

end World

end TypeExport

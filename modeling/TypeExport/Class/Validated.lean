import TypeExport.Annotation.Forward
import TypeExport.Annotation.ShapeOf
import TypeExport.Class.Body

/-!
# Validated records

The fields of a validated record are the annotations of all classes of its linearisation, the
remotest first.  A text refers to names that exist when the record is defined, and to the record
itself; an annotation with other names stays as it is.
-/

namespace TypeExport.Validated

variable (w : World)

/-- The meaning of a name in the annotations of a record. -/
def meaning (c : ClassRef) (name : String) : Option Hint :=
  if name = w.shortName c then some (.type c)
  else
    ((w.attributes c).lookup name).or
      (((w.names (w.moduleName c)).lookup name).or (Expr.builtIn? name))

/-- The hint of an annotation, and whether it could be evaluated. -/
def hintOf (c : ClassRef) (typeHint : Hint) : Except Failure (Hint × Bool) :=
  match Hint.ofAnnotation w (meaning w c) typeHint with
  | .ok h => .ok (h, true)
  | .error (.undefinedName _) => do return (← Hint.asType true typeHint, false)
  | .error f => .error f

/-- The type and the notes of a field. -/
def separate : Hint → Hint × List Hint
  | .annotated inner notes =>
    let (core, more) := separate inner
    (core, notes ++ more)
  | .final inner => separate inner
  | .form "Final" => (Hint.any, [])
  | h => (h, [])

def isFinal : Hint → Bool
  | .final _ => true
  | .form name => name == "Final"
  | .annotated inner _ => isFinal inner
  | _ => false

def isClassVariable : Hint → Bool
  | .classVariable _ => true
  | .form name => name == "ClassVar"
  | .forward s _ => "ClassVar[".toList.isPrefixOf s.toList
  | _ => false

def isPrivate (name : String) : Bool :=
  name.toList.head? == some '_'

def inherited (above : List ClassRef) : List (String × ValidatedField) :=
  Keyed.putAll (above.reverse.flatMap fun k => (w.validatedFields k).map fun f => (f.name, f)) []

/-- The annotations of all classes of a linearisation with the classes they come from, the remotest
first. -/
def annotations (order : List ClassRef) : List (String × ClassRef × Hint) :=
  Keyed.putAll (order.reverse.flatMap fun k =>
    (w.annotations k).map fun (name, typeHint) => (name, k, typeHint)) []

/-- A field that the body defines with a value keeps no attribute. -/
def isExcluded : BodyValue → Bool
  | .validated excluded => excluded
  | _ => false

/-- The field of an annotation, if it is one, and whether its hint is complete. -/
def fieldOf (c : ClassRef) (above : List ClassRef) (body : ClassBody) (name : String)
    (owner : ClassRef) (typeHint : Hint) : Except Failure (Option (ValidatedField × Bool)) := do
  if isPrivate name then return none
  let (h, complete) ← hintOf w owner typeHint
  if isClassVariable h then return none
  let value := body.names.lookup name
  if isFinal h && value.isSome then return none
  match (inherited w above).lookup name, owner == c || value.isSome with
  | some f, false => return some (f, true)
  | _, _ =>
    let (core, notes) := separate h
    return some ({ name, hint := core, notes, excluded := value.any isExcluded }, complete)

/-- The standard classes that values can be checked against. -/
def checkedClasses : List String :=
  ["builtins.str", "builtins.int", "builtins.float", "builtins.bool", "builtins.bytes",
   "builtins.complex", "builtins.NoneType", "builtins.object", "builtins.list", "builtins.dict",
   "builtins.set", "builtins.frozenset", "builtins.tuple", "builtins.type", "typing.Any",
   "datetime.date", "datetime.time", "datetime.datetime", "datetime.timedelta",
   "decimal.Decimal", "uuid.UUID", "fractions.Fraction", "collections.deque",
   "collections.OrderedDict", "collections.defaultdict", "collections.Counter",
   "pydantic.main.BaseModel"]

/-- The standard modules all of whose classes values can be checked against. -/
def checkedModules : List String := ["collections.abc", "pathlib", "ipaddress", "enum"]

def isCheckedClass (c : ClassRef) : Bool :=
  match c with
  | .standard name => checkedClasses.contains name || checkedModules.contains (World.frontPart name)
  | .defined _ =>
    w.isEnumeration c || w.isValidated c || (w.recordFields? c).isSome ||
      w.metaclass c == "typing._TypedDictMeta" ||
      ((w.attributes c).lookup "_fields").isSome

mutual

def isChecked : Hint → Bool
  | .type c => isCheckedClass w c
  | .alias _ => true
  | .union members _ => areChecked members
  | .applied origin arguments _ => isCheckedClass w origin && areChecked arguments
  | .formed _ _ => true
  | .annotated inner _ => isChecked inner
  | .final inner => isChecked inner
  | .newType _ base => isChecked base
  | .typeVariable _ => true
  | .ellipsis => true
  | .form _ => true
  | _ => false

def areChecked : List Hint → Bool
  | [] => true
  | h :: rest => isChecked h && areChecked rest

end

/-- Whether a name of the body may stand without an annotation. -/
def mayBeBare (body : ClassBody) (methods : List String) (name : String) (v : BodyValue) : Bool :=
  isPrivate name || methods.contains name || (body.annotations.lookup name).isSome ||
    match v with
    | .hint (.type (.defined _)) => true
    | _ => false

/-- The fields of a record whose ancestors are `above`. -/
def fieldsOf (c : ClassRef) (above : List ClassRef) (body : ClassBody) (methods : List String) :
    Except Failure (List ValidatedField) := do
  if body.names.any fun (name, v) => !mayBeBare body methods name v then
    throw (.library "PydanticUserError")
  let fields ← (annotations w (c :: above)).filterMapM fun (name, owner, typeHint) =>
    fieldOf w c above body name owner typeHint
  if fields.all (·.2) && !fields.all fun (f, _) => isChecked w f.hint then
    throw (.library "PydanticSchemaGenerationError")
  return fields.map (·.1)

/-- The attributes that are left: neither fields nor private names. -/
def attributesOf (fields : List ValidatedField) (names : List (String × BodyValue)) :
    List (String × Hint) :=
  names.filterMap fun (name, v) =>
    if isPrivate name || fields.any (·.name == name) then none else some (name, v.meaning)

end TypeExport.Validated

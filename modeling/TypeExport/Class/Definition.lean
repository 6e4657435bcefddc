import TypeExport.Class.Enumeration
import TypeExport.Class.Mapped
import TypeExport.Class.Record
import TypeExport.Class.Validated

/-!
# Defining classes

The bases of a class are evaluated first.  Then its body runs, where the classes inside it are
defined, and at last the class is made and joins the world.
-/

namespace TypeExport

/-- An action that defines classes: those that are there before a failure stay. -/
abbrev Defines := ExceptT Failure (StateM World)

namespace Defines

variable {α : Type}

/-- The outcome of evaluating something in the present world. -/
def ofWorld (f : World → Except Failure α) : Defines α := do
  ExceptT.mk (pure (f (← get)))

end Defines

namespace ClassDefinition

/-- The values that a definition has as bases, in the order in which they are written. -/
def writtenBases (w : World) (scope : Scope) (form : ClassForm) (bases : List Expr)
    (parameters : List String) : Except Failure (List Hint) := do
  let hints ← bases.mapM (scope.evaluate w)
  let arguments ← parameters.mapM fun name => scope.evaluate w (.name name)
  let generic := if arguments.isEmpty then [] else
    [Hint.applied World.genericClass arguments false]
  let own : List Hint := match form with
    | .validated => if hints.isEmpty then [.standard "pydantic.main.BaseModel"] else []
    | .mappedBase => [.type Mapped.declarativeBase]
    | .protocol => [.type World.protocolClass]
    | .abstract => [.standard "abc.ABC"]
    | _ => []
  let own := own.filter fun h => !hints.any (Hint.same h)
  return hints ++ own ++ generic

/-- Whether a class implements a method itself.  A native container implements all that containers
have. -/
def implements (w : World) (c : ClassRef) (name : String) : Bool :=
  ((w.attributes c).lookup name).isSome ||
    (w.info? c).isNone && (w.abstractMethods c).isEmpty && w.storage c != World.objectClass

/-- Whether a class with these ancestors has a method of theirs without an implementation. -/
def isLeftOpen (w : World) (above : List ClassRef) (name : String) : Bool :=
  match above.find? fun k => (w.abstractMethods k).contains name || implements w k name with
  | some k => (w.abstractMethods k).contains name
  | none => false

/-- The methods that a class leaves without an implementation: its `own` ones, and those of its
bases that nothing implements. -/
def abstractNames (w : World) (bases above : List ClassRef) (metaclass : String)
    (body : ClassBody) (own : List String) : List String :=
  if World.tracksAbstract metaclass then
    let inherited := (bases.flatMap w.abstractMethods).eraseDups.filter fun name =>
      (body.names.lookup name).isNone && isLeftOpen w above name
    own ++ inherited.filter (!own.contains ·)
  else []

/-- What is known of a class before its properties are looked at. -/
def blank (scope : Scope) (name : String) (frame : ClassFrame) (metaclass : String)
    (marker : Option (Option String)) (self : ClassRef) (abstractMethods : List String)
    (body : ClassBody) : ClassInfo :=
  { moduleName := scope.moduleName
    qualifiedName := scope.qualifiedName name
    shortName := name
    order := self :: frame.order
    storage := frame.storage.getD self
    metaclass
    marker
    parameters := frame.parameters
    isProtocol := frame.isProtocol
    abstractMethods
    annotations := body.annotations
    attributes := body.meanings
    members := []
    recordFields := none
    validatedFields := none
    mapping := none }

/-- The constant that a name of an enumeration has as its value. -/
def constant? : BodyValue → Option Value
  | .hint (.constant v) => some v
  | .hint (.text s) => some (.text s)
  | _ => none

def asEnumeration (w : World) (bases : List ClassRef) (self : ClassRef) (body : ClassBody)
    (members : List (String × Value)) (info : ClassInfo) : Except Failure ClassInfo := do
  let written := members.map fun (name, v) => (Name.inClass info.shortName name, v)
  let early := body.names.filterMap fun (name, v) =>
    if (written.lookup name).isSome then none else (constant? v).map fun v => (name, v)
  let entries := early ++ written
  let names ← Enumeration.memberNames info.shortName [] (entries.map (·.1))
  Enumeration.checkNames names
  let maker ← w.valueMaker bases
  let members ← Enumeration.membersOf maker (entries.filter fun (name, _) => names.contains name)
  let attributes := info.attributes.map fun (name, h) =>
    (name, if names.contains name then Hint.valueOf self else h)
  return { info with members, attributes }

/-- The fields of a named tuple: none begins with a low line or is a word of the language, and none
without a standard value follows one with a standard value. -/
def checkTuple (body : ClassBody) : Except Failure Unit := do
  let names := body.annotations.map (·.1)
  for name in names do
    if Name.isKeyword name then
      throw (.invalidValue ("Type names and field names cannot be a keyword: " ++
        Quoted.readableString name))
    if name.toList.head? = some '_' then
      throw (.invalidValue ("Field names cannot start with an underscore: " ++
        Quoted.readableString name))
  let given := names.map fun name => (body.names.lookup name).isSome
  if (given.dropWhile (!·)).all id then return () else throw .illTyped

/-- The annotations as arguments of a form. -/
def checkedAnnotations (body : ClassBody) : Except Failure (List (String × Hint)) :=
  body.annotations.mapM fun (name, h) => do return (name, ← Hint.asArgument false h)

def asTuple (body : ClassBody) (info : ClassInfo) : Except Failure ClassInfo := do
  checkTuple body
  let annotations ← checkedAnnotations body
  let fields := annotations.map fun (name, _) => (name, Hint.other)
  return { info with
    annotations
    attributes := Keyed.putAll (fields ++ [("_fields", .other)]) info.attributes }

def typedTableMetaclass : String := "typing._TypedDictMeta"

/-- The class made a typed table, which has the annotations of its bases as its own. -/
def asTypedTable (w : World) (bases : List ClassRef) (body : ClassBody) (info : ClassInfo) :
    Except Failure ClassInfo := do
  let own ← checkedAnnotations body
  let inherited := bases.flatMap w.annotations
  return { info with annotations := Keyed.putAll (inherited ++ own) [] }

inductive Making where
  | tuple
  | typedTable
  | enumeration
  | validated
  | mapped
  | plain
  deriving DecidableEq, Repr

def makingOf (form : ClassForm) (metaclass : String) : Making :=
  if form = .namedTuple then .tuple
  else if form = .typedTable || metaclass = typedTableMetaclass then .typedTable
  else if metaclass = "enum.EnumType" then .enumeration
  else if metaclass = "pydantic._internal._model_construction.ModelMetaclass" then .validated
  else if metaclass = "sqlalchemy.orm.decl_api.DeclarativeAttributeIntercept" then .mapped
  else .plain

/-- The bases that a class is really made of. -/
def actualBases (w : World) (making : Making) (bases : List ClassRef) :
    Except Failure (List ClassRef) :=
  let generic := bases.filter (· == World.genericClass)
  let others := bases.filter (· != World.genericClass)
  match making with
  | .tuple =>
    if others.isEmpty then .ok (.standard "builtins.tuple" :: generic) else .error .illTyped
  | .typedTable =>
    if others.all fun c => w.metaclass c == typedTableMetaclass then
      .ok ((if bases.any fun c => w.derives c World.genericClass then [World.genericClass] else [])
        ++ [.standard "builtins.dict"])
    else .error .illTyped
  | _ => .ok bases

/-- What the making adds to the class, which is in the world already. -/
def complete (w : World) (making : Making) (bases above : List ClassRef) (self : ClassRef)
    (body : ClassBody) (definition : ClassDefinition) (info : ClassInfo) :
    Except Failure ClassInfo :=
  match making with
  | .tuple => asTuple body info
  | .typedTable => asTypedTable w bases body info
  | .enumeration => asEnumeration w bases self body definition.members info
  | .validated => do
    let methods := definition.methods ++ definition.abstractMethods
    let fields ← Validated.fieldsOf w self above body methods
    return { info with
      validatedFields := some fields, attributes := Validated.attributesOf fields body.names }
  | .mapped => do
    let mapping ← Mapped.mappingOf w self above body definition.table definition.admitsUnmapped
    return { info with mapping, attributes := Mapped.attributesOf mapping body.names }
  | .plain => .ok info

/-- What a data record adds to the class. -/
def completeRecord (w : World) (form : ClassForm) (above : List ClassRef) (self : ClassRef)
    (body : ClassBody) (info : ClassInfo) : Except Failure ClassInfo :=
  if form = .dataRecord then do
    let fields ← Record.fieldsOf w self above body
    return { info with recordFields := some fields, attributes := Record.attributesOf body.names }
  else .ok info

def make (scope : Scope) (definition : ClassDefinition) (written : List Hint)
    (bases : List ClassRef) (metaclass : String) (body : ClassBody) : Defines ClassRef := do
  let w ← get
  let making := makingOf definition.form metaclass
  let actual ← Defines.ofWorld fun w => actualBases w making bases
  let frame ← Defines.ofWorld fun w => w.frame written actual
  let self := ClassRef.defined w.classes.length
  let own := if World.tracksAbstract metaclass then
    definition.abstractMethods.map (Name.inClass definition.name) else []
  let metaclass := if making = .typedTable then typedTableMetaclass else metaclass
  let info := blank scope definition.name frame metaclass definition.marker self
    (abstractNames w actual frame.order metaclass body own) body
  let provisional := w.addClass info
  let finished ← ExceptT.mk (pure (do
    let info ← complete provisional making bases frame.order self body definition info
    completeRecord (provisional.putClass w.classes.length info) definition.form frame.order self
      body info))
  set (w.addClass finished)
  return self

/-- Checks the bases before the body runs, and gives the metaclass. -/
def prepare (w : World) (form : ClassForm) (bases : List ClassRef) : Except Failure String := do
  let metaclass ← w.commonMetaclass bases
  if makingOf form metaclass = .enumeration then w.checkEnumeration bases
  return metaclass

mutual

/-- Defines a class and the classes inside it. -/
def define (scope : Scope) : ClassDefinition → Defines ClassRef
  | .mk name form bases parameters marker fields members nested abstractMethods methods table
      admitsUnmapped => do
    let written ← Defines.ofWorld fun w => writtenBases w scope form bases parameters
    let resolved ← Defines.ofWorld fun w => w.resolveBases written
    let metaclass ← Defines.ofWorld fun w => prepare w form resolved
    let inside ← defineAll (scope.within name) name nested
    let body ← Defines.ofWorld fun w =>
      ClassBody.run w (scope.within name) name form inside fields members
        (abstractMethods ++ methods)
    make scope
      (.mk name form bases parameters marker fields members [] abstractMethods methods table
        admitsUnmapped) written resolved metaclass body

/-- Defines the classes inside a class, and gives their names. -/
def defineAll (scope : Scope) (owner : String) :
    List ClassDefinition → Defines (List (String × Hint))
  | [] => return []
  | d :: rest => do
    let c ← define scope d
    let entry := (Name.inClass owner d.name, Hint.type c)
    let others ← defineAll { scope with names := scope.names ++ [entry] } owner rest
    return entry :: others

end

end ClassDefinition

end TypeExport

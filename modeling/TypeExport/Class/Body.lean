import TypeExport.Annotation.Evaluate
import TypeExport.Source.Expr
import TypeExport.Source.Printer

/-!
# Class bodies

Running the body of a class gives its names and its annotations.  The value of a field is there
before its annotation is evaluated, and deferred annotations are kept as texts.
-/

namespace TypeExport

/-- What a name in a class body stands for: a value, or the definition of a field of a record, of a
column or of a relation. -/
inductive BodyValue where
  | hint (h : Hint)
  | record (standard : Option Hint) (hasFactory ignored : Bool)
  | validated (excluded : Bool)
  | column (mark : ColumnMark)
  | relation (counterpart : Option String)
  deriving Repr

/-- The value as expressions in the body see it. -/
def BodyValue.meaning : BodyValue → Hint
  | .hint h => h
  | _ => .other

/-- The names and the annotations of a class body, in the order in which they came first. -/
structure ClassBody where
  names : List (String × BodyValue) := []
  annotations : List (String × Hint) := []
  deriving Repr

/-- Where a class is defined: the module, whether annotations are deferred there, the classes around
it and the names in the body of the innermost of them. -/
structure Scope where
  moduleName : String
  deferred : Bool
  enclosing : List String := []
  names : List (String × Hint) := []
  deriving Repr

namespace Scope

def meaning (w : World) (scope : Scope) (names : List (String × Hint)) (name : String) :
    Option Hint :=
  (names.lookup name).or
    (((w.names scope.moduleName).lookup name).or (Expr.builtIn? name))

/-- The value of an expression where the class itself is defined. -/
def evaluate (w : World) (scope : Scope) (e : Expr) : Except Failure Hint :=
  let e := match scope.enclosing.getLast? with
    | some owner => e.inClass owner
    | none => e
  e.evaluate w (scope.meaning w scope.names)

/-- The name of a class defined here, with those of the classes around it. -/
def qualifiedName (scope : Scope) (name : String) : String :=
  ".".intercalate (scope.enclosing ++ [name])

def within (scope : Scope) (name : String) : Scope :=
  { scope with enclosing := scope.enclosing ++ [name], names := [] }

end Scope

namespace ClassBody

variable (w : World) (scope : Scope)

/-- The names as expressions in the body see them. -/
def meanings (body : ClassBody) : List (String × Hint) :=
  body.names.map fun (name, v) => (name, v.meaning)

/-- The value of an expression in the body of the class `owner`. -/
def evaluate (owner : String) (body : ClassBody) (e : Expr) : Except Failure Hint :=
  (e.inClass owner).evaluate w (scope.meaning w body.meanings)

def fieldValue (owner : String) (form : ClassForm) (body : ClassBody) (f : FieldDefinition) :
    Except Failure (Option BodyValue) := do
  let standard ← f.standard.mapM (body.evaluate w scope owner)
  let _ ← f.factory.mapM fun name => body.evaluate w scope owner (.name name)
  match f.relation, f.column, f.excluded with
  | some counterpart, _, _ => return some (.relation counterpart)
  | none, some mark, _ => return some (.column mark)
  | none, none, some excluded => return some (.validated excluded)
  | none, none, none =>
    if f.factory.isSome || f.serializerIgnored.isSome then
      if form = .validated then return some (.validated false)
      else if standard.isSome && f.factory.isSome then
        throw (.invalidValue "cannot specify both default and default_factory")
      else
        return some (.record standard f.factory.isSome (f.serializerIgnored.getD false))
    else
      match standard, f.typeHint with
      | some h, _ => return some (.hint h)
      | none, none => return some (.hint (.constant .null))
      | none, some _ => return none

def addField (owner : String) (form : ClassForm) (body : ClassBody) (f : FieldDefinition) :
    Except Failure ClassBody := do
  let name := Name.inClass owner f.name
  let body ← match ← body.fieldValue w scope owner form f with
    | some v => pure { body with names := Keyed.put name v body.names }
    | none => pure body
  match f.typeHint with
  | none => return body
  | some e =>
    let h ← if scope.deferred then pure (.text e.text) else body.evaluate w scope owner e
    return { body with annotations := Keyed.put name h body.annotations }

/-- Gives names of the body plain values. -/
def putNames (body : ClassBody) (entries : List (String × Hint)) : ClassBody :=
  { body with names := Keyed.putAll (entries.map fun (name, h) => (name, .hint h)) body.names }

/-- Runs a body: the classes in it are there first, then come the fields, the members and the
methods. -/
def run (owner : String) (form : ClassForm) (nested : List (String × Hint))
    (fields : List FieldDefinition) (members : List (String × Value)) (methods : List String) :
    Except Failure ClassBody := do
  let start : ClassBody := {}
  let body ← fields.foldlM (addField w scope owner form) (start.putNames nested)
  let constants := members.map fun (name, v) =>
    (Name.inClass owner name, match v with
      | .text s => .text s
      | v => .constant v)
  return (body.putNames constants).putNames
    (methods.map fun name => (Name.inClass owner name, .other))

end ClassBody

end TypeExport

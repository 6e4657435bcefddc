import TypeExport.Class.Mapped

/-!
# Relations of mapped classes

The relations of a base are known only if each of them can be followed: its other end is a mapped
class of the base, one column of the two tables refers to the other table, and its counterpart leads
back.
-/

namespace TypeExport.Relations

variable (w : World)

/-- The numbers of the classes that are mapped on a base, with their mappings. -/
def mappedOn (base : ClassRef) : List (ClassRef × Mapping) :=
  ((List.range w.classes.length).map ClassRef.defined).filterMap fun c =>
    (w.mapping? c).bind fun m => if m.base = base then some (c, m) else none

def byName? (base : ClassRef) (name : String) : Option ClassRef :=
  match (mappedOn w base).filter fun (c, _) => w.shortName c == name with
  | [(c, _)] => some c
  | _ => none

/-- The meaning of a name in the annotation of a relation. -/
def meaning (base c : ClassRef) (name : String) : Option Hint :=
  (((w.names (w.moduleName c)).lookup name).or ((byName? w base name).map .type)).or
    (Expr.builtIn? name)

/-- The class at the other end of a hint. -/
def classOf : Hint → Option ClassRef
  | .type c => some c
  | .union members _ =>
    match members.filter (!·.isNullType) with
    | [.type c] => some c
    | [.applied _ arguments _] => match arguments.getLast? with
      | some (.type c) => some c
      | _ => none
    | _ => none
  | .applied _ arguments _ =>
    match arguments.getLast? with
    | some (.type c) => some c
    | _ => none
  | .annotated inner _ => classOf inner
  | _ => none

/-- The class at the other end of a relation of `c`. -/
def targetOf (base c : ClassRef) (r : Relation) : Option ClassRef :=
  match Hint.resolve w (meaning w base c) r.typeHint with
  | .ok h => classOf h
  | .error _ => none

/-- The columns of a table that refer to a table, by name. -/
def references (base : ClassRef) (fromTable toTable : String) : List String :=
  (((mappedOn w base).filter fun (_, m) => m.table == fromTable).flatMap fun (_, m) =>
    (m.columns.filter fun c => c.target.any fun t => Mapped.targetTable t == toTable).map
      (·.name)).eraseDups

/-- Whether exactly one column joins two tables. -/
def isJoined (base : ClassRef) (a b : String) : Bool :=
  if a = b then (references w base a a).length == 1
  else (references w base a b).length + (references w base b a).length == 1

/-- Whether the counterpart of a relation leads back to a class. -/
def leadsBack (base c target : ClassRef) (m : Mapping) (name : String) : Bool :=
  match m.relations.find? (·.name == name) with
  | none => false
  | some r =>
    match targetOf w base target r with
    | none => false
    | some back => w.derives back c || w.derives c back

/-- Whether a relation of the mapped class `c` can be followed. -/
def isSound (base c : ClassRef) (m : Mapping) (r : Relation) : Bool :=
  match targetOf w base c r with
  | none => false
  | some target =>
    match w.mapping? target with
    | none => false
    | some other =>
      other.base == base && isJoined w base m.table other.table &&
        match r.counterpart with
        | none => true
        | some name => m.table != other.table && leadsBack w base c target other name

/-- Whether all relations of a base can be followed. -/
def areSound (base : ClassRef) : Bool :=
  (mappedOn w base).all fun (c, m) => m.relations.all (isSound w base c m)

end TypeExport.Relations

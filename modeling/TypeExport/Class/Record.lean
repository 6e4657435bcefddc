import TypeExport.Class.Body
import TypeExport.Text.Classes

/-!
# Data records

The fields of a data record are those of its ancestors, the remotest first, and then its own
annotations; a field that comes again keeps its place.  A field without a standard value may not
follow one that has a standard value.
-/

namespace TypeExport

/-- The name of a standard module, if there is one, and the word with which an annotation begins. -/
structure LeadingWords where
  module : Option String
  word : String
  deriving DecidableEq, Repr

namespace LeadingWords

def isWordChar (c : Char) : Bool :=
  Text.isWord c.toNat

/-- A word after blanks, and the rest. -/
def word? (s : List Char) : Option (String × List Char) :=
  let s := Text.trimLeft s
  let word := s.takeWhile isWordChar
  if word.isEmpty then none else some (String.ofList word, s.dropWhile isWordChar)

/-- The words with which a text begins. -/
def ofText? (s : String) : Option LeadingWords := do
  let (first, rest) ← word? s.toList
  match Text.trimLeft rest with
  | '.' :: more =>
    match word? more with
    | some (second, _) => return ⟨some first, second⟩
    | none => return ⟨none, first⟩
  | _ => return ⟨none, first⟩

/-- What the words stand for in a module, where a leading name has to be that of `standard`. -/
def meaning? (w : World) (moduleName standard : String) (l : LeadingWords) : Option Hint :=
  match l.module with
  | none => (w.names moduleName).lookup l.word
  | some m =>
    match (w.names moduleName).lookup m with
    | some (.module name) =>
      if name = standard then
        (StandardName.find? standard l.word).map (Expr.hintOfName l.word)
      else none
    | _ => none

end LeadingWords

namespace Record

variable (w : World)

def isClassVariable : Hint → Bool
  | .classVariable _ => true
  | .form name => name == "ClassVar"
  | _ => false

def argumentClass : ClassRef := .standard "dataclasses.InitVar"

def isArgument : Hint → Bool
  | .type c => c == argumentClass
  | .applied c _ _ => c == argumentClass
  | _ => false

/-- Whether an annotation is of a kind; a text is judged by the words with which it begins. -/
def isOfKind (moduleName standard : String) (holds : Hint → Bool) : Hint → Bool
  | .text s =>
    match LeadingWords.ofText? s with
    | some l => (l.meaning? w moduleName standard).any holds
    | none => false
  | h => holds h

/-- What the annotation of a field makes of it. -/
def roleOf (moduleName : String) (typeHint : Hint) : FieldRole :=
  if isOfKind w moduleName "typing" isClassVariable typeHint then .classVariable
  else if isOfKind w moduleName "dataclasses" isArgument typeHint then .argument
  else .plain

def mutableClasses : List String :=
  ["builtins.list", "builtins.dict", "builtins.set", "builtins.bytearray", "collections.deque"]

/-- The class of a value that can change, if it is one. -/
def mutableClass? : Hint → Option ClassRef
  | .list _ => some (.standard "builtins.list")
  | .valueOf c =>
    if mutableClasses.any (w.derivesStandard c) || (w.recordFields? c).isSome || w.isValidated c
    then some c
    else none
  | _ => none

def shownClass (c : ClassRef) : String :=
  let name := match c with
    | .standard s => if World.frontPart s = "builtins" then World.lastPart s else s
    | .defined _ => w.fullName c
  "<class " ++ Quoted.readableString name ++ ">"

/-- A standard value may not be one that can change. -/
def checkStandard (name : String) (role : FieldRole) (standard : Option Hint) :
    Except Failure Unit :=
  match role, standard.bind (mutableClass? w) with
  | .plain, some c =>
    .error (.invalidValue ("mutable default " ++ shownClass w c ++ " for field " ++ name ++
      " is not allowed: use default_factory"))
  | _, _ => .ok ()

/-- The field of an annotation.  Its value may also be an attribute that an ancestor has. -/
def fieldOf (c : ClassRef) (body : ClassBody) (name : String) (typeHint : Hint) :
    Except Failure RecordField := do
  let role := roleOf w (w.moduleName c) typeHint
  match body.names.lookup name with
  | some (.record standard hasFactory ignored) =>
    if hasFactory && role != .plain then throw .illTyped
    checkStandard w name role standard
    return { name, role, hasStandard := standard.isSome || hasFactory, ignored }
  | _ =>
    let standard := w.attribute? c name
    checkStandard w name role standard
    return { name, role, hasStandard := standard.isSome, ignored := false }

/-- Fields with one more; one of the same name is replaced. -/
def putField (fields : List RecordField) (f : RecordField) : List RecordField :=
  if fields.any (·.name == f.name) then fields.map fun g => if g.name = f.name then f else g
  else fields ++ [f]

/-- The fields that the ancestors of a class have, the remotest first. -/
def inherited (order : List ClassRef) : List RecordField :=
  (order.reverse.flatMap fun k => (w.recordFields? k).getD []).foldl putField []

/-- No field without a standard value follows one that has a standard value. -/
def isOrdered (fields : List RecordField) : Bool :=
  let arguments := fields.filter fun f => f.role != .classVariable
  (arguments.dropWhile (!·.hasStandard)).all (·.hasStandard)

def isRecordValue : BodyValue → Bool
  | .record _ _ _ => true
  | _ => false

/-- The fields of a record whose ancestors are `above`. -/
def fieldsOf (c : ClassRef) (above : List ClassRef) (body : ClassBody) :
    Except Failure (List RecordField) := do
  let own ← body.annotations.mapM fun (name, typeHint) => fieldOf w c body name typeHint
  let fields := own.foldl putField (inherited w above)
  let bare := body.names.any fun (name, v) =>
    isRecordValue v && (body.annotations.lookup name).isNone
  if bare || !isOrdered fields then throw .illTyped
  return fields

/-- The attributes that are left: a field definition gives way to its standard value. -/
def attributesOf (names : List (String × BodyValue)) : List (String × Hint) :=
  names.filterMap fun (name, v) =>
    match v with
    | .record none _ _ => none
    | .record (some h) _ _ => some (name, h)
    | v => some (name, v.meaning)

end Record

end TypeExport

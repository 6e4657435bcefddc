import TypeExport.Class.Bases
import TypeExport.Name.Private
import TypeExport.Number.Numeral
import TypeExport.Text.Utf8

/-!
# Enumerations

An enumeration may have a data type among its bases, which makes the values of its members.  A
member whose value equals that of an earlier one is another name for that one.
-/

namespace TypeExport

/-- What makes the values of members. -/
inductive ValueMaker where
  | plain
  | integer
  | double
  | text
  | strictText
  | bytes
  | sequence
  | other
  deriving DecidableEq, Repr

namespace ValueMaker

/-- A tuple stands for a list of arguments. -/
def arguments : Value → List Value
  | .tuple items => items
  | v => [v]

def invalidInteger (base : Int) (v : Value) : Failure :=
  .invalidValue ("invalid literal for int() with base " ++ toString base ++ ": " ++ v.literal)

/-- The text that bytes of ASCII are. -/
def asciiText (b : List UInt8) : String :=
  String.ofList (b.map fun x => Char.ofNat x.toNat)

def integerOf : List Value → Except Failure Int
  | [] => .ok 0
  | [.int n] => .ok n
  | [.bool b] => .ok (if b then 1 else 0)
  | [.double x] =>
    match x.truncate? with
    | some n => .ok n
    | none =>
      if x == .nan then .error (.invalidValue "cannot convert float NaN to integer")
      else .error (.raised "OverflowError" "cannot convert float infinity to integer")
  | [.text s] =>
    match Numeral.readInt? s with
    | some n => .ok n
    | none => .error (invalidInteger 10 (.text s))
  | [.bytes b] =>
    match Numeral.readInt? (asciiText b) with
    | some n => .ok n
    | none => .error (invalidInteger 10 (.bytes b))
  | [.text s, base] =>
    match base.asInt? with
    | none => .error .illTyped
    | some n =>
      if n = 0 || (2 ≤ n && n ≤ 36) then
        match Numeral.readIntIn? n.toNat s with
        | some m => .ok m
        | none => .error (invalidInteger n (.text s))
      else .error (.invalidValue "int() base must be >= 2 and <= 36, or 0")
  | _ => .error .illTyped

def doubleOf : List Value → Except Failure Double
  | [] => .ok .zero
  | [.int n] =>
    match Double.ofInt n with
    | .infinity _ => .error (.raised "OverflowError" "int too large to convert to float")
    | x => .ok x
  | [.bool b] => .ok (Double.ofInt (if b then 1 else 0))
  | [.double x] => .ok x
  | [.text s] =>
    match Numeral.readDouble? s with
    | some x => .ok x
    | none =>
      .error (.invalidValue ("could not convert string to float: " ++ Quoted.readableString s))
  | [.bytes b] =>
    match Numeral.readDouble? (asciiText b) with
    | some x => .ok x
    | none =>
      .error (.invalidValue ("could not convert string to float: " ++ Quoted.readableBytes b))
  | _ => .error .illTyped

/-- The text that bytes are in an encoding. -/
def decodeAs (encoding : String) (b : List UInt8) : Except Failure String :=
  let name := String.ofList ((encoding.toList.map Char.toLower).filter fun c => c != '-' && c != '_')
  if name = "utf8" then
    match Utf8.decode? b with
    | some chars => .ok (String.ofList chars)
    | none => .error (.raised "UnicodeDecodeError" "invalid start byte")
  else if name = "latin1" then .ok (asciiText b)
  else if name = "ascii" then
    if b.all (· < 128) then .ok (asciiText b)
    else .error (.raised "UnicodeDecodeError" "ordinal not in range(128)")
  else .error (.raised "LookupError" ("unknown encoding: " ++ encoding))

def textOf : List Value → Except Failure String
  | [] => .ok ""
  | [v] => .ok v.display
  | .bytes b :: .text encoding :: _ => decodeAs encoding b
  | _ => .error .illTyped

def isText : Value → Bool
  | .text _ => true
  | _ => false

def bytesOf : List Value → Except Failure (List UInt8)
  | [] => .ok []
  | [.bytes b] => .ok b
  | [.text s, .text _] => .ok (Utf8.encode s)
  | [v] =>
    match v.asInt? with
    | some n =>
      if n < 0 then .error (.invalidValue "negative count")
      else .ok (List.replicate n.toNat 0)
    | none => .error .illTyped
  | _ => .error .illTyped

/-- The value of a member that is given as `v`. -/
def make (v : Value) : ValueMaker → Except Failure Value
  | plain => .ok v
  | integer => (integerOf (arguments v)).map .int
  | double => (doubleOf (arguments v)).map .double
  | text => (textOf (arguments v)).map .text
  | strictText =>
    match arguments v with
    | [one] => if isText one then .ok one else .error .illTyped
    | several => (textOf several).map .text
  | bytes => (bytesOf (arguments v)).map .bytes
  | sequence => .ok (.tuple (arguments v))
  | other => .error .illTyped

end ValueMaker

namespace World

variable (w : World)

def isStored (c : ClassRef) : Bool :=
  w.storage c != objectClass

def dataTypeOf (c : ClassRef) : Option ClassRef :=
  if w.isEnumeration c then (w.order c).find? fun k => !w.isEnumeration k && w.isStored k
  else if w.isStored c then some c
  else none

/-- The data type of an enumeration with some bases; there may be only one. -/
def dataType (bases : List ClassRef) : Except Failure (Option ClassRef) :=
  match (bases.filterMap w.dataTypeOf).eraseDups with
  | [] => .ok none
  | [c] => .ok (some c)
  | _ => .error .illTyped

/-- What makes the values of the members of an enumeration with some bases. -/
def valueMaker (bases : List ClassRef) : Except Failure ValueMaker := do
  let some c ← w.dataType bases | return .plain
  if bases.any (w.derivesStandard · "enum.StrEnum") then return .strictText
  else if w.derivesStandard c "builtins.int" then return .integer
  else if w.derivesStandard c "builtins.float" then return .double
  else if w.derivesStandard c "builtins.str" then return .text
  else if w.derivesStandard c "builtins.bytes" then return .bytes
  else if w.derivesStandard c "builtins.tuple" then return .sequence
  else return .other

def hasMembers (c : ClassRef) : Bool :=
  (w.info? c).any fun info => w.isEnumeration c && !info.members.isEmpty

/-- An enumeration comes last among the bases, and none of them has members. -/
def checkEnumeration (bases : List ClassRef) : Except Failure Unit :=
  if bases.any (fun c => (w.order c).any w.hasMembers) then .error .illTyped
  else
    match bases.getLast? with
    | some last => if w.isEnumeration last then .ok () else .error .illTyped
    | none => .error .illTyped

end World

namespace Enumeration

/-- The reserved names that an enumeration may define. -/
def controlNames : List String :=
  ["_order_", "_generate_next_value_", "_numeric_repr_", "_missing_", "_ignore_", "_iter_member_",
   "_iter_member_by_value_", "_iter_member_by_def_"]

/-- What a name in the body of an enumeration is. -/
inductive NameRole where
  | member
  | attribute
  deriving DecidableEq, Repr

def roleOf (className : String) (earlier : List String) (name : String) :
    Except Failure NameRole :=
  if Name.isPrivateOf className name then .ok .attribute
  else if Name.isReservedName name then
    if controlNames.contains name then .ok .attribute
    else .error (.invalidValue ("_sunder_ names, such as " ++ Quoted.readableString name ++
      ", are reserved for future Enum use"))
  else if Name.isSystemName name then .ok .attribute
  else if earlier.contains name then .error .illTyped
  else .ok .member

/-- A member may not have the name of the linearisation. -/
def checkNames (names : List String) : Except Failure Unit :=
  if names.contains "mro" then .error (.invalidValue "invalid enum member name(s) 'mro'") else .ok ()

def memberNames (className : String) : (earlier : List String) → List String →
    Except Failure (List String)
  | earlier, [] => .ok earlier
  | earlier, name :: rest => do
    match ← roleOf className earlier name with
    | .member => memberNames className (earlier ++ [name]) rest
    | .attribute => memberNames className earlier rest

/-- The members so far with one more: of equal values the first one stays. -/
def addMember (members : List Member) (name : String) (value : Value) : List Member :=
  match members.find? fun m => m.value.same value with
  | some m => members ++ [{ name, value := m.value }]
  | none => members ++ [{ name, value }]

def membersOf (maker : ValueMaker) (entries : List (String × Value)) :
    Except Failure (List Member) :=
  entries.foldlM (fun members (name, v) => do return addMember members name (← maker.make v)) []

end Enumeration

end TypeExport

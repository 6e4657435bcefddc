/-!
# Primitive types

Source types that the target language knows by a name of its own.
-/

namespace TypeExport.Primitive

/-- The target type of everything that has no better one. -/
def fallback : String := "any"

/-- The source type that makes a dictionary a record. -/
def textKey : String := "builtins.str"

/-- Source types by qualified name, and the target types they become. -/
def table : List (String × String) :=
  [("builtins.str", "string"),
   ("builtins.bool", "boolean"),
   ("builtins.int", "number"),
   ("builtins.float", "number"),
   ("builtins.complex", "number"),
   ("decimal.Decimal", "number"),
   ("datetime.datetime", "Date"),
   ("datetime.date", "Date"),
   ("datetime.time", "string"),
   ("datetime.timedelta", "string"),
   ("uuid.UUID", "string"),
   ("builtins.bytes", "string"),
   ("builtins.bytearray", "string"),
   ("builtins.object", "any"),
   ("typing.Any", "any")]

/-- Types whose values are never missing unless they are nullable. -/
def requiredTypes : List String :=
  ["builtins.bool", "builtins.int", "builtins.float", "builtins.complex", "decimal.Decimal",
   "datetime.datetime", "datetime.date", "datetime.time", "datetime.timedelta", "uuid.UUID"]

def isPrimitive (qualifiedName : String) : Bool :=
  (table.lookup qualifiedName).isSome

def targetType (qualifiedName : String) : String :=
  (table.lookup qualifiedName).getD fallback

def isRequired (qualifiedName : String) : Bool :=
  requiredTypes.contains qualifiedName

end TypeExport.Primitive

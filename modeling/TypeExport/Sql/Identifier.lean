import TypeExport.Text.Case
import TypeExport.Text.Classes
import TypeExport.Text.Split

/-!
# SQL identifiers

A possibly qualified identifier is quoted part by part, where a part needs it.
-/

namespace TypeExport.Sql

/-- Words that are quoted in any letter case. -/
def reservedWords : List String :=
  ["order", "group", "user", "role", "type", "class", "namespace", "public", "private",
   "protected", "internal", "static", "readonly", "const", "new", "override", "virtual",
   "abstract", "sealed", "partial", "async", "await", "using", "var", "dynamic",
   "true", "false", "null", "this", "base", "return", "if", "else", "switch", "case",
   "default", "for", "foreach", "while", "do", "break", "continue", "try", "catch",
   "finally", "throw", "lock", "checked", "unchecked", "unsafe", "fixed", "sizeof",
   "typeof", "nameof", "is", "as", "in", "out", "ref", "params", "delegate", "event",
   "operator", "implicit", "explicit", "interface", "struct", "enum", "union", "select"]

/-- Two or more characters between double quotes, these included. -/
def isQuoted (part : List Char) : Bool :=
  decide (2 ≤ part.length) && part.head? == some '"' && part.getLast? == some '"'

def isReserved (part : List Char) : Bool :=
  reservedWords.contains (Text.lower (String.ofList part))

def needsQuotes (part : List Char) : Bool :=
  isReserved part ||
    !(part.head?.any fun c => Text.isLetter c.toNat) ||
    part.any fun c => !Text.isWord c.toNat

def quotePart (part : List Char) : List Char :=
  if isQuoted part then part else if needsQuotes part then '"' :: part ++ ['"'] else part

/-- Quotes each part of an identifier where required; a blank one is left alone. -/
def quoteName (identifier : String) : String :=
  if Text.allBlank identifier then identifier
  else
    String.ofList (Text.joinWith '.' ((Text.splitOn '.' identifier.toList).map quotePart))

end TypeExport.Sql

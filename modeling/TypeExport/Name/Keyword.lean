import TypeExport.Text.Classes

/-!
# Keywords and identifiers

The names that a Python class body may assign to: identifiers that are not keywords.
-/

namespace TypeExport.Name

def keywords : List String :=
  ["False", "None", "True", "and", "as", "assert", "async", "await", "break", "class", "continue",
   "def", "del", "elif", "else", "except", "finally", "for", "from", "global", "if", "import", "in",
   "is", "lambda", "nonlocal", "not", "or", "pass", "raise", "return", "try", "while", "with",
   "yield"]

def isKeyword (name : String) : Bool :=
  keywords.contains name

def isIdentifier (name : String) : Bool :=
  Text.isIdentifier (name.toList.map Char.toNat)

end TypeExport.Name

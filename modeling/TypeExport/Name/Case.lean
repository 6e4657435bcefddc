import TypeExport.Text.Case

/-!
# The case of names

Names of fields and of generated files are in camel case: only their first character changes.  The
files of enum modules are named in snake case.
-/

namespace TypeExport.Name

def lowerFirst : List Char → List Char
  | [] => []
  | c :: rest => Text.lowerChar c ++ rest

/-- The name with its first character in lower case. -/
def camel (name : String) : String :=
  String.ofList (lowerFirst name.toList)

/-- The name of the file that declares `target`, without its extension. -/
def fileBase (target : String) : String :=
  camel target

/-!
## Snake case

A low line goes before the last capital of a run that a small letter follows, and then between a
small letter or digit and a capital.  Only ASCII letters and digits count.
-/

def isCapital (c : Char) : Bool := 'A' ≤ c && c ≤ 'Z'

def isSmall (c : Char) : Bool := 'a' ≤ c && c ≤ 'z'

def isSmallOrDigit (c : Char) : Bool := isSmall c || ('0' ≤ c && c ≤ '9')

/-- Parts a run of capitals from the word that its last capital starts. -/
def partAcronyms : List Char → List Char
  | a :: b :: c :: rest =>
    if isCapital a && isCapital b && isSmall c then a :: '_' :: partAcronyms (b :: c :: rest)
    else a :: partAcronyms (b :: c :: rest)
  | s => s

/-- Parts a word from the one before it. -/
def partWords : List Char → List Char
  | a :: b :: rest =>
    if isSmallOrDigit a && isCapital b then a :: '_' :: partWords (b :: rest)
    else a :: partWords (b :: rest)
  | s => s

def moduleFile (enumName : String) : String :=
  Text.lower (String.ofList (partWords (partAcronyms enumName.toList))) ++ ".py"

end TypeExport.Name

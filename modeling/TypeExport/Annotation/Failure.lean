import TypeExport.Class.StandardTable
import TypeExport.Text.Quoted

/-!
# Failures of source modules

Why an expression has no value, a class cannot be defined, or a module cannot be imported.
-/

namespace TypeExport

/-- The place of a module from which a name cannot be imported. -/
inductive ImportPlace where
  | unknown
  | path (text : String)
  | unfinished (text : String)
  deriving DecidableEq, Repr

/-- A module with its place. -/
def ImportPlace.text (moduleName : String) : ImportPlace → String
  | unknown => moduleName ++ " (unknown location)"
  | path text => moduleName ++ " (" ++ text ++ ")"
  | unfinished text =>
    "partially initialized module " ++ moduleName ++
      " (most likely due to a circular import) (" ++ text ++ ")"

/-- A failure.  What a module raises itself has a kind and a message of its own; of the failures of
a library only the kind is kept. -/
inductive Failure where
  | undefinedName (name : String)
  | missingAttribute (owner name : String)
  | illTyped
  | unreadable
  | zeroDivision
  | emptyText
  | invalidValue (message : String)
  | missingModule (name : String) (owner : Option String)
  | missingName (name moduleName : String) (place : ImportPlace)
  | relativeName
  | noSource (path : String)
  | isDirectory (path : String)
  | tooLong (path : String)
  | tooDeep
  | raised (kind message : String)
  | library (kind : String)
  deriving DecidableEq, Repr

namespace Failure

def kind : Failure → String
  | .undefinedName _ => "NameError"
  | .missingAttribute _ _ => "AttributeError"
  | .illTyped => "TypeError"
  | .unreadable => "SyntaxError"
  | .zeroDivision => "ZeroDivisionError"
  | .emptyText => "IndexError"
  | .invalidValue _ => "ValueError"
  | .missingModule _ _ => "ModuleNotFoundError"
  | .missingName _ _ _ => "ImportError"
  | .relativeName => "ImportError"
  | .noSource _ => "ImportError"
  | .isDirectory _ => "IsADirectoryError"
  | .tooLong _ => "OSError"
  | .tooDeep => "RecursionError"
  | .raised kind _ => kind
  | .library kind => kind

def message : Failure → String
  | .undefinedName name => "name " ++ Quoted.readableString name ++ " is not defined"
  | .missingAttribute owner name =>
    owner ++ " has no attribute " ++ Quoted.readableString name
  | .illTyped => "unsupported operand"
  | .unreadable => "invalid syntax"
  | .zeroDivision => "division by zero"
  | .emptyText => "string index out of range"
  | .invalidValue message => message
  | .missingModule name none => "No module named " ++ Quoted.readableString name
  | .missingModule name (some owner) =>
    "No module named " ++ Quoted.readableString name ++ "; " ++ Quoted.readableString owner ++
      " is not a package"
  | .missingName name moduleName place =>
    "cannot import name " ++ Quoted.readableString name ++ " from " ++
      place.text (Quoted.readableString moduleName)
  | .relativeName => "no package specified for a relative module name"
  | .noSource path => "Cannot create an import spec for " ++ path
  | .isDirectory path => "[Errno 21] Is a directory: " ++ Quoted.readableString path
  | .tooLong path => "[Errno 36] File name too long: " ++ Quoted.readableString path
  | .tooDeep => "maximum recursion depth exceeded"
  | .raised kind message => if kind = "KeyError" then Quoted.readableString message else message
  | .library kind => kind

/-- Whether the failure is of a kind or of one below it. -/
def derives (f : Failure) (name : String) : Bool :=
  f.kind == name ||
    (StandardClass.find? ("builtins." ++ f.kind)).any fun c =>
      c.ancestors.contains ("builtins." ++ name)

/-- Whether an annotation that fails in this way is left as it is. -/
def isTolerated (f : Failure) : Bool :=
  ["NameError", "TypeError", "SyntaxError", "AttributeError"].any f.derives

/-- Whether a module that fails in this way counts as not found when something below it is looked
for. -/
def hidesModule (f : Failure) : Bool :=
  ["ImportError", "ValueError"].any f.derives

/-- Whether the failure is of a module and does not end the whole run. -/
def isOrdinary (f : Failure) : Bool :=
  !(["BaseException", "BaseExceptionGroup", "GeneratorExit", "KeyboardInterrupt",
    "SystemExit"].contains f.kind)

end Failure

end TypeExport

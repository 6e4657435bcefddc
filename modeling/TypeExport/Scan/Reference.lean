import TypeExport.Annotation.Evaluate
import TypeExport.Class.World
import TypeExport.Text.Quoted

/-!
# References to values

A reference such as `module:Outer.Inner` names a value of an imported module.  Without a module it
names a built-in one.
-/

namespace TypeExport.World

variable (w : World)

def valueOfName (moduleName name : String) : Option Hint :=
  if moduleName.isEmpty then Expr.builtIn? name
  else
    ((w.names moduleName).lookup name).or
      ((StandardName.find? moduleName name).map (Expr.hintOfName name))

def valueAt (reference : String) : Except Failure Hint :=
  match reference.splitOn ":" with
  | [moduleName, path] =>
    (Expr.ofPath (path.splitOn ".")).evaluate w (w.valueOfName moduleName)
  | _ => .error (.undefinedName reference)

/-- The text of what an annotation notes beside a type; other values have none. -/
def noteText : Hint → String
  | .note (.reference none) => "ForeignKey(column=None)"
  | .note (.reference (some column)) => "ForeignKey(column=" ++ Quoted.readableString column ++ ")"
  | .note .ignore => "JsonIgnore()"
  | .text s => Quoted.readableString s
  | .type c => "<class " ++ Quoted.readableString (w.fullName c) ++ ">"
  | _ => ""

end TypeExport.World

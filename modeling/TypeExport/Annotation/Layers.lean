import TypeExport.Annotation.Hint
import TypeExport.Text.Classes
import TypeExport.Text.Split

/-!
# Layers of annotations

Around the type of an annotation there may be notes, and forms that say that it is final, that it is
a class variable, that it is mapped or that it has a name of its own.
-/

namespace TypeExport

/-- The type of an annotation, and what the layers around it say.  Notes of outer layers come
first. -/
structure Layers where
  core : Hint
  notes : List Hint := []
  isFinal : Bool := false
  isClassVariable : Bool := false
  deriving Repr

namespace Hint

def mappedClass : ClassRef := .standard "sqlalchemy.orm.base.Mapped"

/-- How a text begins that declares a class variable. -/
def classVariableWords : List (List Char) :=
  ["ClassVar".toList, "typing.ClassVar".toList]

/-- Whether a text that has not been evaluated declares a class variable. -/
def declaresClassVariable (s : String) : Bool :=
  let text := Text.trimLeft s.toList
  classVariableWords.any fun word => word.isPrefixOf text

mutual

/-- Takes the layers off a hint. -/
def layers : Hint → Layers
  | .annotated inner notes =>
    let l := layers inner
    { l with notes := notes ++ l.notes }
  | .final inner => { layers inner with isFinal := true }
  | .classVariable inner => { layers inner with isClassVariable := true }
  | .form "Final" => { core := any, isFinal := true }
  | .form "ClassVar" => { core := any, isClassVariable := true }
  | .applied origin arguments native =>
    if origin = mappedClass then firstLayers arguments
    else { core := .applied origin arguments native }
  | .newType _ base => layers base
  | .text s => { core := .text s, isClassVariable := declaresClassVariable s }
  | h => { core := h }

def firstLayers : List Hint → Layers
  | [] => { core := any }
  | h :: _ => layers h

end

/-- Whether an annotation is mapped; one that is still a text has to spell it. -/
def isMapped : Hint → Bool
  | .text s => Text.occurs "Mapped[".toList s.toList
  | .annotated (.text _) _ => false
  | .annotated inner _ => isMapped inner
  | .applied origin _ _ => origin == mappedClass
  | _ => false

end Hint

end TypeExport

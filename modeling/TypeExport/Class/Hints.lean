import TypeExport.Annotation.Forward
import TypeExport.Class.World

/-!
# Hints of classes

The hints of a class are those of all classes of its linearisation, the remotest first: a name that
comes again keeps its place and takes the later hint.  First all annotations are evaluated together.
If one fails, each is evaluated alone, and one that cannot be evaluated stays as it is.
-/

namespace TypeExport.World

variable (w : World)

/-- The meaning of a name where all annotations of a class are evaluated together: names of the
module go before attributes of the class. -/
def jointMeaning (c : ClassRef) (name : String) : Option Hint :=
  ((w.names (w.moduleName c)).lookup name).or
    (((w.attributes c).lookup name).or (Expr.builtIn? name))

/-- The meaning of a name where one annotation of a class is evaluated alone: attributes of the
class go before names of the module. -/
def separateMeaning (c : ClassRef) (name : String) : Option Hint :=
  ((w.attributes c).lookup name).or
    (((w.names (w.moduleName c)).lookup name).or (Expr.builtIn? name))

/-- The hints of the annotations of one class, each found by `evaluate`. -/
def ownHints (evaluate : ClassRef → Hint → Except Failure Hint) (c : ClassRef) :
    Except Failure (List (String × Hint)) :=
  (w.annotations c).mapM fun (name, typeHint) => do return (name, ← evaluate c typeHint)

/-- The hints of all classes of a linearisation, the remotest first. -/
def collectHints (evaluate : ClassRef → Hint → Except Failure Hint) (c : ClassRef) :
    Except Failure (List (String × Hint)) := do
  let all ← (w.order c).reverse.mapM (w.ownHints evaluate)
  return Keyed.putAll all.flatten []

/-- Evaluates an annotation together with all others. -/
def jointHint (c : ClassRef) (typeHint : Hint) : Except Failure Hint :=
  Hint.ofAnnotation w (w.jointMeaning c) typeHint

/-- Evaluates an annotation alone.  A failure that is tolerated leaves it as it is. -/
def separateHint (c : ClassRef) (typeHint : Hint) : Except Failure Hint :=
  match Hint.ofAnnotation w (w.separateMeaning c) typeHint with
  | .ok h => .ok h
  | .error f => if f.isTolerated then .ok typeHint else .error f

def hints (c : ClassRef) : Except Failure (List (String × Hint)) :=
  match w.collectHints w.jointHint c with
  | .ok hints => .ok hints
  | .error _ => w.collectHints w.separateHint c

end TypeExport.World

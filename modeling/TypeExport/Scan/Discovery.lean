import TypeExport.Scan.Catalog
import TypeExport.Scan.Description

/-!
# Classes of modules

A module defines the classes among its names that say so themselves.  Those that can be written out
are available, and the marked ones are roots.
-/

namespace TypeExport

namespace World

variable (w : World)

def namesOf : ModuleHandle → List (String × Hint)
  | .outside _ => []
  | .inside index => ((w.modules[index]?).map (·.names)).getD []

/-- The classes that a module defines, in the order of its names. -/
def classesOf (h : ModuleHandle) : List ClassRef :=
  (w.namesOf h).filterMap fun (_, v) =>
    match v with
    | .type c => if w.moduleName c = h.name w then some c else none
    | _ => none

/-- Whether a class is public, complete and not the definition of a generic class or protocol. -/
def isAvailable (c : ClassRef) : Bool :=
  (w.shortName c).toList.head? != some '_' && !w.isAbstract c && (w.parameters c).isEmpty &&
    !w.isProtocol c

def availableClasses (modules : List ModuleHandle) : List ClassRef :=
  (modules.flatMap w.classesOf).filter w.isAvailable

def markedClasses (modules : List ModuleHandle) : List ClassRef :=
  (modules.flatMap w.classesOf).filter fun c => (w.marker? c).isSome

/-- The classes whose full names are not among `seen` and differ from one another, the first of
each. -/
def firstOfName (seen : List String) : List ClassRef → List ClassRef
  | [] => []
  | c :: rest =>
    if seen.contains (w.fullName c) then firstOfName seen rest
    else c :: firstOfName (w.fullName c :: seen) rest

/-- The roots of loaded targets, the first of every full name. -/
def rootsOf : (seen : List String) → List LoadedTarget → List (Target × List ClassRef)
  | _, [] => []
  | seen, t :: rest =>
    let found := w.firstOfName seen (w.markedClasses t.modules)
    (t.target, found) :: rootsOf (found.map w.fullName ++ seen) rest

end World

end TypeExport

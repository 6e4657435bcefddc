import TypeExport.Annotation.Failure
import TypeExport.Generation.Basic
import TypeExport.Lookup.EnumFiles
import TypeExport.Scan.Target

/-!
# What a run gives

The paths of all written files and the number of roots, or the reason why the run fails.
-/

namespace TypeExport

structure RunSummary where
  moduleFiles : List Path := []
  discovered : Nat := 0
  generated : Generated := {}
  deriving Repr

namespace RunSummary

def text (s : RunSummary) : String :=
  "database enums: " ++ toString s.moduleFiles.length ++
    ", discovered types: " ++ toString s.discovered ++
    ", interfaces: " ++ toString s.generated.interfaceFiles.length ++
    ", enums: " ++ toString s.generated.enumFiles.length ++
    ", index files: " ++ toString s.generated.manifestFiles.length

end RunSummary

inductive RunError where
  | lookup (cause : LookupError)
  | scan (cause : ScanError)
  | generation (cause : GenerationError Failure)
  deriving Repr

namespace RunError

def message : RunError → String
  | .lookup cause => cause.message
  | .scan cause => cause.message
  | .generation cause => cause.message

def inner? : RunError → Option String
  | .lookup cause => cause.inner?
  | .scan cause => cause.inner?
  | .generation cause => cause.inner? Failure.message

/-- Whether the failure is reported as one of the run. -/
def isOrdinary : RunError → Bool
  | .scan cause => cause.isOrdinary
  | .lookup _ | .generation _ => true

end RunError

end TypeExport

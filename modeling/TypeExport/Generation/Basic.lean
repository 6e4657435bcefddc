import TypeExport.Declaration.Draft
import TypeExport.File.Write
import TypeExport.Log.Basic

/-!
# What a generation gives

The paths of the files by category, the reasons why a generation fails, and what happens on its way.
-/

namespace TypeExport

inductive Category where
  | interfaces
  | enumerations
  deriving DecidableEq, Repr

/-- The category of a kind of types; primitive types have none. -/
def TypeKind.category? : TypeKind → Option Category
  | .record | .interface => some .interfaces
  | .enumeration => some .enumerations
  | .primitive => none

def Category.label : Category → String
  | .interfaces => "interface"
  | .enumerations => "enum"

structure OutputDirectories where
  interfaces : Path
  enumerations : Path
  deriving Repr

def OutputDirectories.of (d : OutputDirectories) : Category → Path
  | .interfaces => d.interfaces
  | .enumerations => d.enumerations

structure Generated where
  interfaceFiles : List Path := []
  enumFiles : List Path := []
  manifestFiles : List Path := []
  deriving Repr

/-- The number of generated files, the manifests apart. -/
def Generated.total (g : Generated) : Nat :=
  g.interfaceFiles.length + g.enumFiles.length

/-- Why the file of one type is not there. -/
inductive RootCause (ε : Type) where
  | properties (cause : ε)
  | write (cause : WriteError)
  deriving Repr

/-- A type whose file is not there. -/
structure RootFailure (ε : Type) where
  category : Category
  fullName : String
  cause : RootCause ε
  deriving Repr

inductive GenerationError (ε : Type) where
  | root (failure : RootFailure ε)
  | output (cause : WriteError)
  deriving Repr

def RootCause.message {ε : Type} (describe : ε → String) : RootCause ε → String
  | .properties cause => describe cause
  | .write cause => cause.message

def RootFailure.message {ε : Type} (f : RootFailure ε) : String :=
  "Failed to generate " ++ f.category.label ++ ": " ++ f.fullName

def RootFailure.line {ε : Type} (describe : ε → String) (f : RootFailure ε) : LogLine :=
  .error ("Failed to generate " ++ f.category.label ++ " for type " ++ f.fullName ++ ": " ++
    f.cause.message describe)

def GenerationError.message {ε : Type} : GenerationError ε → String
  | .root failure => failure.message
  | .output cause => cause.message

def GenerationError.inner? {ε : Type} (describe : ε → String) : GenerationError ε → Option String
  | .root failure => some (failure.cause.message describe)
  | .output cause => cause.inner?

/-- What happens on the way: a line is logged, or the properties of a type are read. -/
inductive GenerationEvent (ν : Type) where
  | line (l : LogLine)
  | read (type : ν)

def GenerationEvent.map {ν μ : Type} (f : ν → μ) : GenerationEvent ν → GenerationEvent μ
  | .line l => .line l
  | .read t => .read (f t)

def GenerationEvent.line? {ν : Type} : GenerationEvent ν → Option LogLine
  | .line l => some l
  | .read _ => none

end TypeExport
